import ClientGen.Disk.Basic
import ClientGen.Settings.Sources

/-!
The directory for the data that the program keeps: below the data directory of the user where the
platform has such a thing, else in the home directory.
-/

namespace ClientGen.DataDirectory

/-- Platforms on which users have a data directory. -/
def hasUserData (platform : String) : Bool := platform = "Linux" || Text.endsWith platform "BSD"

/-- The home directory. -/
def home (disk : Disk) (env : Environment) : Path := disk.parsePath ((env.get? "HOME").getD "/")

/-- The directory for the program's data. -/
def path (disk : Disk) (env : Environment) (platform : String) : Path :=
  if hasUserData platform then
    let stated := (env.get? "XDG_DATA_HOME").getD ""
    let base :=
      if stated.isEmpty then ((home disk env).child ".local").child "share"
      else disk.parsePath stated
    base.child "specgen"
  else (home disk env).child ".specgen"

/-- Makes the directory, unless it is there. -/
def make (disk : Disk) (env : Environment) (platform : String) : Except Fault Path × Disk :=
  let path := path disk env platform
  match disk.makeDirectories path with
  | (none, disk) => (.ok path, disk)
  | (some fault, disk) => (.error fault.toFault, disk)

end ClientGen.DataDirectory
