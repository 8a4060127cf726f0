import ClientGen.Disk.AtomicWrite
import ClientGen.Json.Parser
import ClientGen.Settings.Records

/-!
The file with the defaults of a project: the nearest one at or above a directory.
-/

namespace ClientGen.Project

/-- The name of the file. -/
def fileName : String := "specgen.json"

/-- The first directory, counted upwards from a place, where the file stands. -/
def findAbove (disk : Disk) : Nat → Place → Except DiskFault (Option Place)
  | 0, _ => .ok none
  | fuel + 1, directory =>
    let candidate := directory ++ [fileName]
    let path : Path := ⟨.root, candidate⟩
    match disk.locate path with
    | .error .nameTooLong => .error ⟨.nameTooLong, disk.pathText path, none⟩
    | _ =>
      match disk.at? candidate with
      | some (.file _) => .ok (some candidate)
      | _ => if directory.isEmpty then .ok none else findAbove disk fuel directory.dropLast

/-- The place of the file nearest to a directory, or to the working directory. -/
def find? (disk : Disk) (start : Option Path) : Except DiskFault (Option Place) :=
  if start.all Path.isUsable then
    let directory := start.elim disk.here fun path => Disk.flatten disk.here path
    findAbove disk (directory.length + 1) directory
  else .error ⟨.notPath, "", none⟩

/-- Reads the bytes of a file with defaults. -/
def ofBytes (path : String) (bytes : List UInt8) : Except Fault Project :=
  match Text.decode bytes with
  | .error fault => .error (.config (.projectUnreadable path fault.message))
  | .ok chars =>
    match Json.parse (String.ofList (Text.unifyLineBreaks chars)) with
    | .error (.malformed fault) => .error (.config (.projectNotJson path fault))
    | .error (.tooManyDigits count) =>
      .error (.config (.projectUnreadable path (Json.digitLimitText count)))
    | .ok v =>
      match ofValue v with
      | .ok project => .ok project
      | .error violations => .error (.config (.projectInvalid path violations))

/-- The defaults that apply in a directory, with the place of their file. -/
def load (disk : Disk) (start : Option Path) : Except Fault (Option String × Project) :=
  match find? disk start with
  | .error fault => .error fault.toFault
  | .ok none => .ok (none, empty)
  | .ok (some place) =>
    let path := disk.pathText ⟨.root, place⟩
    match disk.at? place with
    | some (.file bytes) => do return (some path, ← ofBytes path bytes)
    | _ => .ok (none, empty)

end ClientGen.Project
