import ClientGen.Disk.Path
import ClientGen.Fault
import ClientGen.Text.Utf8

/-!
The disk as far as a run can see it: files and directories below one root, and the working directory.
-/

namespace ClientGen

/-- What stands at a place of the disk. -/
inductive DiskEntry where
  | file (bytes : List UInt8)
  | directory
  deriving DecidableEq, Inhabited, Repr

/-- A place of the disk: the parts from the root. -/
abbrev Place := List String

/-- Files and directories by place. The root itself is always a directory. -/
structure Disk where
  entries : List (Place × DiskEntry) := []
  here : Place := []
  rootText : String := "/"
  /-- The unpredictable part of the names of temporary files. -/
  token : String := "x"
  deriving Inhabited, Repr

/-- Why an operation on the disk fails, with the path it was asked for and, for a move, the target. -/
inductive DiskProblem where
  | missing
  | taken
  | notDirectory
  | isDirectory
  | busy
  | nameTooLong
  /-- The path has a character that no path can have. -/
  | notPath
  | other (number : Nat) (text : String)
  deriving DecidableEq, Repr

structure DiskFault where
  problem : DiskProblem
  path : String
  target : Option String := none
  deriving DecidableEq, Repr

namespace DiskProblem

def number : DiskProblem → Nat
  | missing => 2
  | taken => 17
  | notDirectory => 20
  | isDirectory => 21
  | busy => 16
  | nameTooLong => 36
  | notPath => 22
  | other n _ => n

def text : DiskProblem → String
  | missing => "No such file or directory"
  | taken => "File exists"
  | notDirectory => "Not a directory"
  | isDirectory => "Is a directory"
  | busy => "Device or resource busy"
  | nameTooLong => "File name too long"
  | notPath => "embedded null byte"
  | other _ t => t

def kind : DiskProblem → FaultKind
  | missing => .noFile
  | taken => .alreadyExists
  | notDirectory => .notDirectory
  | isDirectory => .isDirectory
  | notPath => .badValue
  | _ => .system

end DiskProblem

namespace DiskFault

def message (f : DiskFault) : String :=
  if f.problem = .notPath then f.problem.text
  else "[Errno " ++ toString f.problem.number ++ "] " ++ f.problem.text ++ ": " ++
    Text.quoted f.path ++ (f.target.map fun t => " -> " ++ Text.quoted t).getD ""

def toFault (f : DiskFault) : Fault := .raised f.problem.kind f.message

end DiskFault

namespace Disk

/-- What stands at a place. -/
def at? (disk : Disk) (place : Place) : Option DiskEntry :=
  if place.isEmpty then some .directory
  else (disk.entries.find? fun entry => entry.1 = place).map (·.2)

/-- The disk with an entry at a place. -/
def put (disk : Disk) (place : Place) (entry : DiskEntry) : Disk :=
  { disk with entries := (disk.entries.filter fun e => e.1 ≠ place) ++ [(place, entry)] }

/-- The disk without the entry at a place. -/
def remove (disk : Disk) (place : Place) : Disk :=
  { disk with entries := disk.entries.filter fun e => e.1 ≠ place }

/-- The disk with an entry at a place, and with the directories above it as far as they are missing. -/
def plant (disk : Disk) (place : Place) (entry : DiskEntry) : Disk :=
  let above := (List.range place.length).map place.take
  (above.foldl (fun d dir => if (d.at? dir).isSome then d else d.put dir .directory) disk).put place
    entry

/-- The entries of a disk that differ from what was there before. -/
def changesSince (disk before : Disk) : List (Place × DiskEntry) :=
  disk.entries.filter fun (place, entry) => before.at? place ≠ some entry

/-- Goes on from a place by parts; every place that is left behind must be a directory. -/
def descend (disk : Disk) : Place → List String → Except DiskProblem Place
  | place, [] => .ok place
  | place, part :: rest =>
    match disk.at? place with
    | none => .error .missing
    | some (.file _) => .error .notDirectory
    | some .directory =>
      if part = ".." then disk.descend place.dropLast rest
      else if 255 < part.utf8ByteSize then .error .nameTooLong
      else disk.descend (place ++ [part]) rest

/-- How many bytes a path has at most. -/
def pathLimit : Nat := 4095

def parsePath (disk : Disk) (text : String) : Path := Path.parse disk.rootText text

def pathText (disk : Disk) (path : Path) : String := path.text disk.rootText

/-- The place that a path leads to, which need not hold anything. -/
def locate (disk : Disk) (path : Path) : Except DiskProblem Place :=
  if !path.isUsable then .error .notPath
  else if pathLimit < (disk.pathText path).utf8ByteSize then .error .nameTooLong
  else match path.anchor with
    | .here => disk.descend disk.here path.parts
    | .root => disk.descend [] path.parts
    | .outside => .error .missing

/-- What a path leads to. -/
def find? (disk : Disk) (path : Path) : Option DiskEntry :=
  match disk.locate path with
  | .ok place => disk.at? place
  | .error _ => none

def isFile (disk : Disk) (path : Path) : Bool :=
  match disk.find? path with
  | some (.file _) => true
  | _ => false

def isDirectory (disk : Disk) (path : Path) : Bool :=
  disk.find? path = some .directory

/-- The bytes of a file. -/
def read (disk : Disk) (path : Path) : Except DiskFault (List UInt8) :=
  match disk.locate path with
  | .error problem => .error ⟨problem, disk.pathText path, none⟩
  | .ok place =>
    match disk.at? place with
    | some (.file bytes) => .ok bytes
    | some .directory => .error ⟨.isDirectory, disk.pathText path, none⟩
    | none => .error ⟨.missing, disk.pathText path, none⟩

/-- Makes one directory inside an existing one. -/
def makeOne (disk : Disk) (path : Path) : Except DiskFault Disk :=
  match disk.locate path with
  | .error problem => .error ⟨problem, disk.pathText path, none⟩
  | .ok place =>
    match disk.at? place with
    | some _ => .error ⟨.taken, disk.pathText path, none⟩
    | none => .ok (disk.put place .directory)

/-- Makes one directory inside an existing one; it may be there already. -/
def ensureOne (disk : Disk) (path : Path) : Option DiskFault × Disk :=
  match disk.makeOne path with
  | .ok made => (none, made)
  | .error fault => (if disk.isDirectory path then none else some fault, disk)

/-- Makes a directory and those above it as far as they are missing; the parts are counted down.
Directories that have been made stay when a later one fails. -/
def ensureAll : Nat → Path → Disk → Option DiskFault × Disk
  | 0, path, disk => disk.ensureOne path
  | depth + 1, path, disk =>
    match disk.makeOne path with
    | .ok made => (none, made)
    | .error fault =>
      if fault.problem = .missing then
        match ensureAll depth path.parent disk with
        | (some above, disk) => (some above, disk)
        | (none, disk) => disk.ensureOne path
      else disk.ensureOne path

/-- Makes a directory and those above it as far as they are missing. -/
def makeDirectories (path : Path) (disk : Disk) : Option DiskFault × Disk :=
  ensureAll path.parts.length path disk

end Disk

end ClientGen
