import ClientGen.Disk.Basic

/-!
Writing a file as a whole: the data go to a temporary file beside the target, which then takes the
target's place in one step. When a step fails the temporary file is removed and the failure passed on.
-/

namespace ClientGen.Disk

/-- The steps of a write. After a failure the temporary file is closed again if it is still open
(`closeAgain`), and then removed (`unlink`). -/
inductive WriteStep where
  | makeParents
  | createTemporary
  | write
  | flush
  | sync
  | close
  | rename
  | closeAgain
  | unlink
  deriving DecidableEq, Repr

/-- Which steps fail for reasons outside the disk's own state. -/
abbrev WriteFailures := WriteStep → Option DiskFault

/-- No step fails for outside reasons. -/
def noFailures : WriteFailures := fun _ => none

/-- The name of the temporary file beside a target. -/
def temporaryName (token : String) (path : Path) : String :=
  "." ++ path.name ++ "." ++ token ++ ".tmp"

/-- How many characters the unpredictable part of a temporary name has. -/
def tokenLength : Nat := 8

/-- A directory as an absolute path without double dots, by its text alone. -/
def flatten (here : Place) (path : Path) : Place :=
  let start := match path.anchor with
    | .here => here
    | _ => []
  path.parts.foldl (fun place part => if part = ".." then place.dropLast else place ++ [part]) start

/-- A text with more characters behind it. -/
def lengthened (text : String) (n : Nat) : String := text ++ String.ofList (List.replicate n 'x')

/-- The first of longer and longer tokens under which nothing stands beside a target. -/
def unusedToken (disk : Disk) (path : Path) : String :=
  let tokens := (List.range (disk.entries.length + 1)).map (lengthened disk.token)
  (tokens.find? fun token =>
    (disk.at? (flatten disk.here path.parent ++ [temporaryName token path])).isNone).getD disk.token

/-- Moves a file onto a path, which must not be a directory. -/
def moveTo (disk : Disk) (temporary : Place) (bytes : List UInt8) (path : Path) :
    Except DiskFault Disk :=
  let fault (problem : DiskProblem) : DiskFault :=
    ⟨problem, disk.pathText ⟨.root, temporary⟩, some (disk.pathText path)⟩
  if path.parts.isEmpty ∨ path.name = ".." then .error (fault .busy)
  else match disk.locate path with
    | .error problem => .error (fault problem)
    | .ok place =>
      match disk.at? place with
      | some .directory => .error (fault .isDirectory)
      | _ => .ok ((disk.remove temporary).put place (.file bytes))

/-- The steps between creating the temporary file and closing it. -/
def openSteps : List WriteStep := [.write, .flush, .sync, .close]

/-- The temporary file is removed; that this fails is of no consequence. -/
def discard (failures : WriteFailures) (temporary : Place) (disk : Disk) : Disk :=
  if (failures .unlink).isSome then disk else disk.remove temporary

/-- After a failure while the temporary file was open: it is closed again, which may fail too, and
only then removed. -/
def abandonOpen (failures : WriteFailures) (temporary : Place) (fault : DiskFault) (disk : Disk) :
    Option DiskFault × Disk :=
  match failures .closeAgain with
  | some second => (some second, disk)
  | none => (some fault, disk.discard failures temporary)

/-- Writes data to a path. The first component of the result is the failure, if there was one. -/
def atomicWrite (failures : WriteFailures) (path : Path) (data : String) (disk : Disk) :
    Option DiskFault × Disk :=
  match (failures .makeParents).elim (disk.makeDirectories path.parent) fun f => (some f, disk) with
  | (some fault, disk) => (some fault, disk)
  | (none, disk) =>
    let token := disk.unusedToken path
    let name := temporaryName token path
    let temporary := flatten disk.here path.parent ++ [name]
    let temporaryText := disk.pathText ⟨.root, temporary⟩
    let size (text : String) := text.utf8ByteSize + tokenLength - token.utf8ByteSize
    match failures .createTemporary with
    | some fault => (some fault, disk)
    | none =>
      if !path.isUsable then (some ⟨.notPath, temporaryText, none⟩, disk)
      else if 255 < size name ∨ pathLimit < size temporaryText then
        (some ⟨.nameTooLong, temporaryText, none⟩, disk)
      else
        let bytes := Text.encode data
        let created := disk.put temporary (.file [])
        match openSteps.findSome? failures with
        | some fault => abandonOpen failures temporary fault created
        | none =>
          let written := created.put temporary (.file bytes)
          match (failures .rename).elim (written.moveTo temporary bytes path) .error with
          | .error fault => (some fault, written.discard failures temporary)
          | .ok moved => (none, moved)

end ClientGen.Disk
