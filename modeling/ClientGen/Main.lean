import ClientGen.Command.Run

/-!
The program: it reads what a run can see of the surroundings, runs the command line, and writes what the
run has left.
-/

namespace ClientGen.Program

/-- The environment variables that a run looks at. -/
def watchedVariables : List String :=
  ["HOME", "XDG_DATA_HOME", "NO_COLOR", "TERM", "COLUMNS", "SPECGEN_SPEC", "SPECGEN_OUTPUT",
    "SPECGEN_BASE_URL"]

/-- The environment as far as a run looks at it. -/
def readEnvironment : IO Environment :=
  watchedVariables.filterMapM fun name => do
    return (← IO.getEnv name).map fun text => (name, text)

/-- The text of a place of the disk. -/
def placeText (place : Place) : String := "/" ++ Text.join "/" place

/-- Adds the file at a place to what a run can see, if there is one. -/
def addFile (disk : Disk) (place : Place) : IO Disk := do
  try
    let bytes ← IO.FS.readBinFile (placeText place)
    return disk.plant place (.file bytes.toList)
  catch _ => return disk

/-- The directories from a place up to the root. -/
def placesAbove (place : Place) : List Place :=
  ((List.range (place.length + 1)).map place.take).reverse

/-- The whole input. -/
partial def readInput (stream : IO.FS.Stream) (text : String) : IO String := do
  let line ← stream.getLine
  if line.isEmpty then return text
  readInput stream (text ++ line)

/-- Writes an entry that a run has left. A file appears as a whole. -/
def writeEntry (entry : Place × DiskEntry) : IO Unit := do
  let path := placeText entry.1
  match entry.2 with
  | .directory => IO.FS.createDirAll path
  | .file bytes =>
    IO.FS.writeBinFile (path ++ ".tmp") ⟨bytes.toArray⟩
    IO.FS.rename (path ++ ".tmp") path

end ClientGen.Program

open ClientGen Program in
def main (args : List String) : IO UInt32 := do
  let environment ← readEnvironment
  let here := (Path.parse "/" (← IO.currentDir).toString).parts
  let empty : Disk := { here, rootText := "/", token := toString (← IO.monoNanosNow) }
  let start := if here.isEmpty then empty else empty.plant here .directory
  let projects := (placesAbove here).map fun dir => dir ++ [Project.fileName]
  let disk ← projects.foldlM addFile start
  let scene : Command.Scene := { environment, time := toString (← IO.monoMsNow) }
  let named := Command.sources scene disk args
  let disk ← (named.map fun name => Disk.flatten here (disk.parsePath name)).foldlM addFile disk
  let input ← if named.contains "-" then readInput (← IO.getStdin) "" else pure ""
  let (conclusion, left) := Command.run { scene with input } { world := { disk } } args
  (left.world.disk.changesSince disk).forM writeEntry
  (← IO.getStdout).putStr conclusion.out
  (← IO.getStderr).putStr conclusion.err
  return UInt32.ofNat conclusion.exitCode.toNat
