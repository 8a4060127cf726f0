import ClientGen.Log
import ClientGen.Settings.Sources
import ClientGen.Terminal.Markup
import ClientGen.Terminal.Table

/-!
How the program talks to its user. Results go to the output, everything else to the other stream. Plain
talk has no colour, no markup and no boxes; quiet talk leaves out what is not an error; verbose talk shows
the whole log.
-/

namespace ClientGen

/-- A way of talking. -/
structure Output where
  isPlain : Bool := false
  isQuiet : Bool := false
  isVerbose : Bool := false
  /-- The columns of the terminal. -/
  width : Nat := 80
  deriving DecidableEq, Inhabited, Repr

namespace Output

/-- Whether the environment asks for plain talk. -/
def wantsPlain (env : Environment) : Bool :=
  (env.get? "NO_COLOR").isSome || env.get? "TERM" = some "dumb"

/-- The width that the environment states. -/
def statedWidth (env : Environment) : Nat :=
  match (env.get? "COLUMNS").bind fun text => text.toList.mapM Text.decimalValue? with
  | some [] => 80
  | some digits => digits.foldl (fun n d => 10 * n + d) 0
  | none => 80

/-- A way of talking in an environment. -/
def make (env : Environment) (isPlain isQuiet isVerbose : Bool) : Output :=
  ⟨isPlain || wantsPlain env, isQuiet, isVerbose, statedWidth env⟩

/-- Lines one below the other. -/
def linesText (lines : List (List Char)) : String :=
  String.join (lines.map fun line => String.ofList line ++ "\n")

/-- A text in the lines of the terminal. A terminal without columns shows nothing. -/
def wrapped (o : Output) (cs : List Char) : String :=
  if o.width = 0 then "" else linesText (Terminal.wrap .free .fold o.width cs)

/-- What is shown of a message with markup. -/
def readMarkup (message : String) : Except Fault (List Char) := do
  return Terminal.printable (← Markup.plain message)

/-- What the output gets for a result. -/
def data (text : String) : String := Text.ended text

/-- What the output gets for a table. Plain tables have tabs between the cells and no title; in others
every text may hold markup. -/
def table (o : Output) (headers : List String) (rows : List (List String)) (title : String) :
    Except Fault String := do
  if o.isPlain then return String.join ((headers :: rows).map fun row => data (Text.join "\t" row))
  let headers ← headers.mapM readMarkup
  let rows ← rows.mapM fun row => row.mapM readMarkup
  let title ← if title.isEmpty then pure none else some <$> readMarkup title
  return linesText (Terminal.Table.lines o.width ⟨headers, rows, title⟩)

/-- What is printed for a message that can be left out. -/
def info (o : Output) (message : String) : String := if o.isQuiet then "" else message ++ "\n"

/-- What is printed for a success. -/
def success (o : Output) (message : String) : String :=
  if o.isQuiet then ""
  else if o.isPlain then message ++ "\n"
  else o.wrapped (Terminal.printable (Terminal.withCharacters message.toList))

/-- What an error message begins with. -/
def errorLabel : String := "Error: "

/-- What is printed for an error. The message may hold markup, unless the talk is plain. -/
def error (o : Output) (message : String) : Except Fault String :=
  if o.isPlain then .ok (errorLabel ++ message ++ "\n")
  else (readMarkup (errorLabel ++ message)).map o.wrapped

/-- The least level of the records that are shown. -/
def threshold (o : Output) : Level :=
  if o.isVerbose then .debug else if o.isQuiet then .error else .warning

/-- The columns for the level of a record. -/
def levelWidth : Nat := 8

/-- The lines that name a level in a column of its own, with a blank behind it. -/
def levelLines (margin : Nat) (level : Level) : List (List Char) :=
  if margin ≤ 1 then []
  else
    let label := Terminal.fill levelWidth level.label.toList
    (Terminal.wrap .left .ellipsis (margin - 1) label).map (Terminal.fill margin)

/-- What is printed for a record of the log: the level, and the text beside it as far as there is room for
it. -/
def record (o : Output) (r : LogRecord) : String :=
  let margin := min o.width (levelWidth + 1)
  let room := o.width - margin
  let lines :=
    if room = 0 then [] else Terminal.wrap .left .fold room (Terminal.printable r.text.toList)
  if o.width = 0 then ""
  else linesText ((Terminal.abreast false [(margin, levelLines margin r.level), (room, lines)]).map
    List.flatten)

/-- What is printed for a log. -/
def log (o : Output) (records : List LogRecord) : String :=
  String.join ((records.filter fun r => o.threshold.weight ≤ r.level.weight).map o.record)

end Output

/-- Where records of the log go before anything is arranged for them: warnings and worse are printed as
they are. -/
def unarrangedRecord (r : LogRecord) : String :=
  if Level.warning.weight ≤ r.level.weight then r.text ++ "\n" else ""

end ClientGen
