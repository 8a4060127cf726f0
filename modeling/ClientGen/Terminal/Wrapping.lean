import ClientGen.Terminal.Cluster
import ClientGen.Text.Words

/-!
Text in lines of limited width. Words move to the next line as a whole; a word that is wider than a line
is folded over several, or stands alone and is cut.
-/

namespace ClientGen.Terminal

/-- What becomes of a text that is too wide for its line. -/
inductive Overflow where
  | fold
  | ellipsis
  deriving DecidableEq, Repr

/-- Where the text of a line stands. -/
inductive Alignment where
  | free
  | left
  | centre
  deriving DecidableEq, Repr

/-- A number of blanks. -/
def blanks (n : Nat) : List Char := List.replicate n ' '

/-- The first word of a text with the blanks around it, and the rest. -/
def cutWord (cs : List Char) : List Char × List Char :=
  let lead := cs.takeWhile Text.isBlank
  let rest := cs.dropWhile Text.isBlank
  let word := rest.takeWhile fun c => !Text.isBlank c
  let rest := rest.dropWhile fun c => !Text.isBlank c
  (lead ++ word ++ rest.takeWhile Text.isBlank, rest.dropWhile Text.isBlank)

/-- The words of a text, each with the blanks behind it, the first also with those in front; the count
bounds their number. -/
def wordsFrom : Nat → List Char → List (List Char)
  | 0, _ => []
  | n + 1, cs =>
    if cs.all Text.isBlank then [] else (cutWord cs).1 :: wordsFrom n (cutWord cs).2

def words (cs : List Char) : List (List Char) := wordsFrom cs.length cs

/-- Folds a word into pieces that fit; `piece` has been read and takes `used` columns. -/
def foldWord (limit : Nat) (piece : List Char) (used : Nat) : List Cluster → List (List Char)
  | [] => [piece]
  | k :: rest =>
    if limit < used + k.width then piece :: foldWord limit k.text k.width rest
    else foldWord limit (piece ++ k.text) (used + k.width) rest

/-- Lines that are full, and one that is being filled. -/
structure Filling where
  done : List (List Char) := []
  line : List Char := []
  used : Nat := 0

namespace Filling

/-- Ends the line, unless nothing stands on it. -/
def close (f : Filling) : List (List Char) :=
  if f.line.isEmpty then f.done else f.done ++ [f.line]

/-- Adds a word. A word that is folded begins on a line of its own, and where not even its first cluster
fits, that line stays empty, unless it is the first. -/
def add (overflow : Overflow) (limit : Nat) (f : Filling) (word : List Char) : Filling :=
  let needed := width (Text.trimEnd Text.isBlank word)
  if f.used + needed ≤ limit then ⟨f.done, f.line ++ word, f.used + width word⟩
  else if limit < needed ∧ overflow = .fold then
    let pieces := foldWord limit [] 0 (Cluster.ofText word)
    let pieces := if f.line.isEmpty then pieces.dropWhile (·.isEmpty) else pieces
    let last := pieces.getLast?.getD []
    ⟨f.close ++ pieces.dropLast, last, width last⟩
  else ⟨f.close, word, width word⟩

end Filling

/-- The lines of a text without line breaks. A text without words is one line. -/
def breakLine (overflow : Overflow) (limit : Nat) (cs : List Char) : List (List Char) :=
  match words cs with
  | [] => [cs]
  | ws =>
    let f := ws.foldl (Filling.add overflow limit) {}
    f.done ++ [f.line]

/-- A line without the blanks at its end that stand behind the limit. -/
def dropExcess (limit : Nat) (cs : List Char) : List Char :=
  let trailing := cs.length - (Text.trimEnd Text.isBlank cs).length
  cs.take (cs.length - min trailing (cs.length - limit))

/-- As many clusters as fit, filled up with blanks. -/
def takeFitting (limit : Nat) : List Cluster → List Char
  | [] => blanks limit
  | k :: rest =>
    if k.width ≤ limit then k.text ++ takeFitting (limit - k.width) rest else blanks limit

/-- As much of a text as fits, filled up with blanks. -/
def cut (limit : Nat) (cs : List Char) : List Char :=
  if limit = 0 then [] else takeFitting limit (Cluster.ofText cs)

/-- A line that is not wider than the limit. -/
def truncate (overflow : Overflow) (limit : Nat) (cs : List Char) : List Char :=
  if width cs ≤ limit then cs
  else match overflow with
    | .fold => cut limit cs
    | .ellipsis => cut (limit - 1) cs ++ ['…']

/-- A line filled up to the limit. -/
def fill (limit : Nat) (cs : List Char) : List Char := cs ++ blanks (limit - width cs)

/-- A line cut at the limit, if it is wider. -/
def crop (limit : Nat) (cs : List Char) : List Char :=
  if width cs ≤ limit then cs else cut limit cs

/-- A line where it should stand. -/
def align (alignment : Alignment) (overflow : Overflow) (limit : Nat) (cs : List Char) :
    List Char :=
  match alignment with
  | .free => truncate overflow limit cs
  | .left => fill limit (truncate overflow limit cs)
  | .centre =>
    let cs := truncate overflow limit (Text.trimEnd Text.isBlank cs)
    fill limit (blanks ((limit - width cs) / 2) ++ cs)

/-- A line with blanks for its tabs. Each part of the line that ends in a tab is filled up to a multiple of
eight columns, and takes one blank at least. -/
def spreadTabs (cs : List Char) : List Char :=
  let parts := Text.fields (· = '\t') cs
  let filled := parts.dropLast.map fun part =>
    let part := part ++ blanks 1
    fill ((width part + 7) / 8 * 8) part
  filled.flatten ++ parts.getLast?.getD []

/-- A text in lines. -/
def wrap (alignment : Alignment) (overflow : Overflow) (limit : Nat) (cs : List Char) :
    List (List Char) :=
  (Text.fields (· = '\n') cs).flatMap fun line =>
    (breakLine overflow limit (spreadTabs line)).map fun line =>
      align alignment overflow limit (dropExcess limit line)

/-- Texts side by side, each with the width of its column: the lines that all of them make, as many as the
tallest has and one at least, each line with a part for every column. Shorter texts stand at the bottom or
at the top. -/
def abreast (atBottom : Bool) (texts : List (Nat × List (List Char))) : List (List (List Char)) :=
  let height := (texts.map fun entry => entry.2.length).foldl max 1
  let columns := texts.map fun (w, lines) =>
    let empty := List.replicate (height - lines.length) (blanks w)
    if atBottom then empty ++ lines else lines ++ empty
  (List.range height).map fun n => columns.map fun lines => (lines[n]?).getD []

/-- Control characters that a terminal would act upon instead of showing something. -/
def isSilent (c : Char) : Bool := [7, 8, 11, 12, 13].contains c.toNat

/-- A text as it can be printed. -/
def printable (cs : List Char) : List Char := cs.filter fun c => !isSilent c

end ClientGen.Terminal
