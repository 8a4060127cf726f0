import ClientGen.Terminal.CharacterNames
import ClientGen.Text.Words

/-!
Names between colons in messages. A name that stands for characters is replaced by them; an ending says
whether they are to be shown as pictures or as text. Other names stay as they are, with their colons.
-/

namespace ClientGen.Terminal

/-- The names of characters with the characters. -/
def characterNames : List (String × List Char) :=
  (Text.fields Text.isBlank characterTable.toList).map fun entry =>
    (String.ofList (entry.takeWhile (· ≠ '=')), (entry.dropWhile (· ≠ '=')).drop 1)

/-- The endings of names, each with the mark behind the characters. -/
def variantMarks : List (String × Char) :=
  [("-emoji", Char.ofNat 0xfe0f), ("-text", Char.ofNat 0xfe0e)]

/-- A name without its ending, and the mark of that. -/
def cutVariant (name : List Char) : List Char × List Char :=
  match variantMarks.find? fun entry => Text.endsWith (String.ofList name) entry.1 with
  | some (ending, mark) => (name.take (name.length - ending.length), [mark])
  | none => (name, [])

/-- The characters with a name. Capital letters count as small ones. -/
def charactersOf? (name : List Char) : Option (List Char) :=
  let (base, mark) := cutVariant name
  let lowered := String.ofList (base.flatMap Text.lower)
  (characterNames.find? fun entry => entry.1 = lowered).map fun entry => entry.2 ++ mark

/-- Replaces names; the first argument is what has been read of a name behind its colon. A blank ends a
name without a second colon. -/
def replaceNames : Option (List Char) → List Char → List Char
  | none, [] => []
  | some name, [] => ':' :: name
  | none, c :: rest => if c = ':' then replaceNames (some []) rest else c :: replaceNames none rest
  | some name, c :: rest =>
    if c = ':' then ((charactersOf? name).getD (':' :: name ++ [':'])) ++ replaceNames none rest
    else if Text.isBlank c then ':' :: name ++ c :: replaceNames none rest
    else replaceNames (some (name ++ [c])) rest

/-- A text with the characters that it asks for by name. -/
def withCharacters (cs : List Char) : List Char := replaceNames none cs

end ClientGen.Terminal
