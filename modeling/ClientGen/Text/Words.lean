import ClientGen.Text.Characters

/-!
Operations on text as lists of characters: cutting at a separator, trimming, replacing and joining.
-/

namespace ClientGen.Text

/-- Drops the characters of a class from the end. -/
def trimEnd (p : Char → Bool) (cs : List Char) : List Char :=
  (cs.reverse.dropWhile p).reverse

/-- Drops the characters of a class from both ends. -/
def trim (p : Char → Bool) (cs : List Char) : List Char :=
  trimEnd p (cs.dropWhile p)

/-- The pieces between the separators; text without a separator is one piece. -/
def fields (separator : Char → Bool) : List Char → List (List Char)
  | [] => [[]]
  | c :: rest =>
    if separator c then [] :: fields separator rest
    else match fields separator rest with
      | [] => [[c]]
      | piece :: pieces => (c :: piece) :: pieces

theorem fields_of_none {separator : Char → Bool} {text : List Char} (none : ∀ c ∈ text, separator c = false) :
    fields separator text = [text] := by
  induction text with
  | nil => rfl
  | cons c text ih =>
    rw [fields, none c List.mem_cons_self, ih fun d member => none d (List.mem_cons_of_mem c member)]
    rfl

theorem fields_append {separator : Char → Bool} {piece rest : List Char} {c : Char}
    (none : ∀ d ∈ piece, separator d = false) (separates : separator c = true) : fields separator (piece ++ c :: rest) = piece :: fields separator rest := by
  induction piece with
  | nil => simp [fields, separates]
  | cons d piece ih =>
    rw [List.cons_append, fields, none d List.mem_cons_self, ih fun e member => none e (List.mem_cons_of_mem d member)]
    rfl

/-- The pieces of a text between the occurrences of one character. -/
def split (separator : Char) (text : String) : List String :=
  (fields (· = separator) text.toList).map String.ofList

/-- The rest of a text behind a given beginning. -/
def dropLeading? : List Char → List Char → Option (List Char)
  | [], rest => some rest
  | _ :: _, [] => none
  | p :: ps, c :: cs => if p = c then dropLeading? ps cs else none

theorem dropLeading?_eq_some {start text rest : List Char} :
    dropLeading? start text = some rest ↔ text = start ++ rest := by
  induction start generalizing text with
  | nil => simp [dropLeading?]
  | cons p start ih =>
    cases text with
    | nil => simp [dropLeading?]
    | cons c text =>
      by_cases same : p = c
      · simp [dropLeading?, same, ih]
      · simp [dropLeading?, same, Ne.symm same]

/-- Whether a text begins with a given one. -/
def startsWith (text start : String) : Bool :=
  (dropLeading? start.toList text.toList).isSome

/-- Whether a text ends with a given one. -/
def endsWith (text ending : String) : Bool :=
  (dropLeading? ending.toList.reverse text.toList.reverse).isSome

/-- Whether one list of characters stands somewhere in another. -/
def occursIn (part : List Char) : List Char → Bool
  | [] => part.isEmpty
  | c :: rest => (dropLeading? part (c :: rest)).isSome || occursIn part rest

/-- Whether a text holds a given one. -/
def contains (text part : String) : Bool := occursIn part.toList text.toList

/-- Texts one behind the other with a separator between them. -/
def join (separator : String) (texts : List String) : String :=
  String.intercalate separator texts

/-- Blanks removed at both ends. -/
def strip (text : String) : String := String.ofList (trim isBlank text.toList)

/-- Blanks removed at the end. -/
def stripEnd (text : String) : String := String.ofList (trimEnd isBlank text.toList)

/-- A text filled with blanks on the right up to a width in characters. -/
def padRight (width : Nat) (text : String) : String :=
  text ++ String.ofList (List.replicate (width - text.length) ' ')

/-- A text with a line break at its end. -/
def ended (text : String) : String := if endsWith text "\n" then text else text ++ "\n"

/-- Replaces tabs by spaces up to the next column that is a multiple of eight; each character takes one
column. -/
def expandTabs (column : Nat) : List Char → List Char
  | [] => []
  | c :: rest =>
    if c = '\t' then
      let width := 8 - column % 8
      List.replicate width ' ' ++ expandTabs (column + width) rest
    else if c = '\n' ∨ c = '\r' then c :: expandTabs 0 rest
    else c :: expandTabs (column + 1) rest

/-- A number in decimal with leading zeros up to a width. -/
def padded (width : Nat) (n : Nat) : String :=
  let digits := (toString n).toList
  String.ofList (List.replicate (width - digits.length) '0' ++ digits)

end ClientGen.Text
