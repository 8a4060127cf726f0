import ClientGen.Fault

/-!
Reading YAML text character by character. The cursor knows its column, since indentation carries
meaning, and its line, since some things must fit on one.
-/

namespace ClientGen.Yaml

/-- Why a text is not accepted: it is not well formed, or a value in it cannot be built. -/
inductive Refusal where
  | malformed (reason : String)
  | unusable (fault : ValueFault)
  deriving DecidableEq, Repr

/-- The rest of a text with its place in the whole, all counted from zero. -/
structure Cursor where
  rest : List Char
  index : Nat := 0
  line : Nat := 0
  column : Nat := 0
  deriving Inhabited, Repr

/-- Steps that move the cursor. -/
abbrev Scan := StateT Cursor (Except Refusal)

/-- What stands for the end of the text. No text holds this character. -/
def endMark : Char := Char.ofNat 0

/-- The characters that a text may hold. -/
def isAllowed (c : Char) : Bool :=
  let n := c.toNat
  n = 0x09 || n = 0x0a || n = 0x0d || (0x20 ≤ n && n ≤ 0x7e) || n = 0x85 ||
    (0xa0 ≤ n && n ≤ 0xd7ff) || (0xe000 ≤ n && n ≤ 0xfffd) || 0x10000 ≤ n

/-- Line breaks. -/
def isBreak (c : Char) : Bool :=
  c = '\n' || c = '\r' || c.toNat = 0x85 || c.toNat = 0x2028 || c.toNat = 0x2029

def isBreakOrEnd (c : Char) : Bool := isBreak c || c = endMark

/-- What ends a word where blanks do: a space, a line break, or the end. -/
def isSpaceOrEnd (c : Char) : Bool := c = ' ' || isBreakOrEnd c

/-- What ends a word where tabs do so too. -/
def isGapOrEnd (c : Char) : Bool := c = '\t' || isSpaceOrEnd c

/-- The characters of names of anchors, handles and directives. -/
def isNameChar (c : Char) : Bool := Text.isWord c || c = '-' || c = '_'

def isHexDigit (c : Char) : Bool :=
  Text.isAsciiDigit c || ('a' ≤ c && c ≤ 'f') || ('A' ≤ c && c ≤ 'F')

/-- The value of a hexadecimal digit. -/
def hexValue (c : Char) : Nat :=
  if Text.isAsciiDigit c then c.toNat - 0x30
  else if 'a' ≤ c then c.toNat - 0x61 + 10
  else c.toNat - 0x41 + 10

/-- The value of hexadecimal digits. -/
def hexNumber (digits : List Char) : Nat := digits.foldl (fun n c => 16 * n + hexValue c) 0

/-- Whether a marker of three characters for the bounds of documents stands at the beginning. -/
def beginsMarker (mark : Char) (rest : List Char) : Bool :=
  rest.take 3 = [mark, mark, mark] && isGapOrEnd ((rest[3]?).getD endMark)

/-- Whether any marker for the bounds of documents stands at the beginning. -/
def beginsBoundary (rest : List Char) : Bool := beginsMarker '-' rest || beginsMarker '.' rest

namespace Cursor

/-- The character a few places ahead. -/
def peek (c : Cursor) (ahead : Nat) : Char := (c.rest[ahead]?).getD endMark

/-- The cursor behind the next character. -/
def next (c : Cursor) : Cursor :=
  match c.rest with
  | [] => c
  | ch :: rest =>
    if isBreak ch && !(ch = '\r' && rest.head? = some '\n') then
      ⟨rest, c.index + 1, c.line + 1, 0⟩
    else if ch.toNat = 0xfeff then ⟨rest, c.index + 1, c.line, c.column⟩
    else ⟨rest, c.index + 1, c.line, c.column + 1⟩

/-- The cursor behind several characters. -/
def forward (c : Cursor) : Nat → Cursor
  | 0 => c
  | n + 1 => c.next.forward n

end Cursor

namespace Scan

def refuse {α : Type} (reason : String) : Scan α := throw (.malformed reason)

/-- The character a few places ahead. -/
def peek (ahead : Nat) : Scan Char := return (← get).peek ahead

/-- Steps over characters. -/
def forward (n : Nat) : Scan Unit := modify fun c => c.forward n

/-- Takes the next characters. -/
def take (n : Nat) : Scan (List Char) := do
  let chars := (← get).rest.take n
  forward n
  return chars

/-- Takes the longest run of characters of a class. -/
def takeWhile (p : Char → Bool) : Scan (List Char) := do
  take ((← get).rest.takeWhile p).length

/-- Skips the longest run of characters of a class. -/
def skipWhile (p : Char → Bool) : Scan Unit := do
  let _ ← takeWhile p

/-- Skips spaces. -/
def skipSpaces : Scan Unit := skipWhile (· = ' ')

/-- Skips a comment up to the end of its line. -/
def skipComment : Scan Unit := do
  if (← peek 0) = '#' then skipWhile fun c => !isBreakOrEnd c

/-- Takes one line break, if there is one, as the character that it stands for. -/
def lineBreak : Scan (List Char) := do
  let c ← peek 0
  if c.toNat = 0x2028 ∨ c.toNat = 0x2029 then
    forward 1
    return [c]
  else if isBreak c then
    forward (if c = '\r' ∧ (← peek 1) = '\n' then 2 else 1)
    return ['\n']
  else return []

/-- Takes the rest of a line that may hold nothing but spaces and a comment. -/
def restOfLine : Scan Unit := do
  skipSpaces
  skipComment
  if !isBreakOrEnd (← peek 0) then refuse "expected a comment or a line break"
  let _ ← lineBreak

end Scan

end ClientGen.Yaml
