import ClientGen.Fault
import ClientGen.Reference

/-!
Reading JSON. Besides the standard grammar the words `NaN`, `Infinity` and `-Infinity` are numbers. A
problem is reported with its place. Of several entries with one name the last one counts, at the
place of the first.
-/

namespace ClientGen.Json

/-- A problem at an offset, or a whole number with more digits than are converted. -/
inductive Failure where
  | problem (problem : JsonProblem) (offset : Nat)
  | tooManyDigits (count : Nat)
  deriving DecidableEq, Repr

/-- What is left to read, and how many characters are behind. -/
structure Cursor where
  rest : List Char
  offset : Nat
  deriving Repr

def isSpace (c : Char) : Bool := c = ' ' || c = '\t' || c = '\n' || c = '\r'

/-- The cursor behind the blanks at the beginning of a text. -/
def skipSpaces : List Char → Nat → Cursor
  | [], offset => ⟨[], offset⟩
  | c :: rest, offset => if isSpace c then skipSpaces rest (offset + 1) else ⟨c :: rest, offset⟩

def Cursor.skip (c : Cursor) : Cursor := skipSpaces c.rest c.offset

def hexValue? (c : Char) : Option Nat :=
  if '0' ≤ c ∧ c ≤ '9' then some (c.toNat - 0x30)
  else if 'a' ≤ c ∧ c ≤ 'f' then some (c.toNat - 0x57)
  else if 'A' ≤ c ∧ c ≤ 'F' then some (c.toNat - 0x37)
  else none

/-- The number that hexadecimal digits stand for. -/
def hexNumber? (digits : List Char) : Option Nat :=
  digits.foldl (fun n c => do return 16 * (← n) + (← hexValue? c)) (some 0)

/-- The character behind a backslash that stands for one character. -/
def simpleEscape? : Char → Option Char
  | '"' => some '"'
  | '\\' => some '\\'
  | '/' => some '/'
  | 'b' => some (Char.ofNat 8)
  | 'f' => some (Char.ofNat 12)
  | 'n' => some '\n'
  | 'r' => some '\r'
  | 't' => some '\t'
  | _ => none

def isHighSurrogate (n : Nat) : Bool := 0xd800 ≤ n && n < 0xdc00

def isLowSurrogate (n : Nat) : Bool := 0xdc00 ≤ n && n < 0xe000

/-- The code of four hexadecimal digits behind `\u`, which stands at the given offset; a further
character has to follow. -/
def codeUnit (rest : List Char) (offset : Nat) : Except Failure (Nat × List Char) :=
  match rest with
  | a :: b :: c :: d :: e :: tail =>
    match hexNumber? [a, b, c, d] with
    | some n => .ok (n, e :: tail)
    | none => .error (.problem .badUnicodeEscape offset)
  | _ => .error (.problem .badUnicodeEscape offset)

/-- A half of a pair that stands alone is shown as the replacement character. -/
def charOfUnit (n : Nat) : Char :=
  if isHighSurrogate n || isLowSurrogate n then Char.ofNat 0xfffd else Char.ofNat n

/-- Reads behind `\u` one character, which may take two escapes. The offset is that of the `u`. -/
def unicodeEscape (rest : List Char) (offset : Nat) : Except Failure (Char × List Char × Nat) := do
  let (high, tail) ← codeUnit rest offset
  match isHighSurrogate high, tail with
  | true, '\\' :: 'u' :: behind =>
    if behind.length < 5 then return (charOfUnit high, tail, offset + 5)
    let (low, tail') ← codeUnit behind (offset + 6)
    if isLowSurrogate low then
      return (Char.ofNat (0x10000 + (high - 0xd800) * 0x400 + (low - 0xdc00)), tail', offset + 11)
    else return (charOfUnit high, tail, offset + 5)
  | _, _ => return (charOfUnit high, tail, offset + 5)

/-- Reads the characters of a text up to the closing quote. The opening quote stands at `start`. -/
def textBody (start : Nat) : Nat → List Char → Nat → List Char → Except Failure ((List Char) × Cursor)
  | 0, _, _, _ => .error (.problem .unterminatedString start)
  | _ + 1, [], _, _ => .error (.problem .unterminatedString start)
  | fuel + 1, c :: rest, offset, done =>
    if c = '"' then .ok (done.reverse, ⟨rest, offset + 1⟩)
    else if c = '\\' then
      match rest with
      | [] => .error (.problem .unterminatedString start)
      | 'u' :: rest => do
        let (ch, rest, offset) ← unicodeEscape rest (offset + 1)
        textBody start fuel rest offset (ch :: done)
      | e :: rest =>
        match simpleEscape? e with
        | some ch => textBody start fuel rest (offset + 2) (ch :: done)
        | none => .error (.problem .badEscape offset)
    else if c.toNat < 0x20 then .error (.problem .controlCharacter offset)
    else textBody start fuel rest (offset + 1) (c :: done)

/-- Reads a text whose opening quote stands at the cursor. -/
def text (fuel : Nat) (c : Cursor) : Except Failure (String × Cursor) := do
  let (chars, next) ← textBody c.offset fuel (c.rest.drop 1) (c.offset + 1) []
  return (String.ofList chars, next)

/-- The value of decimal digits. -/
def digitsNumber (digits : List Char) : Nat :=
  digits.foldl (fun n c => 10 * n + (c.toNat - 0x30)) 0

/-- The fraction at the beginning of a text: a point and digits. -/
def fractionPart : List Char → List Char × List Char
  | '.' :: rest =>
    let digits := rest.takeWhile Text.isAsciiDigit
    if digits.isEmpty then ([], '.' :: rest) else (digits, rest.dropWhile Text.isAsciiDigit)
  | rest => ([], rest)

/-- Whether a sign at the beginning of a text is a minus, how many characters it is, and what follows. -/
def signPart : List Char → Bool × Nat × List Char
  | '-' :: rest => (true, 1, rest)
  | '+' :: rest => (false, 1, rest)
  | rest => (false, 0, rest)

/-- The sign and digits of an exponent, how many characters they are, and what follows. -/
def signedDigits (cs : List Char) : Option (Int × Nat × List Char) :=
  let (negative, signs, body) := signPart cs
  let digits := body.takeWhile Text.isAsciiDigit
  if digits.isEmpty then none
  else
    let n : Int := digitsNumber digits
    some (if negative then -n else n, signs + digits.length, body.dropWhile Text.isAsciiDigit)

/-- The exponent at the beginning of a text: a letter, a sign and digits. -/
def exponentPart : List Char → Option (Int × Nat × List Char)
  | c :: rest =>
    if c = 'e' ∨ c = 'E' then
      (signedDigits rest).map fun (n, count, behind) => (n, count + 1, behind)
    else none
  | [] => none

/-- Whether a text begins with a minus, and what follows it. -/
def minusPart : List Char → Bool × List Char
  | '-' :: rest => (true, rest)
  | rest => (false, rest)

/-- The digits at the beginning of a text; a zero stands alone. -/
def wholePart : List Char → List Char
  | '0' :: _ => ['0']
  | rest => rest.takeWhile Text.isAsciiDigit

/-- Reads a number. Without fraction and exponent it is a whole number. -/
def number (c : Cursor) : Except Failure (Value × Cursor) :=
  let (negative, body) := minusPart c.rest
  let whole := wholePart body
  if whole.isEmpty then .error (.problem .expectingValue c.offset)
  else
    let (fraction, behind) := fractionPart (body.drop whole.length)
    let read := c.offset + (if negative then 1 else 0) + whole.length +
      (if fraction.isEmpty then 0 else fraction.length + 1)
    match exponentPart behind with
    | some (exponent, count, behind) =>
      .ok (scaled negative (whole ++ fraction) (exponent - fraction.length), ⟨behind, read + count⟩)
    | none =>
      if !fraction.isEmpty then
        .ok (scaled negative (whole ++ fraction) (-(fraction.length : Int)), ⟨behind, read⟩)
      else if Number.digitLimit < whole.length then .error (.tooManyDigits whole.length)
      else
        let n : Int := digitsNumber whole
        .ok (.int (if negative then -n else n), ⟨behind, read⟩)
where
  /-- The number with the given digits and power of ten. -/
  scaled (negative : Bool) (digits : List Char) (power : Int) : Value :=
    .float (Binary64.ofDecimal negative (digitsNumber digits) power)

/-- The words that are values. -/
def words : List (String × Value) :=
  [("null", .null), ("true", .bool true), ("false", .bool false), ("NaN", .float (.nan 0)),
   ("Infinity", .float (.infinite false)), ("-Infinity", .float (.infinite true))]

/-- Reads one of the words. -/
def word? (c : Cursor) : Option (Value × Cursor) :=
  words.findSome? fun (name, value) =>
    (Text.dropLeading? name.toList c.rest).map fun rest => (value, ⟨rest, c.offset + name.length⟩)

mutual

/-- Reads a value that begins at the cursor. -/
def value : Nat → Cursor → Except Failure (Value × Cursor)
  | 0, c => .error (.problem .expectingValue c.offset)
  | fuel + 1, c =>
    match c.rest with
    | '"' :: _ => do
      let (s, next) ← text (fuel + 1) c
      return (.text s, next)
    | '\x7b' :: rest =>
      let inner := Cursor.skip ⟨rest, c.offset + 1⟩
      match inner.rest with
      | '\x7d' :: rest => .ok (.map [], ⟨rest, inner.offset + 1⟩)
      | _ => do
        let (entries, next) ← members fuel [] inner
        return (.map entries, next)
    | '[' :: rest =>
      let inner := Cursor.skip ⟨rest, c.offset + 1⟩
      match inner.rest with
      | ']' :: rest => .ok (.list [], ⟨rest, inner.offset + 1⟩)
      | _ => do
        let (items, next) ← elements fuel [] inner
        return (.list items, next)
    | _ =>
      match word? c with
      | some found => .ok found
      | none => number c

/-- Reads the entries of a mapping behind its opening brace. -/
def members : Nat → List (Atom × Value) → Cursor → Except Failure ((List (Atom × Value)) × Cursor)
  | 0, _, c => .error (.problem .expectingName c.offset)
  | fuel + 1, done, c => do
    if c.rest.head? ≠ some '"' then throw (.problem .expectingName c.offset)
    let (name, next) ← text (fuel + 1) c
    let colon := next.skip
    if colon.rest.head? ≠ some ':' then throw (.problem .expectingColon colon.offset)
    let (v, next) ← value fuel (Cursor.skip ⟨colon.rest.drop 1, colon.offset + 1⟩)
    let entries := Entries.put done (.text name) v
    let after := next.skip
    match after.rest with
    | '\x7d' :: rest => return (entries, ⟨rest, after.offset + 1⟩)
    | ',' :: rest => members fuel entries (Cursor.skip ⟨rest, after.offset + 1⟩)
    | _ => throw (.problem .expectingComma after.offset)

/-- Reads the items of a list behind its opening bracket; the items read come in reverse. -/
def elements : Nat → List Value → Cursor → Except Failure ((List Value) × Cursor)
  | 0, _, c => .error (.problem .expectingValue c.offset)
  | fuel + 1, done, c => do
    let (v, next) ← value fuel c
    let after := next.skip
    match after.rest with
    | ']' :: rest => return ((v :: done).reverse, ⟨rest, after.offset + 1⟩)
    | ',' :: rest => elements fuel (v :: done) (Cursor.skip ⟨rest, after.offset + 1⟩)
    | _ => throw (.problem .expectingComma after.offset)

end

/-- Reads a whole document. -/
def document (cs : List Char) : Except Failure Value := do
  if cs.head? = some (Char.ofNat 0xfeff) then throw (.problem .byteOrderMark 0)
  let (v, next) ← value (cs.length + 1) (Cursor.skip ⟨cs, 0⟩)
  let after := next.skip
  if !after.rest.isEmpty then throw (.problem .extraData after.offset)
  return v

/-- A problem with line and column. -/
def locate (cs : List Char) (problem : JsonProblem) (offset : Nat) : JsonFault :=
  let before := cs.take offset
  let lineStart := (before.reverse.takeWhile (· ≠ '\n')).length
  ⟨problem, before.count '\n' + 1, lineStart + 1, offset⟩

/-- Why a text is not accepted. -/
inductive Rejection where
  | malformed (fault : JsonFault)
  | tooManyDigits (count : Nat)
  deriving DecidableEq, Repr

/-- Reads a text as JSON. -/
def parse (text : String) : Except Rejection Value :=
  let cs := text.toList
  match document cs with
  | .ok v => .ok v
  | .error (.problem problem offset) => .error (.malformed (locate cs problem offset))
  | .error (.tooManyDigits count) => .error (.tooManyDigits count)

/-- The complaint about a whole number that is too long to convert. -/
def digitLimitText (count : Nat) : String :=
  s!"Exceeds the limit ({Number.digitLimit} digits) for integer string conversion: " ++
    s!"value has {count} digits; use sys.set_int_max_str_digits() to increase the limit"

end ClientGen.Json
