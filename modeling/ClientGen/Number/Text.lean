import ClientGen.Number.Binary64
import ClientGen.Text.Words

/-!
Numbers as people write them: with blanks around, a sign, digits of any script, and low lines between
digits.
-/

namespace ClientGen.Number

/-- Blanks that may stand around a number. The control characters that separate records are not among
them. -/
def isMargin (c : Char) : Bool := Text.isBlank c && !(0x1c ≤ c.toNat && c.toNat ≤ 0x1f)

/-- The value of a digit in a base; letters stand for the digits from ten on. -/
def digitValue? (base : Nat) (c : Char) : Option Nat :=
  let value :=
    if Text.isAsciiLower c then some (c.toNat - 0x61 + 10)
    else if Text.isAsciiUpper c then some (c.toNat - 0x41 + 10)
    else Text.decimalValue? c
  value.filter (· < base)

/-- The value of digits in a base, with single low lines between digits allowed. -/
def digitsValue? (base : Nat) : Nat → List Char → Option Nat
  | _, [] => none
  | value, [c] => (digitValue? base c).map (base * value + ·)
  | value, c :: '_' :: rest => do digitsValue? base (base * value + (← digitValue? base c)) rest
  | value, c :: rest => do digitsValue? base (base * value + (← digitValue? base c)) rest

/-- A sign at the beginning, and what follows it. -/
def takeSign : List Char → Bool × List Char
  | '-' :: rest => (true, rest)
  | '+' :: rest => (false, rest)
  | rest => (false, rest)

/-- The letter that marks a base behind a leading zero. -/
def baseLetter? (base : Nat) : Option Char :=
  if base = 2 then some 'b' else if base = 8 then some 'o' else if base = 16 then some 'x' else none

/-- The digits without the mark of their base; one low line may follow the mark. -/
def dropBase (base : Nat) : List Char → List Char
  | '0' :: c :: rest =>
    if (baseLetter? base).any fun letter => Text.lower c = [letter] then
      match rest with
      | '_' :: rest => rest
      | rest => rest
    else '0' :: c :: rest
  | digits => digits

/-- A whole number in a base. -/
def wholeIn? (base : Nat) (cs : List Char) : Option Int :=
  let (negative, digits) := takeSign (Text.trim isMargin cs)
  (digitsValue? base 0 (dropBase base digits)).map fun n => if negative then -(n : Int) else n

/-- A whole number. -/
def whole? (cs : List Char) : Option Int := wholeIn? 10 cs

/-- Whole numbers of more digits than this are not converted. -/
def digitLimit : Nat := 4300

/-- A whole number of not too many digits. -/
def limitedWhole? (cs : List Char) : Option Int :=
  if digitLimit < (cs.filter fun c => (Text.decimalValue? c).isSome).length then none else whole? cs

/-- Digits of other scripts as those of ASCII. -/
def asciiDigit (c : Char) : Char :=
  match Text.decimalValue? c with
  | some n => Char.ofNat (0x30 + n)
  | none => c

/-- Digits without the low lines between them; any other low line is refused. -/
def dropLowLines (previous : Bool) : List Char → Option (List Char)
  | [] => some []
  | c :: rest =>
    if c = '_' then
      if previous && (rest.head?).any Text.isAsciiDigit then dropLowLines false rest else none
    else (dropLowLines (Text.isAsciiDigit c) rest).map (c :: ·)

private def decimalValue (digits : List Char) : Nat :=
  digits.foldl (fun n c => 10 * n + (c.toNat - 0x30)) 0

/-- The exponent of ten at the end of a number. -/
def exponent? : List Char → Option Int
  | [] => some 0
  | c :: rest =>
    let (negative, digits) := takeSign rest
    if (c = 'e' || c = 'E') && !digits.isEmpty && digits.all Text.isAsciiDigit then
      some (if negative then -(decimalValue digits : Int) else decimalValue digits)
    else none

/-- A number without sign: digits with or without a point among them, and an exponent; or one of the
words for what is not finite. -/
def unsignedReal? (negative : Bool) (cs : List Char) : Option Binary64 := do
  let word := String.ofList (cs.flatMap Text.lower)
  if word = "inf" || word = "infinity" then return .infinite negative
  if word = "nan" then return .nan 0
  let cs ← dropLowLines false cs
  let front := cs.takeWhile Text.isAsciiDigit
  let (back, rest) := match cs.dropWhile Text.isAsciiDigit with
    | '.' :: rest => (rest.takeWhile Text.isAsciiDigit, rest.dropWhile Text.isAsciiDigit)
    | rest => ([], rest)
  if front.isEmpty && back.isEmpty then none
  let exponent ← exponent? rest
  return Binary64.ofDecimal negative (decimalValue (front ++ back)) (exponent - back.length)

/-- A number. -/
def real? (cs : List Char) : Option Binary64 :=
  let (negative, body) := takeSign (Text.trim isMargin (cs.map asciiDigit))
  unsignedReal? negative body

end ClientGen.Number
