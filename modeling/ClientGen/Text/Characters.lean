import ClientGen.Text.IdentifierRanges
import ClientGen.Text.PrintableRanges
import ClientGen.Text.DigitRanges
import ClientGen.Text.UpperCaseRanges
import ClientGen.Text.WidthRanges

/-!
Character classes. Each class is given in full for ASCII by a rule and outside ASCII by a table.
-/

namespace ClientGen.Text

/-- Whether a code point lies in one of the inclusive ranges. -/
def inRanges (ranges : List (Nat × Nat)) (code : Nat) : Bool :=
  ranges.any fun range => range.1 ≤ code && code ≤ range.2

/-- Whether a character is one of the 128 of ASCII. -/
def isAscii (c : Char) : Bool := c.toNat < 0x80

def isAsciiLower (c : Char) : Bool := 'a' ≤ c && c ≤ 'z'

def isAsciiUpper (c : Char) : Bool := 'A' ≤ c && c ≤ 'Z'

def isAsciiDigit (c : Char) : Bool := '0' ≤ c && c ≤ '9'

/-- A letter or digit of ASCII. -/
def isWord (c : Char) : Bool := isAsciiLower c || isAsciiUpper c || isAsciiDigit c

/-- Blanks: the separators of Unicode together with the control characters that separate. -/
def isBlank (c : Char) : Bool :=
  let n := c.toNat
  n = 0x20 || (0x09 ≤ n && n ≤ 0x0d) || (0x1c ≤ n && n ≤ 0x1f) || n = 0x85 || n = 0xa0 ||
    n = 0x1680 || (0x2000 ≤ n && n ≤ 0x200a) || n = 0x2028 || n = 0x2029 || n = 0x202f ||
    n = 0x205f || n = 0x3000

/-- The first character of an identifier: a letter or the low line. -/
def isIdentifierStart (c : Char) : Bool :=
  if isAscii c then isAsciiLower c || isAsciiUpper c || c = '_'
  else inRanges identifierStartRanges c.toNat

/-- A later character of an identifier: also digits and joining marks. -/
def isIdentifierContinue (c : Char) : Bool :=
  if isAscii c then isWord c || c = '_' else inRanges identifierContinueRanges c.toNat

/-- Whether quoted text shows the character itself. -/
def isPrintable (c : Char) : Bool :=
  if isAscii c then 0x20 ≤ c.toNat && c.toNat < 0x7f
  else !inRanges unprintableRanges c.toNat

/-- Digits in the wide sense, superscripts and circled figures included. -/
def isDigit (c : Char) : Bool :=
  if isAscii c then isAsciiDigit c else inRanges digitRanges c.toNat

/-- The value of a decimal digit of any script. -/
def decimalValue? (c : Char) : Option Nat :=
  if isAscii c then if isAsciiDigit c then some (c.toNat - 0x30) else none
  else (decimalZeros.find? fun first => first ≤ c.toNat && c.toNat < first + 10).map (c.toNat - ·)

/-- Upper case of one character; some characters have two or three in its place. -/
def upper (c : Char) : List Char :=
  if isAscii c then [if isAsciiLower c then Char.ofNat (c.toNat - 0x20) else c]
  else match upperCaseExpansions.find? (·.1 = c.toNat) with
    | some (_, codes) => codes.map Char.ofNat
    | none =>
      match upperCaseRuns.find? fun (first, last, step, _) =>
          first ≤ c.toNat && c.toNat ≤ last && (c.toNat - first) % step = 0 with
      | some (_, _, _, distance) => [Char.ofNat (c.toNat + distance).toNat]
      | none => [c]

/-- Lower case of one character as far as ASCII goes: the letters of ASCII, and the two letters
outside it (`İ` and the Kelvin sign) whose lower case holds a letter of ASCII. The lower case of any
other character holds none, so the character itself stands for it. -/
def lower (c : Char) : List Char :=
  if isAsciiUpper c then [Char.ofNat (c.toNat + 0x20)]
  else if c.toNat = 0x130 then ['i', Char.ofNat 0x307]
  else if c.toNat = 0x212a then ['k']
  else [c]

/-- Control characters. -/
def isControl (c : Char) : Bool := c.toNat < 0x20 || (0x7f ≤ c.toNat && c.toNat < 0xa0)

/-- How many columns of a terminal a character takes. -/
def columns (c : Char) : Nat :=
  if isControl c then 0
  else if isAscii c then 1
  else if inRanges zeroWidthRanges c.toNat then 0
  else if inRanges wideRanges c.toNat then 2
  else 1

/-- Whether a character takes one column as text and two as a picture. -/
def isWiderAsPicture (c : Char) : Bool := inRanges pictureRanges c.toNat

end ClientGen.Text
