import ClientGen.Text.Characters

/-!
Quoted text: how a string or a run of bytes is written between quotes so that it reads back. The
quote is the single one unless the text holds single quotes and no double ones; the quote, the
backslash and every character without a printed form are escaped.
-/

namespace ClientGen.Text

/-- One hexadecimal digit, lower case. -/
def hexDigit (n : Nat) : Char :=
  if n % 16 < 10 then Char.ofNat (0x30 + n % 16) else Char.ofNat (0x57 + n % 16)

/-- A number in hexadecimal with the given count of digits. -/
def hexDigits : Nat → Nat → List Char
  | 0, _ => []
  | width + 1, n => hexDigits width (n / 16) ++ [hexDigit n]

/-- The escape of a character by its code point, as short as its size allows. -/
def escapeCode (n : Nat) : List Char :=
  if n < 0x100 then '\\' :: 'x' :: hexDigits 2 n
  else if n < 0x10000 then '\\' :: 'u' :: hexDigits 4 n
  else '\\' :: 'U' :: hexDigits 8 n

/-- One character of quoted text. -/
def quoteChar (quote c : Char) : List Char :=
  if c = quote ∨ c = '\\' then ['\\', c]
  else if c = '\n' then ['\\', 'n']
  else if c = '\r' then ['\\', 'r']
  else if c = '\t' then ['\\', 't']
  else if isPrintable c then [c]
  else escapeCode c.toNat

/-- The quote that a text is written with. -/
def chooseQuote (cs : List Char) : Char :=
  if cs.contains '\'' && !cs.contains '"' then '"' else '\''

/-- The characters of a text between quotes. -/
def quotedChars (cs : List Char) : List Char :=
  let quote := chooseQuote cs
  quote :: cs.flatMap (quoteChar quote) ++ [quote]

/-- A text between quotes. -/
def quoted (text : String) : String := String.ofList (quotedChars text.toList)

/-- One byte of quoted bytes. -/
def quoteByte (quote : Char) (b : UInt8) : List Char :=
  let c := Char.ofNat b.toNat
  if isAscii c then quoteChar quote c else escapeCode b.toNat

/-- Bytes between quotes with the mark that tells them from text. -/
def quotedBytes (bytes : List UInt8) : String :=
  let quote := chooseQuote (bytes.map fun b => Char.ofNat b.toNat)
  String.ofList ('b' :: quote :: bytes.flatMap (quoteByte quote) ++ [quote])

end ClientGen.Text
