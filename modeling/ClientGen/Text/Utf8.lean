import ClientGen.Text.Quoted

/-!
Text in UTF-8. Decoding is strict: it stops at the first bytes that encode no character and tells
where they are and what is wrong with them.
-/

namespace ClientGen.Text

/-- What is wrong with bytes. -/
inductive Utf8Problem where
  | badStart
  | badContinuation
  | truncated
  deriving DecidableEq, Repr

def Utf8Problem.text : Utf8Problem → String
  | badStart => "invalid start byte"
  | badContinuation => "invalid continuation byte"
  | truncated => "unexpected end of data"

/-- Bytes that encode no character: the first of them, its position, and how many they are. -/
structure Utf8Fault where
  problem : Utf8Problem
  byte : Nat
  position : Nat
  length : Nat
  deriving DecidableEq, Repr

def Utf8Fault.message (f : Utf8Fault) : String :=
  let place := if f.length = 1 then
      "byte 0x" ++ String.ofList (hexDigits 2 f.byte) ++ " in position " ++ toString f.position
    else "bytes in position " ++ toString f.position ++ "-" ++ toString (f.position + f.length - 1)
  "'utf-8' codec can't decode " ++ place ++ ": " ++ f.problem.text

/-- What a first byte announces: how many bytes follow, its own bits, and the range of the second
byte, which rules out overlong forms, halves of surrogate pairs and too large codes. -/
def leadByte (b : Nat) : Option (Nat × Nat × Nat × Nat) :=
  if b < 0x80 then some (0, b, 0, 0)
  else if b < 0xc2 then none
  else if b < 0xe0 then some (1, b - 0xc0, 0x80, 0xbf)
  else if b = 0xe0 then some (2, 0, 0xa0, 0xbf)
  else if b = 0xed then some (2, 0xd, 0x80, 0x9f)
  else if b < 0xf0 then some (2, b - 0xe0, 0x80, 0xbf)
  else if b = 0xf0 then some (3, 0, 0x90, 0xbf)
  else if b < 0xf4 then some (3, b - 0xf0, 0x80, 0xbf)
  else if b = 0xf4 then some (3, 4, 0x80, 0x8f)
  else none

/-- A character of which bytes are still to come. -/
structure Utf8Partial where
  first : Nat
  start : Nat
  read : Nat
  missing : Nat
  code : Nat
  low : Nat
  high : Nat

/-- Decodes bytes from a position on; a begun character is carried along. -/
def decodeFrom (position : Nat) (begun : Option Utf8Partial) (done : List Char) :
    List UInt8 → Except Utf8Fault (List Char)
  | [] =>
    match begun with
    | none => .ok done.reverse
    | some p => .error ⟨.truncated, p.first, p.start, p.read⟩
  | byte :: rest =>
    let b := byte.toNat
    match begun with
    | some p =>
      if p.low ≤ b ∧ b ≤ p.high then
        let code := p.code * 64 + (b - 0x80)
        if p.missing = 1 then decodeFrom (position + 1) none (Char.ofNat code :: done) rest
        else
          let next : Utf8Partial := ⟨p.first, p.start, p.read + 1, p.missing - 1, code, 0x80, 0xbf⟩
          decodeFrom (position + 1) (some next) done rest
      else .error ⟨.badContinuation, p.first, p.start, p.read⟩
    | none =>
      match leadByte b with
      | none => .error ⟨.badStart, b, position, 1⟩
      | some (0, code, _, _) => decodeFrom (position + 1) none (Char.ofNat code :: done) rest
      | some (missing, code, low, high) =>
        decodeFrom (position + 1) (some ⟨b, position, 1, missing, code, low, high⟩) done rest

/-- The text that bytes encode. -/
def decode (bytes : List UInt8) : Except Utf8Fault (List Char) := decodeFrom 0 none [] bytes

/-- What stands for bytes that encode no character. -/
def replacement : Char := Char.ofNat 0xfffd

/-- A byte that begins a character: the character that is begun, and the text so far, in reverse. -/
def beginLossy (done : List Char) (b : Nat) : Option Utf8Partial × List Char :=
  match leadByte b with
  | none => (none, replacement :: done)
  | some (0, code, _, _) => (none, Char.ofNat code :: done)
  | some (missing, code, low, high) => (some ⟨b, 0, 1, missing, code, low, high⟩, done)

/-- Decodes bytes where a character has been begun or not. -/
def decodeLossyFrom (begun : Option Utf8Partial) (done : List Char) : List UInt8 → List Char
  | [] => (if begun.isSome then replacement :: done else done).reverse
  | byte :: rest =>
    let b := byte.toNat
    match begun with
    | some p =>
      if p.low ≤ b ∧ b ≤ p.high then
        let code := p.code * 64 + (b - 0x80)
        if p.missing = 1 then decodeLossyFrom none (Char.ofNat code :: done) rest
        else decodeLossyFrom (some { p with missing := p.missing - 1, code, low := 0x80, high := 0xbf })
          done rest
      else
        let (begun, done) := beginLossy (replacement :: done) b
        decodeLossyFrom begun done rest
    | none =>
      let (begun, done) := beginLossy done b
      decodeLossyFrom begun done rest

/-- The text that bytes encode, with one replacement character for every longest run of bytes that begins
a character and does not end it, and for every other byte that encodes none. -/
def decodeLossy (bytes : List UInt8) : List Char := decodeLossyFrom none [] bytes

/-- The bytes of a text. -/
def encode (text : String) : List UInt8 := text.toUTF8.toList

/-- Text with every line break as a single line feed. -/
def unifyLineBreaks : List Char → List Char
  | '\r' :: '\n' :: rest => '\n' :: unifyLineBreaks rest
  | '\r' :: rest => '\n' :: unifyLineBreaks rest
  | c :: rest => c :: unifyLineBreaks rest
  | [] => []

end ClientGen.Text
