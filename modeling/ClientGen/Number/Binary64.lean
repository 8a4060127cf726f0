/-!
Binary floating point of 64 bits in exact arithmetic. A finite number is a whole significand times a
power of two; every operation computes the exact result first and rounds it to the nearest number
that has the format, ties going to the even significand.
-/

namespace ClientGen

/-- A number of the format. A finite one is `± significand * 2 ^ exponent` with
`significand < 2 ^ 53` and `-1074 ≤ exponent ≤ 971`, and `2 ^ 52 ≤ significand` above the lowest
exponent, so that a number has one representation; the two zeros differ in sign. -/
inductive Binary64 where
  | finite (negative : Bool) (significand : Nat) (exponent : Int)
  | infinite (negative : Bool)
  /-- What is no number. Results of different computations are told apart by their marks. -/
  | nan (mark : Nat)
  deriving DecidableEq, Inhabited, Repr

namespace Binary64

/-- The lowest exponent of a finite number. -/
def lowest : Int := -1074

/-- The highest exponent of a finite number. -/
def highest : Int := 971

def zero (negative : Bool) : Binary64 := finite negative 0 lowest

/-- The whole part of the binary logarithm of a positive ratio. -/
def ratioLog2 (num den : Nat) : Int :=
  let k : Int := (num.log2 : Int) - den.log2
  let reached := if 0 ≤ k then den <<< k.toNat ≤ num else den ≤ num <<< (-k).toNat
  if reached then k else k - 1

/-- A quotient rounded to the nearest whole number, ties to even. -/
def roundedQuotient (num den : Nat) : Nat :=
  let q := num / den
  let r := num % den
  if 2 * r < den then q
  else if den < 2 * r then q + 1
  else if q % 2 = 0 then q else q + 1

/-- The number of the format nearest to `± num / den`. -/
def ofRatio (negative : Bool) (num den : Nat) : Binary64 :=
  if num = 0 then zero negative
  else
    let e := max (ratioLog2 num den - 52) lowest
    let q := if 0 ≤ e then roundedQuotient num (den <<< e.toNat)
      else roundedQuotient (num <<< (-e).toNat) den
    let (m, e) := if q = Nat.pow 2 53 then (Nat.pow 2 52, e + 1) else (q, e)
    if highest < e then infinite negative else finite negative m e

/-- Decimal exponents beyond which every number overflows, or vanishes. -/
def decimalReach : Int := 400

/-- The number of the format nearest to `± mantissa * 10 ^ exponent`. -/
def ofDecimal (negative : Bool) (mantissa : Nat) (exponent : Int) : Binary64 :=
  let size : Int := (Nat.toDigits 10 mantissa).length
  if mantissa = 0 then zero negative
  else if decimalReach < exponent + size then infinite negative
  else if exponent + size < -decimalReach then zero negative
  else if 0 ≤ exponent then ofRatio negative (mantissa * Nat.pow 10 exponent.toNat) 1
  else ofRatio negative mantissa (Nat.pow 10 (-exponent).toNat)

def ofInt (n : Int) : Binary64 := ofRatio (n < 0) n.natAbs 1

/-- A finite number as a signed numerator over a power of two. -/
def toRatio? : Binary64 → Option (Int × Nat)
  | finite negative m e =>
    let signed : Int := if negative then -(m : Int) else m
    some (if 0 ≤ e then (signed * Int.pow 2 e.toNat, 1) else (signed, Nat.pow 2 (-e).toNat))
  | _ => none

/-- Whether the number is a whole number, and which. -/
def toInt? (x : Binary64) : Option Int := do
  let (num, den) ← x.toRatio?
  if num % (den : Int) = 0 then some (num / (den : Int)) else none

def isZero : Binary64 → Bool
  | finite _ m _ => m = 0
  | _ => false

def isNan : Binary64 → Bool
  | nan _ => true
  | _ => false

/-- Sameness of the numbers meant: the zeros are the same, and what is no number is the same only as
itself. -/
def same (x y : Binary64) : Bool := x = y || (x.isZero && y.isZero)

def negate : Binary64 → Binary64
  | finite negative m e => finite (!negative) m e
  | infinite negative => infinite (!negative)
  | nan mark => nan mark

private def ofSigned (num : Int) (den : Nat) : Binary64 := ofRatio (num < 0) num.natAbs den

/-- The rounded sum. -/
def add (x y : Binary64) : Binary64 :=
  match x.toRatio?, y.toRatio? with
  | some (a, b), some (c, d) => ofSigned (a * d + c * b) (b * d)
  | none, some _ => x
  | some _, none => y
  | none, none => if x = y then x else nan 0

/-- The rounded product. -/
def mul : Binary64 → Binary64 → Binary64
  | finite s m e, finite t n f =>
    let exponent := e + f
    if 0 ≤ exponent then ofRatio (s ≠ t) (m * n * Nat.pow 2 exponent.toNat) 1
    else ofRatio (s ≠ t) (m * n) (Nat.pow 2 (-exponent).toNat)
  | infinite s, infinite t => infinite (s ≠ t)
  | infinite s, finite t n _ => if n = 0 then nan 0 else infinite (s ≠ t)
  | finite s m _, infinite t => if m = 0 then nan 0 else infinite (s ≠ t)
  | nan mark, _ => nan mark
  | _, nan mark => nan mark

end Binary64

end ClientGen
