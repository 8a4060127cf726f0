import ClientGen.Number.Binary64

/-!
The shortest decimal text of a binary number: the fewest digits that read back as the number, and
among those the digits nearest to it.
-/

namespace ClientGen

/-- A decimal `digits * 10 ^ exponent`. -/
structure Decimal where
  digits : Nat
  exponent : Int
  deriving DecidableEq, Repr

namespace Decimal

/-- Moves trailing zeros of the digits into the exponent. -/
def trimZeros : Nat → Decimal → Decimal
  | 0, d => d
  | fuel + 1, d =>
    if d.digits ≠ 0 ∧ d.digits % 10 = 0 then trimZeros fuel ⟨d.digits / 10, d.exponent + 1⟩ else d

end Decimal

namespace Binary64

/-- The whole part of the decimal logarithm of a positive ratio. -/
def ratioLog10 (num den : Nat) : Int :=
  let size (n : Nat) : Nat := (Nat.toDigits 10 n).length
  if den ≤ num then (size (num / den) : Int) - 1
  else
    let k := size (den / num)
    if den ≤ num * Nat.pow 10 (k - 1) then -((k : Int) - 1) else -(k : Int)

/-- The two neighbours of `num / den` on the grid of the given decimal exponent, the nearer first
(of two equally near the even one). -/
def neighbours (num den : Nat) (exponent : Int) : List Decimal :=
  let (n, d) := if 0 ≤ exponent then (num, den * Nat.pow 10 exponent.toNat)
    else (num * Nat.pow 10 (-exponent).toNat, den)
  let q := n / d
  let r := n % d
  let below : Decimal := ⟨q, exponent⟩
  let above : Decimal := ⟨q + 1, exponent⟩
  if 2 * r < d ∨ (2 * r = d ∧ q % 2 = 0) then [below, above] else [above, below]

/-- The exact decimal expansion of `m * 2 ^ e`. -/
def exactDecimal (m : Nat) (e : Int) : Decimal :=
  if 0 ≤ e then ⟨m * Nat.pow 2 e.toNat, 0⟩ else ⟨m * Nat.pow 5 (-e).toNat, e⟩

/-- Searches the grids of `count`, `count + 1`, … digits for a decimal that reads back. -/
def searchGrids (m : Nat) (e : Int) (num den : Nat) (top : Int) : Nat → Nat → Decimal
  | 0, _ => exactDecimal m e
  | tries + 1, count =>
    match (neighbours num den (top - count + 1)).find? fun d =>
        ofDecimal false d.digits d.exponent = finite false m e with
    | some d => d
    | none => searchGrids m e num den top tries (count + 1)

/-- The shortest decimal that reads back as `m * 2 ^ e`; seventeen digits always do. -/
def shortest (m : Nat) (e : Int) : Decimal :=
  if m = 0 then ⟨0, 0⟩
  else
    let (num, den) := if 0 ≤ e then (m * Nat.pow 2 e.toNat, 1) else (m, Nat.pow 2 (-e).toNat)
    (searchGrids m e num den (ratioLog10 num den) 17 1).trimZeros 20

/-- How decimal text is laid out: from which exponents on the scientific form is used, the least
width of its exponent, and the words for what is not finite. -/
structure TextLayout where
  positionalFrom : Int
  positionalBelow : Int
  exponentWidth : Nat
  infinity : String
  notANumber : String

/-- Numbers from `0.0001` up to `10 ^ 16` are written positionally and keep a fraction; others have
a signed exponent of two digits or more. -/
def plainLayout : TextLayout := ⟨-4, 16, 2, "inf", "nan"⟩

private def zeros (n : Nat) : String := String.ofList (List.replicate n '0')

/-- The text of a positive decimal with the given layout. -/
def layoutDecimal (layout : TextLayout) (d : Decimal) : String :=
  let digits := toString d.digits
  let top : Int := (digits.length : Int) - 1 + d.exponent
  if d.digits = 0 then "0.0"
  else if layout.positionalFrom ≤ top ∧ top < layout.positionalBelow then
    if 0 ≤ d.exponent then digits ++ zeros d.exponent.toNat ++ ".0"
    else if 0 ≤ top then
      let whole := (top + 1).toNat
      String.ofList (digits.toList.take whole) ++ "." ++ String.ofList (digits.toList.drop whole)
    else "0." ++ zeros (-top - 1).toNat ++ digits
  else
    let tail := digits.toList.drop 1
    let fraction := if tail.isEmpty then "" else "." ++ String.ofList tail
    let power := toString top.natAbs
    String.ofList (digits.toList.take 1) ++ fraction ++ "e" ++ (if top < 0 then "-" else "+") ++
      zeros (layout.exponentWidth - power.length) ++ power

/-- The text of a number with the given layout. -/
def toText (x : Binary64) (layout : TextLayout) : String :=
  match x with
  | finite negative m e => (if negative then "-" else "") ++ layoutDecimal layout (shortest m e)
  | infinite negative => (if negative then "-" else "") ++ layout.infinity
  | nan _ => layout.notANumber

end Binary64

end ClientGen
