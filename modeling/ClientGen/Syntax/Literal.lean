import ClientGen.Fault
import ClientGen.Syntax.Basic

/-!
The expression that denotes a value. Brackets can only be nested so deep.
-/

namespace ClientGen.Expr

/-- The expression of a whole number; a negative one is the negative of a constant. -/
def ofInt (n : Int) : Expr :=
  if n < 0 then negative (constant (.int (-n))) else constant (.int n)

/-- The expression of a number: what is not finite is written by name. -/
def ofFloat : Binary64 → Expr
  | .finite true m e => negative (constant (.float (.finite false m e)))
  | .finite false m e => constant (.float (.finite false m e))
  | .infinite true => negative (name "inf")
  | .infinite false => name "inf"
  | .nan _ => name "nan"

private def ofNat (n : Nat) : Expr := ofInt n

private def ofDate (d : Date) : List Expr := [ofNat d.year, ofNat d.month, ofNat d.day]

/-- The expression that denotes an atom. -/
def ofAtom : Atom → Expr
  | .int n => ofInt n
  | .float x => ofFloat x
  | .date d => call "datetime.date" (ofDate d) []
  | .moment m =>
    call "datetime.datetime" (ofDate m.date ++ [m.hour, m.minute, m.second, m.microsecond].map ofNat)
      []
  | a => constant (.atom a)

mutual

/-- The expression that denotes a value. -/
def literal : Value → Expr
  | .atom a => ofAtom a
  | .list items => list (literals items)
  | .tuple items => tuple (literals items)
  | .set [] => call "set" [] []
  | .set members => set (members.map ofAtom)
  | .map entries => dict (literalEntries entries)

def literals : List Value → List Expr
  | [] => []
  | v :: rest => literal v :: literals rest

def literalEntries : List (Atom × Value) → List (Expr × Expr)
  | [] => []
  | (k, v) :: rest => (ofAtom k, literal v) :: literalEntries rest

end

/-- How deep the brackets of an expression may be nested. -/
def nestingLimit : Nat := 200

/-- The complaint about an expression that is nested too deep. -/
def tooNested : Fault :=
  .raised (.other "SyntaxError") "too many nested parentheses (<unknown>, line 1)"

/-- The expression that denotes a value, if it is not nested too deep. -/
def ofValue (v : Value) : Except Fault Expr :=
  if v.nesting ≤ nestingLimit then .ok (literal v) else .error tooNested

end ClientGen.Expr
