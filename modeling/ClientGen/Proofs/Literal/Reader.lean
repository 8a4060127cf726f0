import ClientGen.Json.Parser
import ClientGen.Naming
import ClientGen.Syntax.Literal

/-!
Reading literals. `read` knows the part of the grammar of expressions that literals are written in: the words for null
and the truth values, numbers, quoted texts, brackets with their commas, and the sign in front of a number. What lies
outside of this part is refused, and never taken for something else. `value?` is what an expression evaluates to, and
`readAssignment` reads a statement that gives a value to a name.
-/

namespace ClientGen.Literal

/-! ### Atoms -/

/-- The words that are constants. -/
def words : List (String × Atom) := [("None", .null), ("True", .bool true), ("False", .bool false)]

/-- Reads one of the words. -/
def word (cs : List Char) : Option (Atom × List Char) :=
  (words.lookup (String.ofList (cs.takeWhile Text.isIdentifierContinue))).map fun a =>
    (a, cs.dropWhile Text.isIdentifierContinue)

/-- Reads a number without sign. Those with a point or an exponent are rounded to the nearest binary number, others
are whole and have no zeros in front and not too many digits: so far both notations agree. -/
def numeral (cs : List Char) : Option (Value × List Char) :=
  if cs.head?.any Text.isAsciiDigit then
    match Json.number ⟨cs, 0⟩ with
    | .ok (v, next) => some (v, next.rest)
    | .error _ => none
  else none

/-- The character that a letter behind a backslash stands for. -/
def simpleEscape? : Char → Option Char
  | '\\' => some '\\'
  | '\'' => some '\''
  | '"' => some '"'
  | 'a' => some (Char.ofNat 7)
  | 'b' => some (Char.ofNat 8)
  | 't' => some '\t'
  | 'n' => some '\n'
  | 'v' => some (Char.ofNat 11)
  | 'f' => some (Char.ofNat 12)
  | 'r' => some '\r'
  | _ => none

/-- How many hexadecimal digits stand behind a letter behind a backslash. -/
def escapeWidth? : Char → Option Nat
  | 'x' => some 2
  | 'u' => some 4
  | 'U' => some 8
  | _ => none

/-- The character with a code point. -/
def character? (code : Nat) : Option Char := if code.isValidChar then some (Char.ofNat code) else none

/-- Reads what stands behind a backslash. -/
def escape : List Char → Option (Char × List Char)
  | [] => none
  | c :: rest =>
    match simpleEscape? c with
    | some d => some (d, rest)
    | none => do
      let width ← escapeWidth? c
      if rest.length < width then none
      let code ← Json.hexNumber? (rest.take width)
      return (← character? code, rest.drop width)

/-- Reads the characters of a text up to its closing quote. A text ends on its line. -/
def textBody (quote : Char) : Nat → List Char → Option (List Char × List Char)
  | 0, _ => none
  | _ + 1, [] => none
  | fuel + 1, c :: rest =>
    if c = quote then some ([], rest)
    else if c = '\\' then do
      let (d, behind) ← escape rest
      let (chars, behind) ← textBody quote fuel behind
      return (d :: chars, behind)
    else if c = '\n' ∨ c = '\r' ∨ c.toNat = 0 then none
    else do
      let (chars, behind) ← textBody quote fuel rest
      return (c :: chars, behind)

/-- Reads an expression that is no brackets and has no sign. -/
def constant : List Char → Option (Expr × List Char)
  | [] => none
  | c :: rest =>
    if c = '\'' ∨ c = '"' then
      (textBody c (rest.length + 1) rest).map fun (chars, behind) => (.text (String.ofList chars), behind)
    else
      match numeral (c :: rest) with
      | some (v, behind) => some (.constant v, behind)
      | none => (word (c :: rest)).map fun (a, behind) => (.constant (.atom a), behind)

/-! ### Expressions -/

/-- What is behind the blanks at the beginning of a text in brackets. -/
def skip (cs : List Char) : List Char := cs.dropWhile Json.isSpace

/-- One item between round brackets stands for itself unless a comma follows it. -/
def enclosed : List Expr → Bool → Expr
  | [item], false => item
  | items, _ => .tuple items

mutual

/-- Reads an expression; so many brackets may still be opened. -/
def expression : Nat → Nat → List Char → Option (Expr × List Char)
  | 0, _, _ => none
  | fuel + 1, depth, cs =>
    match cs, depth with
    | '-' :: rest, depth => do
      let (operand, behind) ← expression fuel depth rest
      return (.negative operand, behind)
    | '[' :: rest, depth + 1 => do
      let (found, _, behind) ← items fuel depth ']' false (skip rest)
      return (.list found, behind)
    | '(' :: rest, depth + 1 => do
      let (found, comma, behind) ← items fuel depth ')' false (skip rest)
      return (enclosed found comma, behind)
    | '\x7b' :: rest, depth + 1 => do
      let (found, behind) ← entries fuel depth (skip rest)
      return (.dict found, behind)
    | cs, _ => constant cs

/-- Reads items up to a closing bracket, and whether there is a comma in front of the bracket. -/
def items : Nat → Nat → Char → Bool → List Char → Option (List Expr × Bool × List Char)
  | 0, _, _, _, _ => none
  | fuel + 1, depth, close, comma, cs =>
    if cs.head? = some close then some ([], comma, cs.drop 1)
    else do
      let (item, behind) ← expression fuel depth cs
      let behind := skip behind
      if behind.head? = some close then return ([item], false, behind.drop 1)
      if behind.head? ≠ some ',' then none
      let (found, comma, behind) ← items fuel depth close true (skip (behind.drop 1))
      return (item :: found, comma, behind)

/-- Reads entries up to the closing brace. -/
def entries : Nat → Nat → List Char → Option (List (Expr × Expr) × List Char)
  | 0, _, _ => none
  | fuel + 1, depth, cs =>
    if cs.head? = some '\x7d' then some ([], cs.drop 1)
    else do
      let (key, behind) ← expression fuel depth cs
      let behind := skip behind
      if behind.head? ≠ some ':' then none
      let (value, behind) ← expression fuel depth (skip (behind.drop 1))
      let behind := skip behind
      if behind.head? = some '\x7d' then return ([(key, value)], behind.drop 1)
      if behind.head? ≠ some ',' then none
      let (found, behind) ← entries fuel depth (skip (behind.drop 1))
      return ((key, value) :: found, behind)

end

/-- Reads a text that is one expression. -/
def read (cs : List Char) : Option Expr :=
  match expression (cs.length + 1) Expr.nestingLimit cs with
  | some (e, []) => some e
  | _ => none

/-- Reads the assignment of an expression to a name. -/
def readAssignment (cs : List Char) : Option (String × Expr) :=
  let target := cs.takeWhile Text.isIdentifierContinue
  if Naming.isIdentifier target && !Naming.isKeyword target then
    match (cs.dropWhile Text.isIdentifierContinue).dropWhile (· = ' ') with
    | '=' :: rest => (read (rest.dropWhile (· = ' '))).map fun e => (String.ofList target, e)
    | _ => none
  else none

/-! ### Evaluation -/

/-- The negative of a number; truth values count as numbers. -/
def negated? : Value → Option Value
  | .bool b => some (.int (if b then -1 else 0))
  | .int n => some (.int (-n))
  | .float x => some (.float x.negate)
  | _ => none

mutual

/-- What an expression of constants, signs and brackets evaluates to. -/
def value? : Expr → Option Value
  | .constant v => some v
  | .negative operand => do negated? (← value? operand)
  | .list items => do return .list (← values? items)
  | .tuple items => do return .tuple (← values? items)
  | .dict entries => do return .map (← mapping? [] entries)
  | _ => none

def values? : List Expr → Option (List Value)
  | [] => some []
  | e :: rest => do return (← value? e) :: (← values? rest)

/-- Entries are put one after the other: of several entries with one key the last one counts, at the place of the
first. -/
def mapping? (done : List (Atom × Value)) : List (Expr × Expr) → Option (List (Atom × Value))
  | [] => some done
  | (k, e) :: rest => do
    let .atom key ← value? k | none
    mapping? (Entries.put done key (← value? e)) rest

end

/-- What the text of an expression evaluates to. -/
def evaluate (text : String) : Option Value := do value? (← read text.toList)

end ClientGen.Literal
