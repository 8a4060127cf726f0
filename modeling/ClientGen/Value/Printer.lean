import ClientGen.Number.Text
import ClientGen.Value.Basic

/-!
The text of values. The written form of a value is an expression that denotes it; the displayed form
differs from it only for texts, which are shown as they are, and for dates. Whole numbers with too many
digits are not to be written.
-/

namespace ClientGen

namespace Atom

/-- The expression that denotes an atom. -/
def written : Atom → String
  | null => "None"
  | bool b => if b then "True" else "False"
  | int n => toString n
  | float x => x.toText Binary64.plainLayout
  | text s => Text.quoted s
  | bytes b => Text.quotedBytes b
  | date d => d.expression
  | moment m => m.expression

/-- Whether an atom may be written: a whole number must not have too many digits. -/
def isWritable : Atom → Bool
  | int n => n.natAbs < Nat.pow 10 Number.digitLimit
  | _ => true

/-- An atom as shown in running text. -/
def displayed : Atom → String
  | text s => s
  | date d => d.isoText
  | moment m => m.isoText " "
  | a => a.written

end Atom

namespace Value

mutual

/-- The expression that denotes a value. -/
def written : Value → String
  | atom a => a.written
  | list items => "[" ++ Text.join ", " (writtenItems items) ++ "]"
  | tuple items =>
    "(" ++ Text.join ", " (writtenItems items) ++ (if items.length = 1 then "," else "") ++ ")"
  | set [] => "set()"
  | set members => "\x7b" ++ Text.join ", " (members.map Atom.written) ++ "\x7d"
  | map entries => "\x7b" ++ Text.join ", " (writtenEntries entries) ++ "\x7d"

def writtenItems : List Value → List String
  | [] => []
  | v :: rest => written v :: writtenItems rest

def writtenEntries : List (Atom × Value) → List String
  | [] => []
  | (k, v) :: rest => (k.written ++ ": " ++ written v) :: writtenEntries rest

end

mutual

/-- Whether a value may be written: all atoms in it may be. -/
def isWritable : Value → Bool
  | atom a => a.isWritable
  | list items => areWritable items
  | tuple items => areWritable items
  | set members => members.all Atom.isWritable
  | map entries => haveWritable entries

def areWritable : List Value → Bool
  | [] => true
  | v :: rest => isWritable v && areWritable rest

def haveWritable : List (Atom × Value) → Bool
  | [] => true
  | (k, v) :: rest => k.isWritable && isWritable v && haveWritable rest

end

/-- A value as shown in running text. -/
def displayed : Value → String
  | atom a => a.displayed
  | v => v.written

end Value

end ClientGen
