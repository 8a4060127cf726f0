import ClientGen.Number.Shortest
import ClientGen.Value.Date

/-!
Values: what documents, settings and plugin options consist of. A value is an atom or a container;
mappings keep the order of their entries and are keyed by atoms.
-/

namespace ClientGen

/-- A value without parts. -/
inductive Atom where
  | null
  | bool (b : Bool)
  | int (n : Int)
  | float (x : Binary64)
  | text (s : String)
  | bytes (bytes : List UInt8)
  | date (d : Date)
  | moment (m : Moment)
  deriving DecidableEq, Inhabited, Repr

namespace Atom

/-- The number an atom stands for in comparisons; truth values count as `0` and `1`. -/
def number? : Atom → Option (Int ⊕ Binary64)
  | bool b => some (.inl (if b then 1 else 0))
  | int n => some (.inl n)
  | float x => some (.inr x)
  | _ => none

/-- Equality of what atoms mean: numbers are compared across their kinds. -/
def same (a b : Atom) : Bool :=
  match a.number?, b.number? with
  | some (.inl m), some (.inl n) => m = n
  | some (.inl m), some (.inr y) => y.toInt? = some m
  | some (.inr x), some (.inl n) => x.toInt? = some n
  | some (.inr x), some (.inr y) => x.same y
  | none, none =>
    match a, b with
    | moment m, moment n => m.same n
    | _, _ => a = b
  | _, _ => false

/-- Whether a condition takes the atom for true: null, false, zero and the empty text are false. -/
def truthy : Atom → Bool
  | null => false
  | bool b => b
  | int n => n ≠ 0
  | float x => !x.isZero
  | text s => !s.isEmpty
  | bytes b => !b.isEmpty
  | date _ => true
  | moment _ => true

/-- The word for the kind of an atom in messages. -/
def kindName : Atom → String
  | null => "NoneType"
  | bool _ => "bool"
  | int _ => "int"
  | float _ => "float"
  | text _ => "str"
  | bytes _ => "bytes"
  | date _ => "date"
  | moment _ => "datetime"

end Atom

/-- A tree of values. The members of a set are kept in the order of insertion. -/
inductive Value where
  | atom (a : Atom)
  | list (items : List Value)
  | tuple (items : List Value)
  | set (members : List Atom)
  | map (entries : List (Atom × Value))
  deriving Inhabited, Repr

/-- One layer of a value: its kind with its direct parts, whatever the parts are given as. -/
inductive Shape (ν : Type) where
  | atom (a : Atom)
  | list (items : List ν)
  | tuple (items : List ν)
  | set (members : List Atom)
  | map (entries : List (Atom × ν))
  deriving Inhabited, Repr

namespace Entries

variable {α : Type}

/-- The entry of a key. -/
def get? (entries : List (Atom × α)) (key : Atom) : Option α :=
  (entries.find? fun entry => entry.1.same key).map (·.2)

/-- The entry of a text key. -/
def field? (entries : List (Atom × α)) (name : String) : Option α :=
  get? entries (.text name)

/-- Entries with the value of one key set: in place where the key is present, else at the end. -/
def put (entries : List (Atom × α)) (key : Atom) (value : α) : List (Atom × α) :=
  if entries.any fun entry => entry.1.same key then
    entries.map fun entry => if entry.1.same key then (entry.1, value) else entry
  else entries ++ [(key, value)]

/-- Entries without the entry of one key. -/
def erase (entries : List (Atom × α)) (key : Atom) : List (Atom × α) :=
  entries.filter fun entry => !entry.1.same key

end Entries

namespace Shape

variable {ν : Type}

/-- Whether a condition takes the value for true: what is empty or zero is false. -/
def truthy : Shape ν → Bool
  | atom a => a.truthy
  | list items => !items.isEmpty
  | tuple items => !items.isEmpty
  | set members => !members.isEmpty
  | map entries => !entries.isEmpty

/-- The word for the kind of a value in messages. -/
def kindName : Shape ν → String
  | atom a => a.kindName
  | list _ => "list"
  | tuple _ => "tuple"
  | set _ => "set"
  | map _ => "dict"

def isMap : Shape ν → Bool
  | map _ => true
  | _ => false

/-- The entry of a text key, if the value is a mapping that has it. -/
def field? : Shape ν → String → Option ν
  | map entries, name => Entries.field? entries name
  | _, _ => none

/-- Whether the value is this very text. -/
def isText (s : Shape ν) (text : String) : Bool :=
  match s with
  | atom (.text t) => t = text
  | _ => false

def isNull : Shape ν → Bool
  | atom .null => true
  | _ => false

end Shape

namespace Value

/-- The outermost layer of a value. -/
def shape : Value → Shape Value
  | atom a => .atom a
  | list items => .list items
  | tuple items => .tuple items
  | set members => .set members
  | map entries => .map entries

@[match_pattern]
abbrev null : Value := atom .null

@[match_pattern]
abbrev bool (b : Bool) : Value := atom (.bool b)

@[match_pattern]
abbrev int (n : Int) : Value := atom (.int n)

@[match_pattern]
abbrev float (x : Binary64) : Value := atom (.float x)

@[match_pattern]
abbrev text (s : String) : Value := atom (.text s)

/-- A mapping from text keys. -/
def ofFields (fields : List (String × Value)) : Value :=
  map (fields.map fun field => (.text field.1, field.2))

def truthy (v : Value) : Bool := v.shape.truthy

def kindName (v : Value) : String := v.shape.kindName

def field? (v : Value) (name : String) : Option Value := v.shape.field? name

mutual

/-- How many values a value consists of, itself included. -/
def size : Value → Nat
  | atom _ => 1
  | list items => sizeItems items + 1
  | tuple items => sizeItems items + 1
  | set members => members.length + 1
  | map entries => sizeEntries entries + 1

def sizeItems : List Value → Nat
  | [] => 0
  | v :: rest => size v + sizeItems rest

def sizeEntries : List (Atom × Value) → Nat
  | [] => 0
  | (_, v) :: rest => size v + sizeEntries rest

end

mutual

/-- How deep brackets are nested in the written form of a value. -/
def nesting : Value → Nat
  | atom _ => 0
  | list items => nestingOfItems items + 1
  | tuple items => nestingOfItems items + 1
  | set _ => 1
  | map entries => nestingOfEntries entries + 1

def nestingOfItems : List Value → Nat
  | [] => 0
  | v :: rest => max (nesting v) (nestingOfItems rest)

def nestingOfEntries : List (Atom × Value) → Nat
  | [] => 0
  | (_, v) :: rest => max (nesting v) (nestingOfEntries rest)

end

mutual

/-- Equality of what values mean: numbers are compared across their kinds, and neither mappings nor
sets depend on order. -/
def same : Value → Value → Bool
  | atom a, atom b => a.same b
  | list xs, list ys => sameItems xs ys
  | tuple xs, tuple ys => sameItems xs ys
  | set xs, set ys => xs.length = ys.length && xs.all fun x => ys.any x.same
  | map xs, map ys => xs.length = ys.length && sameEntries xs ys
  | _, _ => false

def sameItems : List Value → List Value → Bool
  | [], [] => true
  | x :: xs, y :: ys => same x y && sameItems xs ys
  | _, _ => false

def sameEntries : List (Atom × Value) → List (Atom × Value) → Bool
  | [], _ => true
  | (k, x) :: xs, ys =>
    (match Entries.get? ys k with
      | some y => same x y
      | none => false) && sameEntries xs ys

end

mutual

/-- Whether a value may be a member of a set: an atom, or a tuple of such values. -/
def isKey : Value → Bool
  | atom _ => true
  | tuple items => areKeys items
  | _ => false

def areKeys : List Value → Bool
  | [] => true
  | v :: rest => isKey v && areKeys rest

end

end Value

end ClientGen
