import ClientGen.Value.Basic

/-!
The syntax of generated modules, as far as generation produces it: expressions for types and
literals, function definitions that make one request, and the statements of a module.
-/

namespace ClientGen

/-- An expression. -/
inductive Expr where
  /-- A name, dotted names included. -/
  | name (id : String)
  /-- A constant; what it holds is printed in written form. -/
  | constant (value : Value)
  /-- A subscript `base[i]` or `base[i, j]`. -/
  | index (base : String) (arguments : List Expr)
  | tuple (items : List Expr)
  | list (items : List Expr)
  | set (items : List Expr)
  | dict (entries : List (Expr × Expr))
  | call (function : String) (arguments : List Expr) (named : List (String × Expr))
  /-- The negative of an expression. -/
  | negative (operand : Expr)
  deriving Inhabited, Repr

namespace Expr

/-- The constant of a text. -/
abbrev text (s : String) : Expr := constant (.text s)

/-- The type that admits every value. -/
abbrev anything : Expr := name "Any"

/-- The type of mappings from text to a type. -/
abbrev mappingTo (value : Expr) : Expr := index "dict" [name "str", value]

/-- The type that also admits null. -/
abbrev optional (e : Expr) : Expr := index "Optional" [e]

end Expr

/-- A positional argument with its type. -/
structure Argument where
  name : String
  type : Expr
  deriving Inhabited, Repr

/-- An argument that callers pass by name. An optional one defaults to null. -/
structure NamedArgument where
  name : String
  type : Expr
  required : Bool
  deriving Inhabited, Repr

/-- A function whose body is an optional description and one returned call. -/
structure Function where
  name : String
  positional : List Argument
  named : List NamedArgument
  /-- The stated return type. -/
  returns : Option Expr
  description : Option String
  call : Expr
  deriving Inhabited, Repr

/-- A statement at the top of a module. -/
inductive Statement where
  | importNames (source : String) (names : List String)
  | importModule (name : String)
  | assign (target : String) (value : Expr)
  | define (function : Function)
  /-- A function given by its text. -/
  | helper (name : String) (lines : List String)
  /-- A statement around an object that is no syntax. -/
  | foreign
  deriving Inhabited, Repr

namespace Statement

/-- The name of the function that a statement defines. -/
def functionName? : Statement → Option String
  | define f => some f.name
  | helper name _ => some name
  | _ => none

/-- The names that a statement binds. -/
def binds : Statement → List String
  | importNames _ names => names
  | importModule name => [name]
  | assign target _ => [target]
  | define f => [f.name]
  | helper name _ => [name]
  | foreign => []

end Statement

end ClientGen
