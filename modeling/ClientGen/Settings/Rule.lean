import ClientGen.Fault
import ClientGen.Value.Printer

/-!
Rules for the fields of settings records. A rule accepts a value, possibly in another form, or tells
which of its parts are not as they should be; all violations of a record are reported together.
-/

namespace ClientGen

/-- What a field may hold. -/
inductive FieldRule where
  | text
  | optionalText
  | texts
  | flag
  | optionalFlag
  | table
  | optionKind
  | optionName
  | anything
  deriving DecidableEq, Repr

/-- A field of a record; one without a default has to be given. -/
structure Field where
  name : String
  rule : FieldRule
  default : Option Value

namespace FieldRule

private def violation (place : List (String ⊕ Nat)) (rule text : String) : Violation :=
  ⟨place, rule, text⟩

/-- The words that stand for truth values. -/
def flagWord? (word : String) : Option Bool :=
  let lowered := String.ofList (word.toList.flatMap Text.lower)
  if ["1", "t", "true", "on", "y", "yes"].contains lowered then some true
  else if ["0", "f", "false", "off", "n", "no"].contains lowered then some false
  else none

def flagOfInt? (n : Int) : Option Bool :=
  if n = 0 then some false else if n = 1 then some true else none

/-- Whether a number is one of 64 bits with a sign. -/
def isWord (n : Int) : Bool := -Int.pow 2 63 ≤ n && n < Int.pow 2 63

/-- A truth value, a number that is zero or one, or a word for one of them. Numbers that do not
fit into 64 bits are taken for values of another kind, floats also at the lower end of that range. -/
def checkFlag (v : Value) : Except (List Violation) Value :=
  let unclear := Except.error
    [violation [] "bool_parsing" "Input should be a valid boolean, unable to interpret input"]
  let wrong := Except.error [violation [] "bool_type" "Input should be a valid boolean"]
  match v with
  | .bool b => .ok (.bool b)
  | .int n => if isWord n then (flagOfInt? n).elim unclear fun b => .ok (.bool b) else wrong
  | .float x =>
    match x.toInt? with
    | some n =>
      if isWord n && n ≠ -Int.pow 2 63 then (flagOfInt? n).elim unclear fun b => .ok (.bool b) else wrong
    | none => wrong
  | .text s => (flagWord? s).elim unclear fun b => .ok (.bool b)
  | _ => wrong

def checkText (v : Value) : Except (List Violation) Value :=
  match v with
  | .text s => .ok (.text s)
  | _ => .error [violation [] "string_type" "Input should be a valid string"]

/-- The violations of a list of texts, item by item. -/
def textViolations : Nat → List Value → List Violation
  | _, [] => []
  | index, v :: rest =>
    match v with
    | .text _ => textViolations (index + 1) rest
    | _ => violation [.inr index] "string_type" "Input should be a valid string" ::
        textViolations (index + 1) rest

def checkTexts (v : Value) : Except (List Violation) Value :=
  let check (items : List Value) : Except (List Violation) Value :=
    match textViolations 0 items with
    | [] => .ok (.list items)
    | violations => .error violations
  match v with
  | .list items => check items
  | .tuple items => check items
  | _ => .error [violation [] "list_type" "Input should be a valid list"]

/-- The kinds of values that options take. -/
def optionKinds : List String := ["string", "boolean", "integer", "number"]

def checkOptionKind (v : Value) : Except (List Violation) Value :=
  let wrong := Except.error
    [violation [] "enum" "Input should be 'string', 'boolean', 'integer' or 'number'"]
  match v with
  | .text s => if optionKinds.contains s then .ok v else wrong
  | _ => wrong

/-- Whether a text is a letter with letters, digits, low lines and dashes behind it. One line break
at the end is let through. -/
def isOptionName (cs : List Char) : Bool :=
  let body := if cs.getLast? = some '\n' then cs.dropLast else cs
  match body with
  | [] => false
  | c :: rest =>
    (Text.isAsciiLower c || Text.isAsciiUpper c) &&
      rest.all fun c => Text.isWord c || c = '_' || c = '-'

/-- A name of an option, from which leading dashes are removed. -/
def checkOptionName (v : Value) : Except (List Violation) Value := do
  match ← checkText v with
  | .text s =>
    let name := s.toList.dropWhile (· = '-')
    if isOptionName name then .ok (.text (String.ofList name))
    else .error [violation [] "value_error"
      ("Value error, invalid option name: " ++ String.ofList (Text.quotedChars name))]
  | v => .ok v

def checkTable (v : Value) : Except (List Violation) Value :=
  match v with
  | .map _ => .ok v
  | _ => .error [violation [] "dict_type" "Input should be a valid dictionary"]

/-- Applies a rule to a value. -/
def check (rule : FieldRule) (v : Value) : Except (List Violation) Value :=
  match rule with
  | text => checkText v
  | optionalText => if v.shape.isNull then .ok v else checkText v
  | texts => checkTexts v
  | flag => checkFlag v
  | optionalFlag => if v.shape.isNull then .ok v else checkFlag v
  | table => checkTable v
  | optionKind => checkOptionKind v
  | optionName => checkOptionName v
  | anything => .ok v

end FieldRule

namespace Field

/-- The value of a field by what is given, or its violations. -/
def read (field : Field) (given : List (Atom × Value)) : Except (List Violation) Value :=
  match Entries.field? given field.name with
  | some v =>
    match field.rule.check v with
    | .ok v => .ok v
    | .error violations =>
      .error (violations.map fun w => { w with location := .inl field.name :: w.location })
  | none =>
    match field.default with
    | some v => .ok v
    | none => .error [⟨[.inl field.name], "missing", "Field required"⟩]

/-- The values of all fields, or all violations. -/
def readAll (given : List (Atom × Value)) :
    List Field → Except (List Violation) (List (String × Value))
  | [] => .ok []
  | field :: rest =>
    match field.read given, readAll given rest with
    | .ok v, .ok others => .ok ((field.name, v) :: others)
    | .ok _, .error violations => .error violations
    | .error violations, .ok _ => .error violations
    | .error first, .error others => .error (first ++ others)

/-- The entries of what should be a record. -/
def recordEntries (model : String) (v : Value) : Except (List Violation) (List (Atom × Value)) :=
  match v with
  | .map entries => .ok entries
  | _ => .error [⟨[], "model_type",
      "Input should be a valid dictionary or instance of " ++ model⟩]

end Field

end ClientGen
