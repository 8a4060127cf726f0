import ClientGen.Plugin.Script

/-!
Scripts of plugins as values: what a plugin is called, which options it contributes, and what its
callbacks do.
-/

namespace ClientGen.Script

/-- The value of a field; what is absent is null. -/
def fieldOf (v : Value) (name : String) : Value := (v.field? name).getD .null

/-- A text, or what stands in for one. -/
def textOr (v : Value) (default : String) : String :=
  match v with
  | .text s => s
  | _ => default

/-- The text of a field; what is no text is empty. -/
def textField (v : Value) (name : String) : String := textOr (fieldOf v name) ""

/-- The text of a field that may be absent. -/
def textField? (v : Value) (name : String) : Option String := (v.field? name).map (textOr · "")

/-- The items of a list. -/
def items : Value → List Value
  | .list xs => xs
  | .tuple xs => xs
  | _ => []

/-- The entries of a mapping with text keys. -/
def entries : Value → List (String × Value)
  | .map entries => entries.filterMap fun
    | (.text k, v) => some (k, v)
    | _ => none
  | _ => []

/-- The kinds of failure that scripts name. -/
def faultKinds : List (String × FaultKind) :=
  [("SpecgenError", .general), ("InvalidUsageError", .usage), ("SpecParseError", .specification),
   ("GenerationError", .generation), ("PluginError", .plugin), ("ConfigError", .config),
   ("TypeError", .wrongType), ("AttributeError", .noMember), ("KeyError", .noKey),
   ("IndexError", .outOfRange), ("ValueError", .badValue), ("UnicodeDecodeError", .badEncoding),
   ("OverflowError", .overflow),
   ("ImportError", .noImport), ("ModuleNotFoundError", .noModule),
   ("IsADirectoryError", .isDirectory), ("NotADirectoryError", .notDirectory),
   ("FileExistsError", .alreadyExists), ("FileNotFoundError", .noFile), ("OSError", .system),
   ("IOError", .system), ("EnvironmentError", .system), ("ValidationError", .validation)]

/-- The kinds of failure that are made of more than a text, with the complaint about what was given
instead. -/
def composedKinds : List (String × String) :=
  [("UnicodeDecodeError", "function takes exactly 5 arguments (1 given)"),
   ("UnicodeEncodeError", "function takes exactly 5 arguments (1 given)"),
   ("UnicodeTranslateError", "function takes exactly 4 arguments (1 given)"),
   ("ExceptionGroup", "BaseExceptionGroup.__new__() takes exactly 2 arguments (1 given)"),
   ("BaseExceptionGroup", "BaseExceptionGroup.__new__() takes exactly 2 arguments (1 given)")]

/-- The kind of failure with a name. -/
def faultKind (name : String) : FaultKind :=
  ((faultKinds.find? fun entry => entry.1 = name).map (·.2)).getD (.other name)

/-- The failure that a value describes. The text of a missing key is the key in written form. A failure
that cannot be made of a text is a failure to make it. -/
def failure (v : Value) : FaultKind × String :=
  let name := textField v "error"
  let text := textField v "message"
  match composedKinds.find? fun entry => entry.1 = name with
  | some (_, complaint) => (.wrongType, complaint)
  | none =>
    let kind := faultKind name
    (kind, if kind = .noKey then Text.quoted text else text)

private def key : Value → Atom
  | .atom a => a
  | _ => .null

private def path (v : Value) : List Atom := (items (fieldOf v "path")).map key

private def index : Value → Int
  | .int n => n
  | _ => 0

/-- The action that a value describes. -/
def action? (v : Value) : Option Action :=
  let name := textField v "in"
  match textField v "do" with
  | "log" => some (.record (textField? v "show"))
  | "set" => some (.set name (path v) (fieldOf v "value"))
  | "delete" => some (.delete name (path v))
  | "append" => some (.append name (path v) (fieldOf v "value"))
  | "raise" => let (kind, text) := failure v; some (.fail kind text)
  | "rename_function" =>
    let name := (textField? v "name").filter (!·.isEmpty)
    some (.renameFunction (textField v "prefix") name (textField v "suffix"))
  | "rename_name_node" => some (.renameType (textField v "from") (textField v "to"))
  | "add_default" => some (.addDefault (textField v "key") (fieldOf v "value"))
  | "add_server" => some (.addServer (textField v "key") (fieldOf v "value"))
  | "replace_servers" => some (.replaceServers (fieldOf v "value"))
  | "append_assign" => some (.appendAssign (textField v "name") (fieldOf v "value"))
  | "append_all" => some .appendAll
  | "pop_statement" => some (.popStatement (index (fieldOf v "index")))
  | "corrupt" => some .corrupt
  | _ => none

/-- The instruction that a value describes. -/
def instruction? (v : Value) : Option Instruction :=
  (action? v).map fun action =>
    ⟨(v.field? "if").map fun c => ⟨textField c "in", path c, c.field? "equals"⟩, action⟩

/-- The instructions for each slot. -/
def slots (hooks : Value) : List (Checkpoint × List Instruction) :=
  (entries hooks).filterMap fun (slot, h) =>
    (Checkpoint.ofSlot? slot).map fun c =>
      let instructions := (items (fieldOf h "actions")).filterMap instruction?
      (c, if (fieldOf h "async").truthy then
        instructions.map fun i => { i with action := i.action.awaited } else instructions)

/-- The validator that a value describes. -/
def readValidator (v : Value) : Settings → Run Bool :=
  let verdict :=
    match v.field? "raise", v.field? "attr" with
    | some r, _ => let (kind, text) := failure r; Verdict.fails kind text
    | none, some (.text name) => .equals name (fieldOf v "equals")
    | none, some name => .fails .wrongType
      ("attribute name must be string, not '" ++ name.kindName ++ "'")
    | none, none => .always (fieldOf v "return")
  validator (fieldOf v "log").truthy verdict

/-- The options of a plugin, if it has any. -/
def readOptions : Value → Except Fault (Option PluginOptions)
  | .map fields => do
    let v := Value.map fields
    let given ← match v.field? "args" with
      | some list => list.members?
      | none => .ok []
    let args ← given.mapM fun o =>
      match OptionSpec.ofValue o with
      | .ok spec => .ok spec
      | .error violations => .error (.invalid "OptionSpec" violations)
    return some ⟨args, (v.field? "description").getD (.text ""),
      (v.field? "validator").map readValidator⟩
  | _ => .ok none

/-- A plugin descriptor of a class. -/
def readPlugin (descriptor : PluginClass) (markEntry : Bool) (v : Value) : Except Fault Plugin := do
  let name := (v.field? "name").getD (.text "")
  let options ← readOptions (fieldOf v "options")
  return { descriptor, name, options, markEntry, callbacks := callbacks name (slots (fieldOf v "hooks")) }

/-- An object that only looks like a plugin. -/
def readLookalike (v : Value) : Except Fault Candidate := do
  let options ← readOptions (fieldOf v "options")
  let filled := (slots (fieldOf v "hooks")).map (·.1)
  return .lookalike (Plugin.lookalikeAttributes (v.field? "name") options filled)

/-- Lists that stand for tuples: the only entry of a mapping under a key of its own. -/
def withTuples : Nat → Value → Value
  | 0, v => v
  | depth + 1, v =>
    match v with
    | .list xs => .list (xs.map (withTuples depth))
    | .map [(.text "$tuple", .list xs)] => .tuple (xs.map (withTuples depth))
    | .map entries => .map (entries.map fun (k, v) => (k, withTuples depth v))
    | v => v

end ClientGen.Script
