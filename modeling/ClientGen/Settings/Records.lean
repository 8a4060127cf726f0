import ClientGen.Settings.Rule

/-!
The settings records: the settings of a run, the defaults of a project, and the options that plugins
contribute.
-/

namespace ClientGen

/-- The settings of a run: the built-in ones in fixed order, then those of plugin options. -/
structure Settings where
  entries : List (String × Value)
  deriving Inhabited, Repr

namespace Settings

/-- The built-in settings. -/
def fields : List Field :=
  [⟨"spec", .text, none⟩, ⟨"output", .optionalText, some .null⟩,
   ⟨"base_url", .optionalText, some .null⟩, ⟨"include_tags", .texts, some (.list [])⟩,
   ⟨"exclude_tags", .texts, some (.list [])⟩, ⟨"include_deprecated", .flag, some (.bool true)⟩,
   ⟨"plugins", .texts, some (.list [])⟩]

/-- The names of the built-in settings. -/
def fieldNames : List String := fields.map (·.name)

/-- What else a record of settings can be asked for by name. -/
def memberNames : List String :=
  ["construct", "copy", "dict", "from_orm", "json", "model_computed_fields", "model_config",
   "model_construct", "model_copy", "model_dump", "model_dump_json", "model_extra", "model_fields",
   "model_fields_set", "model_json_schema", "model_parametrized_name", "model_post_init",
   "model_rebuild", "model_validate", "model_validate_json", "model_validate_strings", "parse_file",
   "parse_obj", "parse_raw", "plugin_values", "schema", "schema_json", "update_forward_refs",
   "validate"]

/-- The members that are computed from the record, and can therefore not be set. -/
def computedNames : List String := ["model_extra", "model_fields_set", "plugin_values"]

/-- The value of a setting. -/
def get? (s : Settings) (name : String) : Option Value :=
  (s.entries.find? fun entry => entry.1 = name).map (·.2)

/-- The value of a built-in setting; every record has them all. -/
def get (s : Settings) (name : String) : Value := (s.get? name).getD .null

/-- The settings with one changed or added. -/
def put (s : Settings) (name : String) (v : Value) : Settings :=
  if s.entries.any fun entry => entry.1 = name then
    ⟨s.entries.map fun entry => if entry.1 = name then (name, v) else entry⟩
  else ⟨s.entries ++ [(name, v)]⟩

/-- The settings that are not built in. -/
def pluginValues (s : Settings) : List (String × Value) :=
  s.entries.filter fun entry => !fieldNames.contains entry.1

def toValue (s : Settings) : Value := Value.ofFields s.entries

/-- The value of a member, for those that have one. -/
def member? (s : Settings) (name : String) : Option Value :=
  if name = "plugin_values" || name = "model_extra" then some (Value.ofFields s.pluginValues)
  else if name = "model_config" then some (Value.ofFields [("extra", .text "allow")])
  else if name = "model_computed_fields" then some (.map [])
  else none

/-- Reads the settings of a run. Entries that are not built in are kept in the order given. -/
def ofValue (v : Value) : Except (List Violation) Settings := do
  let given ← Field.recordEntries "GenerateOptions" v
  let known ← Field.readAll given fields
  let others := given.filterMap fun
    | (.text name, value) => if fieldNames.contains name then none else some (name, value)
    | _ => none
  return ⟨known ++ others⟩

end Settings

/-- The defaults of a project, each of them optional. -/
structure Project where
  entries : List (String × Value)
  deriving Inhabited, Repr

namespace Project

def fields : List Field :=
  [⟨"spec", .optionalText, some .null⟩, ⟨"output", .optionalText, some .null⟩,
   ⟨"base_url", .optionalText, some .null⟩, ⟨"include_tags", .texts, some (.list [])⟩,
   ⟨"exclude_tags", .texts, some (.list [])⟩, ⟨"include_deprecated", .optionalFlag, some .null⟩,
   ⟨"plugins", .texts, some (.list [])⟩, ⟨"plugin_options", .table, some (.map [])⟩]

def get (p : Project) (name : String) : Value :=
  ((p.entries.find? fun entry => entry.1 = name).map (·.2)).getD .null

def toValue (p : Project) : Value := Value.ofFields p.entries

/-- Reads the defaults of a project. Entries of other names are ignored. -/
def ofValue (v : Value) : Except (List Violation) Project := do
  let given ← Field.recordEntries "ProjectConfig" v
  return ⟨← Field.readAll given fields⟩

/-- The defaults of a project that states none. -/
def empty : Project := ⟨fields.map fun field => (field.name, field.default.getD .null)⟩

/-- The values for plugin options. -/
def pluginOptions (p : Project) : List (String × Value) :=
  match p.get "plugin_options" with
  | .map entries => entries.filterMap fun
    | (.text name, value) => some (name, value)
    | _ => none
  | _ => []

/-- The settings that a project states. -/
def stated (p : Project) : List (String × Value) :=
  p.entries.filter fun entry => entry.1 ≠ "plugin_options" && !entry.2.shape.isNull

/-- The texts of a list of texts. -/
def plugins (p : Project) : List String :=
  match p.get "plugins" with
  | .list items => items.filterMap fun
    | .text s => some s
    | _ => none
  | _ => []

end Project

/-- The kinds of values that options take. -/
inductive OptionKind where
  | string
  | boolean
  | integer
  | number
  deriving DecidableEq, Inhabited, Repr

namespace OptionKind

def label : OptionKind → String
  | string => "string"
  | boolean => "boolean"
  | integer => "integer"
  | number => "number"

def ofLabel (label : String) : OptionKind :=
  if label = "boolean" then boolean
  else if label = "integer" then integer
  else if label = "number" then number
  else string

end OptionKind

/-- An option that a plugin contributes. -/
structure OptionSpec where
  name : String
  kind : OptionKind
  default : Value
  help : String
  aliases : List String
  deriving Inhabited, Repr

namespace OptionSpec

def fields : List Field :=
  [⟨"name", .optionName, none⟩, ⟨"type", .optionKind, some (.text "string")⟩,
   ⟨"default", .anything, some .null⟩, ⟨"help", .text, some (.text "")⟩,
   ⟨"aliases", .texts, some (.list [])⟩]

private def textOf : Value → String
  | .text s => s
  | _ => ""

private def textsOf : Value → List String
  | .list items => items.map textOf
  | _ => []

/-- Reads an option. -/
def ofValue (v : Value) : Except (List Violation) OptionSpec := do
  let given ← Field.recordEntries "OptionSpec" v
  let known ← Field.readAll given fields
  let get (name : String) : Value := ((known.find? (·.1 = name)).map (·.2)).getD .null
  return ⟨textOf (get "name"), OptionKind.ofLabel (textOf (get "type")), get "default",
    textOf (get "help"), textsOf (get "aliases")⟩

def toValue (o : OptionSpec) : Value :=
  Value.ofFields [("name", .text o.name), ("type", .text o.kind.label), ("default", o.default),
    ("help", .text o.help), ("aliases", .list (o.aliases.map .text))]

/-- The name under which the value of an option is stored. -/
def destination (o : OptionSpec) : String :=
  String.ofList (o.name.toList.map fun c => if c = '-' then '_' else c)

/-- A name as a flag: one dash in front of a single character, two in front of more or none. -/
def flagOf (name : String) : String :=
  let bare := name.toList.dropWhile (· = '-')
  if bare.length = 1 then String.ofList ('-' :: bare) else String.ofList ('-' :: '-' :: bare)

/-- All flags of an option; that of its name comes first and is always a long one. -/
def flags (o : OptionSpec) : List String := ("--" ++ o.name) :: o.aliases.map flagOf

/-- The expression that builds an option, for descriptions of plugins. -/
def written (o : OptionSpec) : String :=
  "OptionSpec(name=" ++ Text.quoted o.name ++ ", type=<OptionType." ++
    String.ofList (o.kind.label.toList.flatMap Text.upper) ++ ": " ++ Text.quoted o.kind.label ++
    ">, default=" ++ o.default.written ++ ", help=" ++ Text.quoted o.help ++ ", aliases=" ++
    (Value.list (o.aliases.map .text)).written ++ ")"

end OptionSpec

end ClientGen
