import ClientGen.Plugin.Checkpoint
import ClientGen.World

/-!
Plugins: a name, contributed options, and callbacks for some of the checkpoints.
-/

namespace ClientGen

/-- What a callback is called with. -/
structure Call where
  occasion : Occasion Node
  document : Node

/-- A callback may edit whatever it can reach, record events, and fail. What it returns is ignored. -/
abbrev Callback := Call → Run Unit

/-- The options that a plugin contributes. The validator says whether the plugin takes part in a run
with the given settings; without one it always does. -/
structure PluginOptions where
  args : List OptionSpec := []
  description : Value := .text ""
  validator : Option (Settings → Run Bool) := none

/-- Whether the settings are accepted. -/
def PluginOptions.accepts (o : PluginOptions) (settings : Settings) : Run Bool :=
  match o.validator with
  | none => pure true
  | some validator => validator settings

/-- Which class of descriptor a plugin is an instance of. -/
inductive PluginClass where
  | plain
  /-- A subclass with one more field. -/
  | annotated
  /-- A subclass that defines the authenticity mark as an attribute of its own. -/
  | shadowing
  deriving DecidableEq, Inhabited, Repr

def PluginClass.name : PluginClass → String
  | plain => "CodegenPlugin"
  | annotated => "Annotated"
  | shadowing => "Shadow"

/-- A plugin descriptor. -/
structure Plugin where
  descriptor : PluginClass := .plain
  name : Value := .text ""
  options : Option PluginOptions := none
  callbacks : List (Checkpoint × Callback) := []
  /-- Whether the descriptor carries an entry in the place of the authenticity mark. -/
  markEntry : Bool := false

namespace Plugin

/-- The callback for a checkpoint. -/
def callback? (p : Plugin) (c : Checkpoint) : Option Callback :=
  (p.callbacks.find? fun entry => entry.1 = c).map (·.2)

/-- The name as shown in running text. -/
def label (p : Plugin) : String := p.name.displayed

/-- The options contributed by a plugin. -/
def specs (p : Plugin) : List OptionSpec := (p.options.map (·.args)).getD []

/-- A name that can be registered: text that is not blank. -/
def hasName (p : Plugin) : Bool :=
  match p.name with
  | .text s => s.toList.any fun c => !Text.isBlank c
  | _ => false

/-- The names of the fields of a descriptor. -/
def fieldNames (p : Plugin) : List String :=
  ["name", "options"] ++ Checkpoint.all.map Checkpoint.slot ++
    (if p.descriptor = .annotated then ["author"] else [])

private def writtenOptions : Option PluginOptions → String
  | none => "None"
  | some o =>
    "PluginOptions(args=[" ++ Text.join ", " (o.args.map OptionSpec.written) ++ "], description=" ++
      o.description.written ++ ", validator=" ++
      (if o.validator.isSome then "<validator>" else "None") ++ ")"

/-- The description of a plugin with all of its fields. -/
def written (p : Plugin) : String :=
  let slots := Checkpoint.all.map fun c =>
    c.slot ++ "=" ++ if (p.callback? c).isSome then "<hook>" else "None"
  let parts := ["name=" ++ p.name.written, "options=" ++ writtenOptions p.options] ++ slots ++
    (if p.descriptor = .annotated then ["author=''"] else [])
  p.descriptor.name ++ "(" ++ Text.join ", " parts ++ ")"

/-- The words that describe the attributes of an object which only looks like a plugin. -/
def lookalikeAttributes (name : Option Value) (options : Option PluginOptions)
    (slots : List Checkpoint) : List (String × String) :=
  (name.map fun v => ("name", v.written)).toList ++
    (options.map fun o => ("options", writtenOptions (some o))).toList ++
    slots.map fun c => (c.slot, "<hook>")

end Plugin

/-- Anything that may be handed in as a plugin. -/
inductive Candidate where
  | plugin (p : Plugin)
  /-- An object with attributes, each with its written form, that only looks like a plugin. -/
  | lookalike (attributes : List (String × String))
  | value (v : Value)

namespace Candidate

def kindName : Candidate → String
  | plugin p => p.descriptor.name
  | lookalike _ => "SimpleNamespace"
  | value v => v.kindName

def written : Candidate → String
  | plugin p => p.written
  | lookalike attributes =>
    "namespace(" ++ Text.join ", " (attributes.map fun a => a.1 ++ "=" ++ a.2) ++ ")"
  | value v => v.written

end Candidate

end ClientGen
