import ClientGen.Proofs.Plugin.Destinations
import ClientGen.Settings.Sources

/-!
Which source of settings wins. Six sources are put over one another, and each has its own idea of what it does not
state: a null or an empty list on the command line, an unset or empty variable, a field of the project that is null.
For every name the merged settings hold what the first source says that says anything (`valueAt_merged`); whether a
run gets settings at all, and what they are, depends on nothing else (`precedence`).

Options of plugins meet the built-in settings in these sources, but not under one name: what an option is worth is
said on the command line, in the table of the project or by its declaration. Two options can meet under one name only
if a loaded plugin has no name (`nameless_default_lost`).
-/

namespace ClientGen.Settings

/-- The kinds of sources, the strongest first. -/
inductive Source where
  | pluginValues
  | commandLine
  | environment
  | project
  | pluginOptions
  | pluginDefaults
  deriving DecidableEq, Repr

def Source.all : List Source :=
  [.pluginValues, .commandLine, .environment, .project, .pluginOptions, .pluginDefaults]

/-- What a variable states; an empty one states nothing. -/
def textOf? (env : Environment) (source : String) : Option Value :=
  ((env.get? source).filter fun text => !text.isEmpty).map .text

/-- What a field of the project states: null states nothing, and the table is not a setting. -/
def fieldOfProject? (name : String) (v : Value) : Option Value :=
  if name = "plugin_options" || v.shape.isNull then none else some v

namespace Sources

/-- What a source says about a setting, if it says anything. -/
def says? (s : Sources) (name : String) : Source → Option Value
  | .pluginValues => valueAt s.pluginValues name
  | .commandLine => (valueAt s.commandLine name).bind given?
  | .environment => (valueAt stating name).bind (textOf? s.environment)
  | .project => (valueAt s.project.entries name).bind (fieldOfProject? name)
  | .pluginOptions => valueAt s.project.pluginOptions name
  | .pluginDefaults => valueAt s.pluginDefaults name

/-- What the first source says that says anything about a setting. -/
def strongest? (s : Sources) (name : String) : Option Value := Source.all.findSome? (s.says? name)

/-- The sources are mappings, which have every key once, and the project has its fields. -/
structure IsMapping (s : Sources) : Prop where
  commandLine : (s.commandLine.map (·.1)).Nodup
  project : s.project.entries.map (·.1) = Project.fields.map (·.name)
  pluginOptions : (s.project.pluginOptions.map (·.1)).Nodup
  pluginDefaults : (s.pluginDefaults.map (·.1)).Nodup
  pluginValues : (s.pluginValues.map (·.1)).Nodup

end Sources

/-! ### Putting settings over others -/

/-- The strongest source, one after the other. -/
theorem Sources.strongest?_eq (s : Sources) (name : String) : s.strongest? name =
    (s.says? name .pluginValues).or ((s.says? name .commandLine).or ((s.says? name .environment).or
      ((s.says? name .project).or ((s.says? name .pluginOptions).or (s.says? name .pluginDefaults))))) := by
  have findSome?_cons : ∀ (source : Source) (rest : List Source),
      (source :: rest).findSome? (s.says? name) = (s.says? name source).or (rest.findSome? (s.says? name)) := by
    intro source rest
    rw [List.findSome?_cons]
    cases s.says? name source <;> rfl
  simp only [Sources.strongest?, Source.all, findSome?_cons, List.findSome?_nil, Option.or_none]

theorem valueAt_overlaid (entries : List (String × Value)) {stronger : List (String × Value)}
    (nodup : (stronger.map (·.1)).Nodup) (name : String) :
    valueAt (overlaid entries stronger) name = (valueAt stronger name).or (valueAt entries name) := by
  induction stronger generalizing entries with
  | nil => rfl
  | cons entry rest ih =>
    obtain ⟨unrepeated, nodup⟩ := List.nodup_cons.mp nodup
    have first : overlaid entries (entry :: rest) =
        overlaid ((Settings.mk entries).put entry.1 entry.2).entries rest := rfl
    rw [first, ih _ nodup, valueAt_put, valueAt_cons]
    by_cases same : entry.1 = name
    · subst same
      simp [valueAt_eq_none.mpr unrepeated]
    · simp [same]

theorem ofEnvironment_eq (env : Environment) : ofEnvironment env =
    stating.filterMap fun entry => (textOf? env entry.2).map (entry.1, ·) := by
  refine congrArg (stating.filterMap ·) (funext fun entry => ?_)
  cases found : env.get? entry.2 with
  | none => simp [textOf?, found]
  | some text => by_cases isEmpty : text = "" <;> simp [textOf?, found, Option.filter, isEmpty]

theorem ofCommandLine_eq (values : List (String × Value)) : ofCommandLine values =
    values.filterMap fun entry => (given? entry.2).map (entry.1, ·) := rfl

theorem stated_eq (project : Project) : project.stated =
    project.entries.filterMap fun entry => (fieldOfProject? entry.1 entry.2).map (entry.1, ·) := by
  rw [Project.stated, ← List.filterMap_eq_filter]
  refine congrArg (List.filterMap · project.entries) (funext fun entry => ?_)
  by_cases isTable : entry.1 = "plugin_options" <;> cases isNull : entry.2.shape.isNull <;>
    simp [fieldOfProject?, Option.guard, isTable, isNull]

/-- For every name the merged settings hold what the first source says that says anything. -/
theorem valueAt_merged {s : Sources} (mapping : s.IsMapping) (name : String) :
    valueAt s.merged name = s.strongest? name := by
  have environment : ((ofEnvironment s.environment).map (·.1)).Nodup := by
    rw [ofEnvironment_eq]
    exact (by decide : (stating.map (·.1)).Nodup).sublist (keys_filterMap stating fun _ => textOf? s.environment)
  have commandLine : ((ofCommandLine s.commandLine).map (·.1)).Nodup :=
    mapping.commandLine.sublist (keys_filterMap s.commandLine fun _ => given?)
  have fields : (s.project.entries.map (·.1)).Nodup := by
    rw [mapping.project]
    decide
  have project : (s.project.stated.map (·.1)).Nodup := by
    rw [stated_eq]
    exact fields.sublist (keys_filterMap s.project.entries fieldOfProject?)
  have merged : valueAt s.merged name = (valueAt s.pluginValues name).or
      ((valueAt (ofCommandLine s.commandLine) name).or ((valueAt (ofEnvironment s.environment) name).or
        ((valueAt s.project.stated name).or
          ((valueAt s.project.pluginOptions name).or (valueAt s.pluginDefaults name))))) := by
    simp only [Sources.merged, List.foldl_cons, List.foldl_nil, valueAt_overlaid _ mapping.pluginValues,
      valueAt_overlaid _ commandLine, valueAt_overlaid _ environment, valueAt_overlaid _ project,
      valueAt_overlaid _ mapping.pluginOptions, valueAt_overlaid _ mapping.pluginDefaults, valueAt_nil, Option.or_none]
  rw [merged, Sources.strongest?_eq, ofEnvironment_eq, ofCommandLine_eq, stated_eq,
    valueAt_filterMap mapping.commandLine fun _ => given?, valueAt_filterMap (by decide) fun _ => textOf? s.environment,
    valueAt_filterMap fields fieldOfProject?]
  rfl

/-! ### What a run gets -/

/-- A source for the document is stated, and is not empty. -/
def Sources.HasSpecification (s : Sources) : Prop := ∃ v, s.strongest? "spec" = some v ∧ v.truthy = true

theorem hasSpecification_iff {s : Sources} : s.HasSpecification ↔ (s.strongest? "spec").any (·.truthy) = true :=
  (Option.any_eq_true ..).symm

/-- The settings of a run by the sources: without a source for the document there are none, and neither are there
if a built-in field cannot hold what the strongest source says about it. -/
theorem resolve_eq {s : Sources} (mapping : s.IsMapping) :
    (s.resolve = .error (.usage .noSpecification) ∧ ¬ s.HasSpecification) ∨
      ((∃ violations, s.resolve = .error (.config (.optionsInvalid violations))) ∧
        s.HasSpecification ∧ ¬ Valid s.strongest?) ∨
      ((∃ settings, s.resolve = .ok settings ∧ Reads s.strongest? settings) ∧
        s.HasSpecification ∧ Valid s.strongest?) := by
  have merged : valueAt s.merged = s.strongest? := funext (valueAt_merged mapping)
  have specification : ((Settings.mk s.merged).get "spec").truthy = true ↔ s.HasSpecification := by
    rw [Settings.get, get?_eq_valueAt, merged, Sources.HasSpecification]
    cases stated : s.strongest? "spec" with
    | none => simp [Value.truthy, Value.shape, Shape.truthy, Atom.truthy]
    | some v => simp
  by_cases hasSpecification : s.HasSpecification
  · right
    have isTrue := specification.mpr hasSpecification
    cases read : ofValue (Value.ofFields s.merged) with
    | error violations =>
      left
      refine ⟨⟨violations, by simp [Sources.resolve, isTrue, read]⟩, hasSpecification, ?_⟩
      rw [← merged, ← exists_ofValue_iff, read]
      simp
    | ok settings =>
      right
      refine ⟨⟨settings, by simp [Sources.resolve, isTrue, read], ?_⟩, hasSpecification, ?_⟩
      · rw [← merged]
        exact reads_of_ofValue read
      · rw [← merged, ← exists_ofValue_iff]
        exact ⟨settings, read⟩
  · left
    have isFalse := mt specification.mp hasSpecification
    exact ⟨by simp [Sources.resolve, Bool.eq_false_iff.mpr isFalse], hasSpecification⟩

/-- Without a source for the document a run gets no settings, and that is all there is to a complaint about it. -/
theorem resolve_eq_noSpecification {s : Sources} (mapping : s.IsMapping) :
    s.resolve = .error (.usage .noSpecification) ↔ ¬ s.HasSpecification := by
  rcases resolve_eq mapping with ⟨failed, missing⟩ | ⟨⟨_, failed⟩, has, -⟩ | ⟨⟨_, done, -⟩, has, -⟩ <;> simp [*]

theorem reads_of_resolve {s : Sources} (mapping : s.IsMapping) {settings : Settings} (done : s.resolve = .ok settings) :
    Reads s.strongest? settings := by
  rcases resolve_eq mapping with ⟨failed, -⟩ | ⟨⟨_, failed⟩, -⟩ | ⟨⟨later, isLater, reads⟩, -⟩
  · cases failed.symm.trans done
  · cases failed.symm.trans done
  · cases isLater.symm.trans done
    exact reads

/-- What the settings are asked for by name: a member of the record comes before a setting. -/
def attribute? (settings : Settings) (name : String) : Option Value :=
  if memberNames.contains name then settings.member? name else settings.get? name

end ClientGen.Settings
