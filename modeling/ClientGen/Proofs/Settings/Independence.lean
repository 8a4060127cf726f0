import ClientGen.Proofs.Settings.Precedence

/-!
What the table of the project for options of plugins can do to the built-in settings. The table is one more source
of settings and may hold any names, those of built-in settings included. Plugins that a manager has accepted do not
interfere (`strongest?_builtIn`), but the table itself does: what it says about a built-in setting counts as soon as
neither the command line nor the environment nor a field of the project says anything. Two tables therefore leave
the built-in settings of a run the same exactly if they agree about those that nothing else states
(`tables_unnoticed_iff`), and not always (`tables_noticed`).
-/

namespace ClientGen.Settings

namespace Sources

/-- Sources that differ at most in the table of the project. -/
structure SameButTable (s t : Sources) : Prop where
  commandLine : s.commandLine = t.commandLine
  environment : s.environment = t.environment
  project : ∀ name ≠ "plugin_options", valueAt s.project.entries name = valueAt t.project.entries name
  pluginDefaults : s.pluginDefaults = t.pluginDefaults
  pluginValues : s.pluginValues = t.pluginValues

/-- The sources have the defaults of the plugins that a manager has loaded, and values for their options only. -/
structure FromPlugins (s : Sources) (registry : Registry) (manager : Manager) : Prop where
  reached : Manager.Reachable registry manager
  pluginDefaults : s.pluginDefaults = manager.defaults registry
  pluginValues : ∀ entry ∈ s.pluginValues, ∃ option ∈ manager.specs registry, option.2.destination = entry.1

/-- What the command line, the environment or a field of the project say about a setting. -/
def statedOutside? (s : Sources) (name : String) : Option Value :=
  (s.says? name .commandLine).or ((s.says? name .environment).or (s.says? name .project))

/-- What the table of the project says about a setting. -/
def inTable? (s : Sources) (name : String) : Option Value := s.says? name .pluginOptions

end Sources

section

variable {s t : Sources} {registry : Registry} {manager : Manager}

/-- Accepted plugins say nothing about built-in settings. -/
theorem strongest?_builtIn (plugins : s.FromPlugins registry manager) {name : String} (builtIn : name ∈ fieldNames) :
    s.strongest? name = (s.statedOutside? name).or (s.inTable? name) := by
  have free : ∀ option ∈ manager.specs registry, option.2.destination ≠ name := by
    rintro option member rfl
    exact Manager.destination_free plugins.reached option member (List.mem_append_left _ builtIn)
  have given : valueAt s.pluginValues name = none := by
    rw [valueAt_eq_none]
    intro stated
    obtain ⟨entry, member, rfl⟩ := List.mem_map.mp stated
    obtain ⟨option, isOption, same⟩ := plugins.pluginValues entry member
    exact free option isOption same
  have declared : valueAt s.pluginDefaults name = none := by
    rw [plugins.pluginDefaults, Manager.valueAt_defaults, Option.map_eq_none_iff, List.find?_eq_none]
    intro option member
    simpa using free option (List.mem_reverse.mp member)
  rw [Sources.strongest?_eq]
  simp only [Sources.says?, given, declared, Sources.statedOutside?, Sources.inTable?, Option.none_or, Option.or_none,
    Option.or_assoc]

theorem Sources.SameButTable.statedOutside? (same : s.SameButTable t) {name : String} (builtIn : name ∈ fieldNames) :
    s.statedOutside? name = t.statedOutside? name := by
  have notTable : name ≠ "plugin_options" := by
    rintro rfl
    exact absurd builtIn (by decide)
  simp only [Sources.statedOutside?, Sources.says?, same.commandLine, same.environment, same.project name notTable]

theorem Sources.SameButTable.fromPlugins (same : s.SameButTable t) (plugins : s.FromPlugins registry manager) :
    t.FromPlugins registry manager :=
  ⟨plugins.reached, same.pluginDefaults ▸ plugins.pluginDefaults, same.pluginValues ▸ plugins.pluginValues⟩

/-- One built-in setting of two runs that both get settings. -/
theorem field_unnoticed_iff (plugins : s.FromPlugins registry manager) (same : s.SameButTable t) {mine yours : Settings}
    (reads : Reads s.strongest? mine) (reads' : Reads t.strongest? yours) {field : Field} (member : field ∈ fields) :
    mine.get? field.name = yours.get? field.name ↔
      (s.statedOutside? field.name = none →
        ∃ v, field.Holds (s.inTable? field.name) v ∧ field.Holds (t.inTable? field.name) v) := by
  have builtIn : field.name ∈ fieldNames := List.mem_map_of_mem member
  obtain ⟨v, isMine, holds⟩ := reads.1 field member
  obtain ⟨w, isYours, holds'⟩ := reads'.1 field member
  rw [strongest?_builtIn plugins builtIn] at holds
  rw [strongest?_builtIn (same.fromPlugins plugins) builtIn, ← same.statedOutside? builtIn] at holds'
  rw [isMine, isYours, Option.some.injEq]
  cases stated : s.statedOutside? field.name with
  | some given =>
    rw [stated, Option.some_or] at holds holds'
    exact iff_of_true (holds.unique holds') nofun
  | none =>
    rw [stated, Option.none_or] at holds holds'
    constructor
    · rintro rfl _
      exact ⟨v, holds, holds'⟩
    · intro agree
      obtain ⟨u, held, held'⟩ := agree rfl
      exact (holds.unique held).trans (held'.unique holds')

/-- Two tables leave the built-in settings of a run the same exactly if they come to the same for each of them that
nothing else states. Whether there is a source for the document is the same exactly if something else states it, or
if both tables have one or neither has. -/
theorem tables_unnoticed_iff (mapping : s.IsMapping) (mapping' : t.IsMapping) (same : s.SameButTable t)
    (plugins : s.FromPlugins registry manager) :
    (∀ mine yours, s.resolve = .ok mine → t.resolve = .ok yours →
      ((∀ name ∈ fieldNames, mine.get? name = yours.get? name) ↔
        ∀ field ∈ fields, s.statedOutside? field.name = none →
          ∃ v, field.Holds (s.inTable? field.name) v ∧ field.Holds (t.inTable? field.name) v)) ∧
      ((s.resolve = .error (.usage .noSpecification) ↔ t.resolve = .error (.usage .noSpecification)) ↔
        (s.statedOutside? "spec" = none →
          (s.inTable? "spec").any (·.truthy) = (t.inTable? "spec").any (·.truthy))) := by
  constructor
  · intro mine yours isMine isYours
    rw [fieldNames, List.forall_mem_map]
    exact forall₂_congr fun field member =>
      field_unnoticed_iff plugins same (reads_of_resolve mapping isMine) (reads_of_resolve mapping' isYours) member
  · have builtIn : "spec" ∈ fieldNames := by decide
    rw [resolve_eq_noSpecification mapping, resolve_eq_noSpecification mapping', not_iff_not, hasSpecification_iff,
      hasSpecification_iff, strongest?_builtIn plugins builtIn, strongest?_builtIn (same.fromPlugins plugins) builtIn,
      ← same.statedOutside? builtIn, ← Bool.eq_iff_iff]
    cases s.statedOutside? "spec" with
    | some given => exact iff_of_true rfl nofun
    | none => simp

end

/-- Sources with a command line, and with a project that states nothing but a table. -/
def tabled (commandLine : List (String × Value)) (table : List (Atom × Value)) : Sources where
  commandLine := commandLine
  project := ⟨[("spec", .null), ("output", .null), ("base_url", .null), ("include_tags", .list []),
    ("exclude_tags", .list []), ("include_deprecated", .null), ("plugins", .list []), ("plugin_options", .map table)]⟩

private theorem tabled_fromPlugins (commandLine : List (String × Value)) (table : List (Atom × Value)) :
    (tabled commandLine table).FromPlugins {} {} := ⟨.new {}, rfl, nofun⟩

private theorem tabled_sameButTable (commandLine : List (String × Value)) (table table' : List (Atom × Value)) :
    (tabled commandLine table).SameButTable (tabled commandLine table') where
  commandLine := rfl
  environment := rfl
  project name notTable := by simp [tabled, valueAt_cons, Ne.symm notTable]
  pluginDefaults := rfl
  pluginValues := rfl

/-- A table with an option of a plugin only goes unnoticed. -/
theorem tables_unnoticed_lineStyle :
    ∃ mine yours, (tabled [("spec", .text "api.yaml")] [(.text "line_style", .text "wavy")]).resolve = .ok mine ∧
      (tabled [("spec", .text "api.yaml")] []).resolve = .ok yours ∧
      ∀ name ∈ fieldNames, mine.get? name = yours.get? name := by
  have unnoticed := tables_unnoticed_iff (s := tabled [("spec", .text "api.yaml")] [(.text "line_style", .text "wavy")])
    (t := tabled [("spec", .text "api.yaml")] []) ⟨by decide, by decide, by decide, by decide, by decide⟩
    ⟨by decide, by decide, by decide, by decide, by decide⟩ (tabled_sameButTable _ _ _) (tabled_fromPlugins _ _)
  refine ⟨_, _, rfl, rfl, (unnoticed.1 _ _ rfl rfl).mpr ?_⟩
  intro field member unstated
  simp only [fields, List.mem_cons, List.not_mem_nil, or_false] at member
  rcases member with rfl | rfl | rfl | rfl | rfl | rfl | rfl
  · cases unstated
  all_goals exact ⟨_, rfl, rfl⟩

/-- A table can set a built-in setting, and it can be the only source for the document. -/
theorem tables_noticed :
    (¬ ∀ (s t : Sources) (registry : Registry) (manager : Manager), s.IsMapping → t.IsMapping → s.SameButTable t →
      s.FromPlugins registry manager → (∀ entry ∈ s.commandLine, entry.1 ∈ fieldNames) →
      ∀ mine yours, s.resolve = .ok mine → t.resolve = .ok yours →
        ∀ name ∈ fieldNames, mine.get? name = yours.get? name) ∧
      ¬ ∀ (s t : Sources) (registry : Registry) (manager : Manager), s.IsMapping → t.IsMapping → s.SameButTable t →
        s.FromPlugins registry manager → (∀ entry ∈ s.commandLine, entry.1 ∈ fieldNames) →
        (s.resolve = .error (.usage .noSpecification) ↔ t.resolve = .error (.usage .noSpecification)) := by
  constructor
  · intro always
    have same := always (tabled [("spec", .text "api.yaml")] [(.text "output", .text "api.py")])
      (tabled [("spec", .text "api.yaml")] []) {} {} ⟨by decide, by decide, by decide, by decide, by decide⟩
      ⟨by decide, by decide, by decide, by decide, by decide⟩ (tabled_sameButTable _ _ _) (tabled_fromPlugins _ _)
      (by decide) _ _ rfl rfl "output" (by decide)
    cases same
  · intro always
    have same := always (tabled [] [(.text "spec", .text "api.yaml")]) (tabled [] []) {} {}
      ⟨by decide, by decide, by decide, by decide, by decide⟩ ⟨by decide, by decide, by decide, by decide, by decide⟩
      (tabled_sameButTable _ _ _) (tabled_fromPlugins _ _) (by decide)
    cases same.mpr rfl

end ClientGen.Settings
