import ClientGen.Proofs.Reading
import ClientGen.Proofs.Sameness
import ClientGen.Settings.Records
import Mathlib.Data.List.Nodup

/-!
Records of settings as mappings. What a record holds is looked up by name, whether it is given as entries or as a
value (`field?_ofFields`); setting one entry leaves all others as they are (`valueAt_put`). Reading a record of
settings succeeds exactly if every built-in field can hold what is given for it, and then each of them holds that
or its default, and everything else is kept (`reads_of_ofValue`, `exists_ofValue_iff`).
-/

namespace ClientGen

/-- The value that entries have under a name. -/
def valueAt {α : Type} (entries : List (String × α)) (name : String) : Option α :=
  (entries.find? fun entry => entry.1 = name).map (·.2)

section

variable {α β : Type} {entries : List (String × α)} {name : String}

@[simp] theorem valueAt_nil : valueAt ([] : List (String × α)) name = none := rfl

theorem valueAt_cons (entry : String × α) (rest : List (String × α)) :
    valueAt (entry :: rest) name = if entry.1 = name then some entry.2 else valueAt rest name := by
  by_cases same : entry.1 = name <;> simp [valueAt, same]

theorem valueAt_append (first second : List (String × α)) :
    valueAt (first ++ second) name = (valueAt first name).or (valueAt second name) := by
  rw [valueAt, List.find?_append, Option.map_or]
  rfl

theorem valueAt_eq_none : valueAt entries name = none ↔ name ∉ entries.map (·.1) := by
  simp only [valueAt, Option.map_eq_none_iff, List.find?_eq_none, List.mem_map, decide_eq_true_eq, not_exists, not_and]

/-- Entries that are kept or left out by their names. -/
theorem valueAt_filter (keep : String → Bool) :
    valueAt (entries.filter fun entry => keep entry.1) name = if keep name then valueAt entries name else none := by
  induction entries with
  | nil => simp
  | cons entry rest ih =>
    by_cases same : entry.1 = name
    · subst same
      by_cases kept : keep entry.1 = true
      · simp [kept, valueAt_cons]
      · simpa [kept] using ih
    · by_cases kept : keep entry.1 = true
      · simpa [kept, valueAt_cons, same] using ih
      · simpa [kept, valueAt_cons, same] using ih

/-- Where every name stands once, an entry is found under its name. -/
theorem valueAt_of_mem (nodup : (entries.map (·.1)).Nodup) {value : α} (member : (name, value) ∈ entries) :
    valueAt entries name = some value := by
  induction entries with
  | nil => cases member
  | cons entry rest ih =>
    obtain ⟨unrepeated, nodup⟩ := List.nodup_cons.mp nodup
    rw [valueAt_cons]
    rcases List.mem_cons.mp member with rfl | later
    · exact if_pos rfl
    · have apart : entry.1 ≠ name := fun same => unrepeated (List.mem_map.mpr ⟨_, later, same.symm⟩)
      rw [if_neg apart]
      exact ih nodup later

/-- Entries that are let through one by one, possibly with another value. -/
theorem valueAt_filterMap (nodup : (entries.map (·.1)).Nodup) (pass : String → α → Option β) :
    valueAt (entries.filterMap fun entry => (pass entry.1 entry.2).map (entry.1, ·)) name =
      (valueAt entries name).bind (pass name) := by
  induction entries with
  | nil => rfl
  | cons entry rest ih =>
    obtain ⟨unrepeated, nodup⟩ := List.nodup_cons.mp nodup
    have others := ih nodup
    rw [List.filterMap_cons, valueAt_cons]
    by_cases same : entry.1 = name
    · subst same
      have absent : valueAt rest entry.1 = none := valueAt_eq_none.mpr unrepeated
      cases passed : pass entry.1 entry.2 with
      | none => simpa [passed, absent] using others
      | some value => simp [passed, valueAt_cons]
    · cases passed : pass entry.1 entry.2 with
      | none => simpa [same] using others
      | some value => simpa [valueAt_cons, same] using others

theorem keys_filterMap (entries : List (String × α)) (pass : String → α → Option β) :
    ((entries.filterMap fun entry => (pass entry.1 entry.2).map (entry.1, ·)).map (·.1)).Sublist
      (entries.map (·.1)) := by
  induction entries with
  | nil => exact .slnil
  | cons entry rest ih => cases passed : pass entry.1 entry.2 <;> simp [passed, ih]

end

namespace Settings

theorem get?_eq_valueAt (settings : Settings) (name : String) :
    settings.get? name = valueAt settings.entries name := rfl

/-- Setting an entry that is there. -/
private theorem valueAt_set (entries : List (String × Value)) (key name : String) (v : Value) :
    valueAt (entries.map fun entry => if entry.1 = key then (key, v) else entry) name =
      (valueAt entries name).map fun old => if key = name then v else old := by
  induction entries with
  | nil => rfl
  | cons entry rest ih =>
    rw [List.map_cons, valueAt_cons, valueAt_cons, ih]
    by_cases isKey : entry.1 = key <;> by_cases isName : entry.1 = name
    · simp [← isKey, isName]
    · simp [← isKey, isName]
    · have differ : name ≠ key := fun same => isKey (isName.trans same)
      simp [isName, differ, Ne.symm differ]
    · simp [isKey, isName]

/-- Setting an entry leaves all others as they are. -/
theorem valueAt_put (settings : Settings) (key name : String) (v : Value) :
    valueAt (settings.put key v).entries name = if key = name then some v else valueAt settings.entries name := by
  unfold put
  split
  · rename_i present
    rw [valueAt_set]
    by_cases same : key = name
    · subst same
      have found : (valueAt settings.entries key).isSome = true := by
        rw [valueAt, Option.isSome_map, List.find?_isSome]
        simpa using present
      obtain ⟨old, isOld⟩ := Option.isSome_iff_exists.mp found
      simp [isOld]
    · simp [same]
  · rename_i absent
    rw [valueAt_append, valueAt_cons, valueAt_nil]
    by_cases same : key = name
    · have none : valueAt settings.entries name = none := by
        rw [valueAt_eq_none, ← same]
        simpa using absent
      simp [none, same]
    · simp [same]

end Settings

/-- Entries as a value are looked up by the same names. -/
@[simp] theorem Entries.field?_ofFields (entries : List (String × Value)) (name : String) :
    Entries.field? (entries.map fun entry => (Atom.text entry.1, entry.2)) name = valueAt entries name := by
  rw [Entries.field?, Entries.get?, List.find?_map, Option.map_map, valueAt]
  simp [Function.comp_def, Atom.same_text]

namespace Field

/-- What a field holds by what is stated for it: that, as far as its rule lets it through, or its default. -/
def Holds (field : Field) (stated : Option Value) (v : Value) : Prop :=
  match stated with
  | some given => field.rule.check given = .ok v
  | none => field.default = some v

variable {field : Field} {fields : List Field} {given : List (Atom × Value)} {known : List (String × Value)}

theorem Holds.unique {stated : Option Value} {v w : Value} (holds : field.Holds stated v)
    (other : field.Holds stated w) : v = w := by
  unfold Holds at holds other
  split at holds
  · exact Except.ok.inj (holds.symm.trans other)
  · exact Option.some.inj (holds.symm.trans other)

theorem read_eq_ok {v : Value} : field.read given = .ok v ↔ field.Holds (Entries.field? given field.name) v := by
  unfold read Holds
  cases Entries.field? given field.name with
  | some stated => cases checked : field.rule.check stated <;> simp [checked]
  | none => cases field.default <;> simp

/-- An entry is what is read for a field. -/
def IsReadFrom (given : List (Atom × Value)) (field : Field) (entry : String × Value) : Prop :=
  entry.1 = field.name ∧ field.read given = .ok entry.2

/-- All fields are read: one entry for each, in their order. -/
theorem readAll_eq_ok : readAll given fields = .ok known ↔ List.Forall₂ (IsReadFrom given) fields known := by
  induction fields generalizing known with
  | nil => cases known <;> simp [readAll]
  | cons field rest ih =>
    cases first : field.read given with
    | error violations =>
      cases others : readAll given rest <;> cases known <;> simp [readAll, first, others, IsReadFrom]
    | ok v =>
      cases others : readAll given rest with
      | error violations =>
        have none : ∀ known, ¬ List.Forall₂ (IsReadFrom given) rest known := fun known all => by
          have succeeds := ih.mpr all
          rw [others] at succeeds
          cases succeeds
        cases known <;> simp [readAll, first, others, none]
      | ok later =>
        have same : ∀ known, later = known ↔ List.Forall₂ (IsReadFrom given) rest known := fun known => by
          rw [← ih, others, Except.ok.injEq]
        cases known with
        | nil => simp [readAll, first, others]
        | cons entry known =>
          obtain ⟨name, w⟩ := entry
          simp only [readAll, first, others, Except.ok.injEq, List.cons.injEq, Prod.mk.injEq, List.forall₂_cons, same,
            IsReadFrom, eq_comm (a := field.name)]

/-- Not a single field can fail to be read without notice. -/
theorem exists_readAll_iff :
    (∃ known, readAll given fields = .ok known) ↔ ∀ field ∈ fields, ∃ v, field.read given = .ok v := by
  simp only [readAll_eq_ok]
  induction fields with
  | nil => simp
  | cons field rest ih =>
    rw [List.forall_mem_cons, ← ih]
    constructor
    · rintro ⟨_, all⟩
      cases all with
      | cons first others => exact ⟨⟨_, first.2⟩, ⟨_, others⟩⟩
    · rintro ⟨⟨v, first⟩, known, others⟩
      exact ⟨(field.name, v) :: known, .cons ⟨rfl, first⟩ others⟩

theorem names_of_readAll (done : readAll given fields = .ok known) : known.map (·.1) = fields.map (·.name) := by
  have all := readAll_eq_ok.mp done
  induction all with
  | nil => rfl
  | cons first _ ih => simp [first.1, ih (readAll_eq_ok.mpr ‹_›)]

/-- Where every field has a name of its own, its entry is what is read for it. -/
theorem read_of_readAll (done : readAll given fields = .ok known) (nodup : (fields.map (·.name)).Nodup)
    (member : field ∈ fields) : ∃ v, valueAt known field.name = some v ∧ field.read given = .ok v := by
  have names := names_of_readAll done
  obtain ⟨⟨name, v⟩, inKnown, rfl, read⟩ := mem_of_forall₂ (readAll_eq_ok.mp done) member
  exact ⟨v, valueAt_of_mem (names ▸ nodup) inKnown, read⟩

end Field

namespace Settings

variable {entries : List (String × Value)}

/-- What the built-in fields of a record of settings hold by what is stated for them. -/
def Reads (stated : String → Option Value) (settings : Settings) : Prop :=
  (∀ field ∈ fields, ∃ v, settings.get? field.name = some v ∧ field.Holds (stated field.name) v) ∧
    ∀ name ∉ fieldNames, settings.get? name = stated name

/-- Every built-in field can hold what is stated for it. -/
def Valid (stated : String → Option Value) : Prop :=
  ∀ field ∈ fields, ∃ v, field.Holds (stated field.name) v

theorem exists_ofValue_iff :
    (∃ settings, ofValue (Value.ofFields entries) = .ok settings) ↔ Valid (valueAt entries) := by
  have fieldwise : Valid (valueAt entries) ↔ ∃ known,
      Field.readAll (entries.map fun entry => (Atom.text entry.1, entry.2)) fields = .ok known := by
    simp only [Valid, Field.exists_readAll_iff, Field.read_eq_ok, Entries.field?_ofFields]
  rw [fieldwise]
  cases read : Field.readAll (entries.map fun entry => (Atom.text entry.1, entry.2)) fields with
  | error violations => simp [ofValue, Value.ofFields, Field.recordEntries, read, bind, Except.bind]
  | ok known => simp [ofValue, Value.ofFields, Field.recordEntries, read, bind, Except.bind, pure, Except.pure]

theorem reads_of_ofValue {settings : Settings} (done : ofValue (Value.ofFields entries) = .ok settings) :
    Reads (valueAt entries) settings := by
  cases read : Field.readAll (entries.map fun entry => (Atom.text entry.1, entry.2)) fields with
  | error violations => simp [ofValue, Value.ofFields, Field.recordEntries, read, bind, Except.bind] at done
  | ok known =>
    have names := Field.names_of_readAll read
    simp only [ofValue, Value.ofFields, Field.recordEntries, read, bind, Except.bind, pure, Except.pure,
      Except.ok.injEq] at done
    subst done
    constructor
    · intro field member
      obtain ⟨v, isValue, isRead⟩ := Field.read_of_readAll read (by decide) member
      rw [Field.read_eq_ok, Entries.field?_ofFields] at isRead
      exact ⟨v, by rw [get?_eq_valueAt, valueAt_append, isValue, Option.some_or], isRead⟩
    · intro name other
      have unknown : valueAt known name = none := by
        rw [valueAt_eq_none, names]
        exact other
      rw [get?_eq_valueAt, valueAt_append, unknown, Option.none_or]
      trans valueAt (entries.filter fun entry => !fieldNames.contains entry.1) name
      · rw [List.filterMap_map, ← List.filterMap_eq_filter]
        refine congrArg (fun pass => valueAt (entries.filterMap pass) name) (funext fun entry => ?_)
        by_cases builtIn : entry.1 ∈ fieldNames <;> simp [builtIn, Option.guard]
      · rw [valueAt_filter fun name => !fieldNames.contains name]
        simpa using fun isField => absurd isField other

end Settings

/-- A project that was read has all of its fields, each of them once. -/
theorem Project.names_of_ofValue {v : Value} {project : Project} (done : Project.ofValue v = .ok project) :
    project.entries.map (·.1) = Project.fields.map (·.name) := by
  unfold Project.ofValue at done
  cases given : Field.recordEntries "ProjectConfig" v with
  | error violations => simp [given, bind, Except.bind] at done
  | ok entries =>
    cases read : Field.readAll entries Project.fields with
    | error violations => simp [given, read, bind, Except.bind] at done
    | ok known =>
      simp only [given, read, bind, Except.bind, pure, Except.pure, Except.ok.injEq] at done
      rw [← done]
      exact Field.names_of_readAll read

end ClientGen
