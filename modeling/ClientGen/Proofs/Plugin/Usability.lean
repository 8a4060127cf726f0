import ClientGen.Proofs.Plugin.Arguments
import ClientGen.Proofs.Plugin.Destinations

/-!
Whether the options of accepted plugins can be used. Loading looks at the names, the destinations and the bare flags
of options; the command line is read by flags in full, in which a slash and an equals sign mean something and two
dashes end the flags, and it converts the declared defaults. Accepted options are therefore usable exactly if they
are plain (`usable_iff_plain`), and an accepted option need not be (`accepted_unusable`).
-/

namespace ClientGen.Manager

/-- A flag gives its option the value that stands behind it, or turns it on. -/
def Answers (registry : Registry) (manager : Manager) (o : OptionSpec) (flag : String) : Prop :=
  match o.kind with
  | .string => ∀ text, manager.readArguments registry [flag, text] = .ok [(o.destination, .text text)]
  | .boolean => manager.readArguments registry [flag] = .ok [(o.destination, .bool true)]
  | .integer => ∀ text n, Number.limitedWhole? text.toList = some n →
      manager.readArguments registry [flag, text] = .ok [(o.destination, .int n)]
  | .number => ∀ text x, Number.real? text.toList = some x →
      manager.readArguments registry [flag, text] = .ok [(o.destination, .float x)]

/-- The part of the command line that is left to plugins can be read, and all flags do what they are for. -/
structure Usable (registry : Registry) (manager : Manager) : Prop where
  nothing : manager.readArguments registry [] = .ok []
  answers : ∀ entry ∈ manager.specs registry, ∀ flag ∈ entry.2.flags, Answers registry manager entry.2 flag

/-- The options of loaded plugins have names that options may have. -/
def HasNamedOptions (registry : Registry) (manager : Manager) : Prop :=
  ∀ entry ∈ manager.specs registry, entry.2.IsNamed

variable {registry : Registry} {manager : Manager} {o : OptionSpec} {flag : String}

theorem answers_of_switch (isSwitch : o.kind = .boolean) : Answers registry manager o flag ↔
    manager.readArguments registry [flag] = .ok [(o.destination, .bool true)] := by
  unfold Answers
  rw [isSwitch]

theorem answers_of_valued (isValued : o.kind ≠ .boolean) : Answers registry manager o flag ↔
    ∀ text v, o.parameter.ofText text = .ok v →
      manager.readArguments registry [flag, text] = .ok [(o.destination, v)] := by
  unfold Answers Parameter.ofText OptionSpec.parameter
  dsimp only
  cases kind : o.kind with
  | string => simp
  | boolean => exact absurd kind isValued
  | integer =>
    refine forall_congr' fun text => ?_
    cases Number.limitedWhole? text.toList <;> simp
  | number =>
    refine forall_congr' fun text => ?_
    cases Number.real? text.toList <;> simp

/-! ### The parameters of all options -/

theorem parameters_eq_ok {parameters : List Parameter} : manager.parameters registry = .ok parameters ↔
    List.Forall₂ (fun entry p => Parameter.ofSpec entry.2 = .ok p) (manager.specs registry) parameters := by
  unfold Manager.parameters
  generalize manager.specs registry = specs
  induction specs generalizing parameters with
  | nil => cases parameters <;> simp [pure, Except.pure]
  | cons entry rest ih =>
    rw [List.mapM_cons, bind_eq_ok]
    constructor
    · rintro ⟨p, first, done⟩
      obtain ⟨others, later, isList⟩ := bind_eq_ok.mp done
      cases isList
      exact .cons first (ih.mp later)
    · intro all
      cases all with
      | cons first others => exact ⟨_, first, bind_eq_ok.mpr ⟨_, ih.mpr others, rfl⟩⟩

theorem readArguments_eq_ok {args : List String} {values : List (String × Value)} :
    manager.readArguments registry args = .ok values ↔
      ∃ parameters, manager.parameters registry = .ok parameters ∧
        ∃ line, Parameter.Reads parameters args line values := by
  rw [readArguments, bind_eq_ok]
  simp only [Parameter.read_eq_ok]

/-! ### Plain options are usable -/

/-- A flag belongs to one option. -/
theorem Owned.eq_of_flag (owned : Owned registry manager) {entry other : Value × OptionSpec}
    (member : entry ∈ manager.specs registry) (otherMember : other ∈ manager.specs registry)
    (isFlag : flag ∈ entry.2.flags) (isOther : flag ∈ other.2.flags) : other = entry := by
  have nodup : ((manager.specs registry).flatMap fun entry => keysOf entry.2).Nodup := by
    simpa [keyTable, List.map_flatMap, Function.comp_def] using owned.flags.nodup
  by_contra differ
  have symmetric : Std.Symm (Function.onFun List.Disjoint fun entry : Value × OptionSpec => keysOf entry.2) :=
    ⟨fun _ _ apart _ first second => apart second first⟩
  have apart := (List.nodup_flatMap.mp nodup).2.forall otherMember member differ
  exact apart (List.mem_map_of_mem isOther) (List.mem_map_of_mem isFlag)

/-- The parameters of plain options. -/
def parametersOf (manager : Manager) (registry : Registry) : List Parameter :=
  (manager.specs registry).map fun entry => entry.2.parameter

/-- The grammar of plain options. -/
def grammarOf (manager : Manager) (registry : Registry) : Grammar :=
  ⟨(manager.parametersOf registry).map (·.flag), false, true⟩

theorem mem_grammarOf {entry : String × Flag × Bool} : entry ∈ (manager.grammarOf registry).entries ↔
    ∃ option ∈ manager.specs registry, entry.1 ∈ option.2.flags ∧ entry.2 = (option.2.parameter.flag, true) := by
  obtain ⟨spelling, flag, on⟩ := entry
  rw [Grammar.mem_entries, grammarOf, parametersOf, List.map_map, List.mem_map]
  constructor
  · rintro ⟨⟨option, isOption, rfl⟩, ⟨rfl, isFlag⟩ | ⟨-, isNegative⟩⟩
    · exact ⟨option, isOption, isFlag, rfl⟩
    · cases isNegative
  · rintro ⟨option, isOption, isFlag, isEntry⟩
    cases isEntry
    exact ⟨⟨option, isOption, rfl⟩, .inl ⟨rfl, isFlag⟩⟩

/-- The options of loaded plugins are plain. -/
def AllPlain (registry : Registry) (manager : Manager) : Prop := ∀ entry ∈ manager.specs registry, entry.2.IsPlain

theorem parameters_of_plain (named : HasNamedOptions registry manager) (plain : AllPlain registry manager) :
    manager.parameters registry = .ok (manager.parametersOf registry) := by
  rw [parameters_eq_ok, parametersOf, List.forall₂_map_right_iff, List.forall₂_same]
  exact fun entry member => Parameter.ofSpec_of_plain (named entry member) (plain entry member)

theorem allLone_of_plain (named : HasNamedOptions registry manager) (plain : AllPlain registry manager) :
    (manager.grammarOf registry).AllLone := by
  intro entry member
  obtain ⟨option, isOption, isFlag, -⟩ := mem_grammarOf.mp member
  exact OptionSpec.isLone_of_mem_flags (named option isOption) isFlag ((plain option isOption).flags _ isFlag).1

theorem find?_of_owned (owned : Owned registry manager) {entry : Value × OptionSpec}
    (member : entry ∈ manager.specs registry) (isFlag : flag ∈ entry.2.flags) :
    (manager.grammarOf registry).find? (Flag.isShort flag) flag = some (entry.2.parameter.flag, true) := by
  refine Grammar.find?_of_unique (mem_grammarOf.mpr ⟨entry, member, isFlag, rfl⟩) fun other isEntry same => ?_
  obtain ⟨option, isOption, isOther, isFlagOf⟩ := mem_grammarOf.mp isEntry
  rw [isFlagOf, owned.eq_of_flag member isOption isFlag (same ▸ isOther)]

theorem parameter_of_owned (owned : Owned registry manager) {entry : Value × OptionSpec}
    (member : entry ∈ manager.specs registry) :
    (manager.parametersOf registry).find? (fun p => p.flag.destination = entry.2.destination) =
      some entry.2.parameter := by
  have some : ((manager.parametersOf registry).find? fun p => p.flag.destination = entry.2.destination).isSome = true :=
    List.find?_isSome.mpr ⟨_, List.mem_map_of_mem member, by simp [OptionSpec.parameter]⟩
  obtain ⟨p, found⟩ := Option.isSome_iff_exists.mp some
  obtain ⟨other, otherMember, rfl⟩ := List.mem_map.mp (List.mem_of_find?_eq_some found)
  have same : other.2.destination = entry.2.destination := by simpa [OptionSpec.parameter] using List.find?_some found
  rw [found, owned.eq_of_destination member otherMember same]

/-- A command line of one flag gives the option of the flag its value. -/
theorem readArguments_of_plain (owned : Owned registry manager) (named : HasNamedOptions registry manager)
    (plain : AllPlain registry manager) {entry : Value × OptionSpec} (member : entry ∈ manager.specs registry)
    {args : List String} {given : Given} {v : Value}
    (read : (manager.grammarOf registry).read args = .ok ⟨[⟨entry.2.destination, given⟩], []⟩)
    (converted : entry.2.parameter.ofGiven given = .ok v) :
    manager.readArguments registry args = .ok [(entry.2.destination, v)] := by
  rw [readArguments_eq_ok]
  refine ⟨_, parameters_of_plain named plain, _, Grammar.isUsable_of_allLone (allLone_of_plain named plain), read,
    ?_, ?_, ?_⟩
  · have destinations : CommandLine.destinations ⟨[⟨entry.2.destination, given⟩], []⟩ = [entry.2.destination] := rfl
    rw [destinations, Parameter.readGiven_single, parameter_of_owned owned member]
    simp only [converted, Except.map]
  · intro p isParameter _
    obtain ⟨option, isOption, rfl⟩ := List.mem_map.mp isParameter
    exact (plain option isOption).default
  · rfl

theorem usable_of_plain (owned : Owned registry manager) (named : HasNamedOptions registry manager)
    (plain : AllPlain registry manager) : Usable registry manager := by
  have lone := allLone_of_plain named plain
  constructor
  · rw [readArguments_eq_ok]
    refine ⟨_, parameters_of_plain named plain, {}, Grammar.isUsable_of_allLone lone, rfl, rfl, ?_, rfl⟩
    intro p isParameter _
    obtain ⟨option, isOption, rfl⟩ := List.mem_map.mp isParameter
    exact (plain option isOption).default
  · intro entry member flag isFlag
    obtain ⟨notEnd, -, uncut⟩ := (plain entry member).flags flag isFlag
    have isLone := OptionSpec.isLone_of_mem_flags (named entry member) isFlag notEnd
    have found := find?_of_owned owned member isFlag
    by_cases isSwitch : entry.2.kind = .boolean
    · rw [answers_of_switch isSwitch]
      exact readArguments_of_plain owned named plain member
        (Grammar.read_switch rfl lone isLone uncut found (by simp [OptionSpec.parameter, isSwitch])) rfl
    · rw [answers_of_valued isSwitch]
      intro text v converted
      exact readArguments_of_plain owned named plain member
        (Grammar.read_valued rfl lone isLone uncut found (by simp [OptionSpec.parameter, isSwitch]) text) converted

/-! ### Usable options are plain -/

/-- Every option has its parameter, and every parameter its option. -/
theorem isOf_of_parameters {parameters : List Parameter} (done : manager.parameters registry = .ok parameters) :
    (∀ entry ∈ manager.specs registry, ∃ p ∈ parameters, Parameter.IsOf entry.2 p) ∧
      ∀ p ∈ parameters, ∃ entry ∈ manager.specs registry, Parameter.IsOf entry.2 p := by
  have all := parameters_eq_ok.mp done
  constructor
  · intro entry member
    obtain ⟨p, isParameter, made⟩ := mem_of_forall₂ all member
    exact ⟨p, isParameter, Parameter.isOf_of_ofSpec made⟩
  · intro p member
    obtain ⟨entry, isOption, made⟩ := mem_of_forall₂ all.flip member
    exact ⟨entry, isOption, Parameter.isOf_of_ofSpec made⟩

/-- A spelling that gives a value or turns something on has no slash. -/
theorem slash_not_mem_of_entry {parameters : List Parameter} (done : manager.parameters registry = .ok parameters)
    {f : Flag} {on : Bool} (member : (flag, f, on) ∈ (Grammar.mk (parameters.map (·.flag)) false true).entries)
    (positive : on = true ∨ f.takesValue = true) : '/' ∉ flag.toList := by
  obtain ⟨isFlag, isSpelling⟩ := Grammar.mem_entries.mp member
  obtain ⟨p, isParameter, rfl⟩ := List.mem_map.mp isFlag
  obtain ⟨option, -, isOf⟩ := (isOf_of_parameters done).2 p isParameter
  rcases isSpelling with ⟨-, isSpelling⟩ | ⟨isOff, isNegative⟩
  · exact isOf.spellings flag isSpelling
  · have takesValue := positive.resolve_left (by simp [isOff])
    rw [isOf.negatives (isOf.takesValue.mp takesValue)] at isNegative
    cases isNegative

/-- Two dashes are no flag. -/
theorem not_answers_end : ¬ Answers registry manager o "--" := by
  intro answers
  by_cases isSwitch : o.kind = .boolean
  · rw [answers_of_switch isSwitch, readArguments_eq_ok] at answers
    obtain ⟨parameters, -, line, reads⟩ := answers
    obtain rfl := Except.ok.inj reads.read
    cases reads.given
  · obtain ⟨v, converted⟩ := Parameter.exists_ofText_zero o.parameter
    have read := (answers_of_valued isSwitch).mp answers "0" v converted
    obtain ⟨parameters, -, line, reads⟩ := readArguments_eq_ok.mp read
    obtain rfl := Except.ok.inj reads.read
    cases reads.nothingLeft

/-- A flag that does what it is for is not cut. -/
theorem uncut_of_answers (isLone : Flag.IsLone flag) (answers : Answers registry manager o flag) :
    '/' ∉ flag.toList ∧ Flag.IsUncut flag := by
  by_cases isSwitch : o.kind = .boolean
  · rw [answers_of_switch isSwitch, readArguments_eq_ok] at answers
    obtain ⟨parameters, isParameters, line, reads⟩ := answers
    have given := reads.given
    rcases Grammar.read_single_ok rfl isLone reads.read with ⟨destination, text, rfl⟩ | ⟨uncut, f, on, member, rfl⟩
    · -- a value is never a truth value
      have single : CommandLine.destinations ⟨[⟨destination, .value text⟩], []⟩ = [destination] := rfl
      rw [single] at given
      obtain ⟨p, converted⟩ := Parameter.ofGiven_of_readGiven given
      exact absurd converted (Parameter.ofText_ne_bool p text true)
    · have single : CommandLine.destinations ⟨[⟨f.destination, .switch on⟩], []⟩ = [f.destination] := rfl
      rw [single] at given
      obtain ⟨p, converted⟩ := Parameter.ofGiven_of_readGiven given
      have isOn : on = true := by simpa [Parameter.ofGiven] using converted
      exact ⟨slash_not_mem_of_entry isParameters member (.inl isOn), uncut⟩
  · obtain ⟨v, converted⟩ := Parameter.exists_ofText_zero o.parameter
    have read := (answers_of_valued isSwitch).mp answers "0" v converted
    obtain ⟨parameters, isParameters, line, reads⟩ := readArguments_eq_ok.mp read
    obtain ⟨uncut, f, on, member, takesValue⟩ := Grammar.read_pair_ok rfl rfl isLone reads.read reads.nothingLeft
    exact ⟨slash_not_mem_of_entry isParameters member (.inr takesValue), uncut⟩

theorem plain_of_usable (named : HasNamedOptions registry manager) (usable : Usable registry manager) :
    AllPlain registry manager := by
  intro entry member
  obtain ⟨parameters, isParameters, line, reads⟩ := readArguments_eq_ok.mp usable.nothing
  obtain rfl := Except.ok.inj reads.read
  obtain ⟨p, isParameter, isOf⟩ := (isOf_of_parameters isParameters).1 entry member
  constructor
  · exact Parameter.unbroken_of_isName isOf.isName
  · intro flag isFlag
    have answers := usable.answers entry member flag isFlag
    have notEnd : flag ≠ "--" := by
      rintro rfl
      exact not_answers_end answers
    exact ⟨notEnd, uncut_of_answers (OptionSpec.isLone_of_mem_flags (named entry member) isFlag notEnd) answers⟩
  · exact Parameter.checkDefault_congr isOf.kind isOf.default (reads.defaults p isParameter List.not_mem_nil)

/-- Where no nameless plugin is loaded, the options of accepted plugins are usable exactly if all of them are plain:
then nothing stands in the way of reading, every flag of an option that takes a value gives it that value and nothing
else, and every flag of a switch turns it on. -/
theorem usable_iff_plain (reached : Reachable registry manager) (named : ∀ l ∈ manager.loaded, l.name ≠ .null)
    (namedOptions : HasNamedOptions registry manager) : Usable registry manager ↔ AllPlain registry manager :=
  ⟨plain_of_usable namedOptions, usable_of_plain (owned_of_reachable reached named) namedOptions⟩

/-- Two plugins with plain options: a text under three flags, and a number with a switch. -/
def plainOptions : Registry where
  objects := [
    (0, .plugin { name := .text "a", options := some { args := [
      { name := "line-style", kind := .string, default := .null, help := "", aliases := ["l", "--style"] }] } }),
    (1, .plugin { name := .text "b", options := some { args := [
      { name := "depth", kind := .integer, default := .text "3", help := "", aliases := ["="] },
      { name := "strict", kind := .boolean, default := .null, help := "", aliases := ["s"] }] } })]
  marks := [(0, true), (1, true)]

/-- The manager that has loaded them. -/
def plainOptionsLoaded : Manager := ((loadAll plainOptions [0, 1]).on {} {}).1.2

private theorem plainOptionsLoaded_specs : plainOptionsLoaded.specs plainOptions = [
    (.text "a", ⟨"line-style", .string, .null, "", ["l", "--style"]⟩),
    (.text "b", ⟨"depth", .integer, .text "3", "", ["="]⟩),
    (.text "b", ⟨"strict", .boolean, .null, "", ["s"]⟩)] := rfl

/-- All flags of plain options can be used. -/
theorem usable_plainOptions : Usable plainOptions plainOptionsLoaded := by
  have reached : Reachable plainOptions plainOptionsLoaded := .loadAll [0, 1] {} (.new _)
  have loaded : plainOptionsLoaded.loaded = [⟨.text "a", 0⟩, ⟨.text "b", 1⟩] := rfl
  refine (usable_iff_plain reached (by simp [loaded]) ?_).mpr ?_
  · rw [HasNamedOptions, plainOptionsLoaded_specs]
    simp only [List.forall_mem_cons, List.not_mem_nil, false_implies, implies_true, and_true]
    exact ⟨rfl, rfl, rfl⟩
  · rw [AllPlain, plainOptionsLoaded_specs]
    simp only [List.forall_mem_cons, List.not_mem_nil, false_implies, implies_true, and_true]
    exact ⟨⟨by decide, by decide, rfl⟩, ⟨by decide, by decide, rfl⟩, ⟨by decide, by decide, rfl⟩⟩

/-- A plugin with one option. -/
def lonelyOption (o : OptionSpec) : Registry where
  objects := [(0, .plugin { name := .text "a", options := some { args := [o] } })]
  marks := [(0, true)]

/-- The manager that has been handed it. -/
def lonelyLoaded (o : OptionSpec) : Manager := ((load (lonelyOption o) 0).on {} {}).1.2

/-- Options with one trouble each: an alias with a slash, one with an equals sign, one of dashes only, a line break
behind the name, and a default that is no number. -/
def troubledOptions : List OptionSpec :=
  [⟨"custom", .string, .null, "", ["x/y"]⟩, ⟨"custom", .string, .null, "", ["x=y"]⟩,
   ⟨"custom", .boolean, .null, "", ["-"]⟩, ⟨"custom\n", .boolean, .null, "", []⟩,
   ⟨"custom", .integer, .text "abc", "", []⟩]

private theorem troubledOptions_not_plain : ∀ o ∈ troubledOptions, ¬ o.IsPlain := by
  simp only [troubledOptions, List.forall_mem_cons, List.not_mem_nil, false_implies, implies_true, and_true]
  refine ⟨fun plain => ?_, fun plain => ?_, fun plain => ?_, fun plain => ?_, fun plain => ?_⟩
  · exact absurd (plain.flags "--x/y" (by decide)).2.1 (by decide)
  · exact absurd (plain.flags "--x=y" (by decide)).2.2 (by decide)
  · exact (plain.flags "--" (by decide)).1 rfl
  · exact plain.name rfl
  · cases plain.default

private theorem troubledOptions_accepted : ∀ o ∈ troubledOptions, o.IsNamed ∧
    ((load (lonelyOption o) 0).on {} {}).1.1 = .ok () ∧ (lonelyLoaded o).loaded = [⟨.text "a", 0⟩] ∧
      (lonelyLoaded o).specs (lonelyOption o) = [(.text "a", o)] := by
  simp only [troubledOptions, List.forall_mem_cons, List.not_mem_nil, false_implies, implies_true, and_true]
  exact ⟨⟨rfl, rfl, rfl, rfl⟩, ⟨rfl, rfl, rfl, rfl⟩, ⟨rfl, rfl, rfl, rfl⟩, ⟨rfl, rfl, rfl, rfl⟩, ⟨rfl, rfl, rfl, rfl⟩⟩

/-- An accepted option need not be usable. -/
theorem accepted_unusable :
    (¬ ∀ (registry : Registry) (manager : Manager), Reachable registry manager →
      (∀ l ∈ manager.loaded, l.name ≠ .null) → HasNamedOptions registry manager → Usable registry manager) ∧
      ∀ o ∈ troubledOptions, o.IsNamed ∧ ((load (lonelyOption o) 0).on {} {}).1.1 = .ok () ∧
        ¬ Usable (lonelyOption o) (lonelyLoaded o) := by
  have namedOptions : ∀ o ∈ troubledOptions, HasNamedOptions (lonelyOption o) (lonelyLoaded o) := by
    intro o troubled
    obtain ⟨named, -, -, specs⟩ := troubledOptions_accepted o troubled
    simpa [HasNamedOptions, specs] using named
  have unusable : ∀ o ∈ troubledOptions, ¬ Usable (lonelyOption o) (lonelyLoaded o) := by
    intro o troubled usable
    obtain ⟨-, -, -, specs⟩ := troubledOptions_accepted o troubled
    have plain := plain_of_usable (namedOptions o troubled) usable
    rw [AllPlain, specs] at plain
    exact troubledOptions_not_plain o troubled (plain (.text "a", o) List.mem_cons_self)
  constructor
  · intro always
    have troubled : ⟨"custom", .string, .null, "", ["x/y"]⟩ ∈ troubledOptions := List.mem_cons_self
    obtain ⟨-, -, loaded, -⟩ := troubledOptions_accepted _ troubled
    have reached : Reachable (lonelyOption ⟨"custom", .string, .null, "", ["x/y"]⟩) (lonelyLoaded _) :=
      .load 0 {} (.new _)
    exact unusable _ troubled (always _ _ reached (by simp [loaded]) (namedOptions _ troubled))
  · intro o troubled
    obtain ⟨named, accepted, -⟩ := troubledOptions_accepted o troubled
    exact ⟨named, accepted, unusable o troubled⟩

end ClientGen.Manager
