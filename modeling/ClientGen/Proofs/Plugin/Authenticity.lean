import ClientGen.Plugin.Registry
import ClientGen.Proofs.Naming
import Mathlib.Data.List.Induction

/-!
Authenticity. Objects are made, copied, renamed and written to, registered and dropped, and identities are used
again; in every such history an object is genuine exactly if it was itself registered and had a valid name when that
happened for the first time (`genuine_iff_registered`). The mark stands beside the objects under their identities, so
two facts carry this: an identity that is not in use has no mark, and the mark of a plugin is that of the first
registration since the plugin was made.
-/

namespace ClientGen

/-- Whether an object is a plugin by its class. -/
def Candidate.isPlugin : Candidate → Bool
  | plugin _ => true
  | _ => false

namespace Registry

/-- The ways to write to an object. -/
inductive Writing where
  | name (v : Value)
  /-- Into the place of the mark among the entries of the object. -/
  | entry
  | mark
  | unmark

/-- What a way of writing makes of an object. -/
def Writing.rule : Writing → Candidate → Except Fault Candidate
  | name v => rename v
  | entry => withEntry
  | mark => assignMark
  | unmark => deleteMark

/-- A step of a history. -/
inductive Action where
  | construct (id : Nat) (c : Candidate)
  | duplicate (id : Nat) (mode : CopyMode) (source : Nat)
  | write (id : Nat) (writing : Writing)
  | define (id : Nat)
  /-- An object that is no plugin, but says that it is one, is registered. -/
  | pretend (id : Nat) (named : Bool)
  | release (id : Nat)

/-- A new object under an identity, unless the identity is in use. -/
def place (r : Registry) (id : Nat) (c : Candidate) : Registry :=
  if (r.object? id).isSome then r else { r with objects := r.objects ++ [(id, c)] }

/-- The registry after a step. A step that fails changes nothing. -/
def after (r : Registry) : Action → Registry
  | .construct id c => r.place id c
  | .duplicate id mode source =>
    match (r.object? source).map (copy mode) with
    | some (.ok c) => r.place id c
    | _ => r
  | .write id writing =>
    match (r.object? id).map writing.rule with
    | some (.ok c) => r.edit id c
    | _ => r
  | .define id =>
    match r.define id with
    | .ok (later, _) => later
    | .error _ => r
  | .pretend id named => if ((r.object? id).map Candidate.isPlugin) = some false then r.stamp id named else r
  | .release id => r.release id

variable {r : Registry} {id other : Nat} {c : Candidate}

/-! ### Objects and marks -/

theorem plugin?_eq_some {p : Plugin} : r.plugin? id = some p ↔ r.object? id = some (.plugin p) := by
  unfold plugin?
  split
  · rename_i q found
    rw [found, Option.some.injEq, Option.some.injEq, Candidate.plugin.injEq]
  · rename_i noPlugin
    exact ⟨nofun, fun found => absurd found (noPlugin p)⟩

theorem object?_place_of_ne (differ : other ≠ id) : (r.place id c).object? other = r.object? other := by
  unfold place
  split
  · rfl
  · have absent : (id, c).1 ≠ other := differ.symm
    simp [object?, List.find?_append, absent]

/-- A new object takes no identity away. -/
theorem object?_place_kept {d : Candidate} (found : r.object? id = some c) : (r.place other d).object? id = some c := by
  by_cases same : id = other
  · subst same
    rw [place, found, Option.isSome_some, if_pos rfl, found]
  · rw [object?_place_of_ne same, found]

theorem mark?_place : (r.place id c).mark? other = r.mark? other := by
  unfold place
  split <;> rfl

theorem object?_edit_self (inUse : (r.object? id).isSome = true) : (r.edit id c).object? id = some c := by
  obtain ⟨old, found⟩ := Option.isSome_iff_exists.mp inUse
  obtain ⟨entry, found, -⟩ := Option.map_eq_some_iff.mp found
  have isEntry : entry.1 = id := by simpa using List.find?_some found
  have same : ((fun entry => decide (entry.1 = id)) ∘ fun entry : Nat × Candidate =>
      if entry.1 = id then (id, c) else entry) = fun entry => decide (entry.1 = id) := by
    funext entry
    by_cases here : entry.1 = id <;> simp [here]
  rw [object?, edit, List.find?_map, same, found, Option.map_some, if_pos isEntry]
  rfl

theorem object?_edit_of_ne (differ : other ≠ id) : (r.edit id c).object? other = r.object? other := by
  have same : ((fun entry => decide (entry.1 = other)) ∘ fun entry : Nat × Candidate =>
      if entry.1 = id then (id, c) else entry) = fun entry => decide (entry.1 = other) := by
    funext entry
    by_cases here : entry.1 = id
    · simp [here]
    · simp [here]
  rw [object?, edit, List.find?_map, same, object?]
  cases found : r.objects.find? fun entry => entry.1 = other with
  | none => rfl
  | some entry =>
    have isOther : entry.1 = other := by simpa using List.find?_some found
    rw [Option.map_some, if_neg (isOther ▸ differ)]

theorem object?_stamp (named : Bool) : (r.stamp id named).object? other = r.object? other := by
  unfold stamp
  split <;> rfl

theorem mark?_stamp_of_ne (differ : other ≠ id) (named : Bool) : (r.stamp id named).mark? other = r.mark? other := by
  unfold stamp
  split
  · rfl
  · have absent : (id, named).1 ≠ other := differ.symm
    simp [mark?, absent]

theorem mark?_stamp_self (named : Bool) : (r.stamp id named).mark? id = some ((r.mark? id).getD named) := by
  unfold stamp
  split
  · rename_i marked
    obtain ⟨b, marked⟩ := Option.isSome_iff_exists.mp marked
    rw [marked]
    rfl
  · rename_i unmarked
    rw [Bool.not_eq_true, Option.isSome_eq_false_iff, Option.isNone_iff_eq_none] at unmarked
    rw [unmarked]
    simp [mark?]

private theorem find?_without {α : Type} (entries : List (Nat × α)) :
    (entries.filter fun entry => entry.1 ≠ id).find? (fun entry => entry.1 = id) = none := by
  rw [List.find?_eq_none]
  intro entry member
  simpa using (List.mem_filter.mp member).2

private theorem find?_without_other {α : Type} (differ : other ≠ id) (entries : List (Nat × α)) :
    (entries.filter fun entry => entry.1 ≠ id).find? (fun entry => entry.1 = other) =
      entries.find? fun entry => entry.1 = other := by
  rw [List.find?_filter]
  congr 1
  funext entry
  by_cases here : entry.1 = other <;> simp [here, differ]

theorem object?_release_self : (r.release id).object? id = none := by
  rw [object?, release, find?_without, Option.map_none]

theorem mark?_release_self : (r.release id).mark? id = none := by
  rw [mark?, release, find?_without, Option.map_none]

theorem object?_release_of_ne (differ : other ≠ id) : (r.release id).object? other = r.object? other := by
  rw [object?, release, find?_without_other differ, object?]

theorem mark?_release_of_ne (differ : other ≠ id) : (r.release id).mark? other = r.mark? other := by
  rw [mark?, release, find?_without_other differ, mark?]

/-- A search for an identity fails only if every identity that it tries is in use. -/
theorem freeFrom_unused (fuel first : Nat) :
    r.object? (r.freeFrom fuel first) = none ∨ ∀ i < fuel + 1, (r.object? (first + i)).isSome = true := by
  induction fuel generalizing first with
  | zero =>
    rw [freeFrom]
    cases found : r.object? first with
    | none => exact .inl rfl
    | some c =>
      refine .inr fun i bound => ?_
      rw [Nat.lt_one_iff.mp bound, Nat.add_zero, found]
      rfl
  | succ fuel ih =>
    rw [freeFrom]
    split
    · rename_i inUse
      rcases ih (first + 1) with unused | all
      · exact .inl unused
      · refine .inr fun i bound => ?_
        cases i with
        | zero => exact inUse
        | succ i =>
          have later := all i (by omega)
          rwa [Nat.add_right_comm, Nat.add_assoc] at later
    · rename_i unused
      exact .inl (by simpa using unused)

/-- A new object takes an identity that is not in use: there are more to try than there are objects. -/
theorem create_eq (r : Registry) (c : Candidate) :
    r.object? (r.create c).1 = none ∧ (r.create c).2 = r.place (r.create c).1 c := by
  have unused : r.object? (r.create c).1 = none := by
    rcases r.freeFrom_unused r.objects.length 0 with unused | all
    · exact unused
    · have within : ∀ i < r.objects.length + 1, i ∈ r.objects.map (·.1) := by
        intro i bound
        obtain ⟨d, found⟩ := Option.isSome_iff_exists.mp (all i bound)
        rw [Nat.zero_add] at found
        obtain ⟨entry, found, -⟩ := Option.map_eq_some_iff.mp found
        have isEntry : entry.1 = i := by simpa using List.find?_some found
        exact List.mem_map.mpr ⟨entry, List.mem_of_find?_eq_some found, isEntry⟩
      have tooMany := Operation.le_length_of_injective (fun i j => id) within
      rw [List.length_map] at tooMany
      omega
  refine ⟨unused, ?_⟩
  rw [place, unused]
  rfl

/-- Writing to an object does not make it one of another class. -/
theorem isPlugin_of_rule {writing : Writing} {written : Candidate} (done : writing.rule c = .ok written) :
    written.isPlugin = c.isPlugin := by
  cases c with
  | value v => cases writing <;> cases done
  | lookalike attributes =>
    cases writing with
    | name v =>
      simp only [Writing.rule, rename] at done
      split at done <;> cases done <;> rfl
    | entry | mark =>
      cases done
      rfl
    | unmark =>
      simp only [Writing.rule, deleteMark] at done
      split at done <;> cases done
      rfl
  | plugin p =>
    cases writing with
    | name v | entry =>
      cases done
      rfl
    | mark =>
      simp only [Writing.rule, assignMark] at done
      split at done <;> cases done
      rfl
    | unmark =>
      simp only [Writing.rule, deleteMark] at done
      split at done
      · split at done <;> cases done
        rfl
      · cases done

/-! ### Steps -/

theorem after_define {p : Plugin} (found : r.plugin? id = some p) : r.after (.define id) = r.stamp id p.hasName := by
  simp only [after, define, plugin?_eq_some.mp found]

theorem after_define_of_not_plugin (none : r.plugin? id = none) : r.after (.define id) = r := by
  rw [after, define]
  split
  · rename_i defined
    split at defined
    · rename_i p found
      rw [plugin?_eq_some.mpr found] at none
      cases none
    · cases defined
    · cases defined
  · rfl

/-- An object outlives every step but its release, and stays of its class. -/
theorem object?_after {a : Action} (kept : a ≠ .release id) (found : r.object? id = some c) :
    ∃ later, (r.after a).object? id = some later ∧ later.isPlugin = c.isPlugin := by
  cases a with
  | construct other d => exact ⟨c, object?_place_kept found, rfl⟩
  | duplicate other mode source =>
    rw [after]
    split
    · exact ⟨c, object?_place_kept found, rfl⟩
    · exact ⟨c, found, rfl⟩
  | write other writing =>
    rw [after]
    split
    · rename_i written done
      by_cases same : id = other
      · subst same
        rw [found, Option.map_some, Option.some.injEq] at done
        exact ⟨written, object?_edit_self (by rw [found]; rfl), isPlugin_of_rule done⟩
      · exact ⟨c, by rw [object?_edit_of_ne same, found], rfl⟩
    · exact ⟨c, found, rfl⟩
  | define other =>
    cases isPlugin : r.plugin? other with
    | none => exact ⟨c, by rw [after_define_of_not_plugin isPlugin, found], rfl⟩
    | some p => exact ⟨c, by rw [after_define isPlugin, object?_stamp, found], rfl⟩
  | pretend other named =>
    rw [after]
    split
    · exact ⟨c, by rw [object?_stamp, found], rfl⟩
    · exact ⟨c, found, rfl⟩
  | release other =>
    have differ : id ≠ other := fun same => kept (by rw [same])
    exact ⟨c, by rw [after, object?_release_of_ne differ, found], rfl⟩

/-- Only registration marks an object that is in use, unless the object is no plugin. -/
theorem mark?_after {a : Action} (kept : a ≠ .release id) (undefined : a = .define id → r.plugin? id = none)
    (plugins : ∀ c, r.object? id = some c → c.isPlugin = true) : (r.after a).mark? id = r.mark? id := by
  cases a with
  | construct other d => exact mark?_place
  | duplicate other mode source =>
    rw [after]
    split
    · exact mark?_place
    · rfl
  | write other writing =>
    rw [after]
    split <;> rfl
  | define other =>
    cases isPlugin : r.plugin? other with
    | none => rw [after_define_of_not_plugin isPlugin]
    | some p =>
      have differ : id ≠ other := by
        rintro rfl
        rw [undefined rfl] at isPlugin
        cases isPlugin
      rw [after_define isPlugin, mark?_stamp_of_ne differ]
  | pretend other named =>
    rw [after]
    split
    · rename_i noPlugin
      have differ : id ≠ other := by
        rintro rfl
        obtain ⟨c, found, isFalse⟩ := Option.map_eq_some_iff.mp noPlugin
        rw [plugins c found] at isFalse
        cases isFalse
      rw [mark?_stamp_of_ne differ]
    · rfl
  | release other =>
    have differ : id ≠ other := fun same => kept (by rw [same])
    rw [after, mark?_release_of_ne differ]

/-! ### Histories -/

/-- The registry after a history. -/
def run (history : List Action) : Registry := history.foldl after {}

theorem run_concat (history : List Action) (a : Action) : run (history ++ [a]) = (run history).after a := by
  rw [run, List.foldl_append]
  rfl

/-- The object that has an identity at first is still there in the end. -/
def Persists (id : Nat) (before later : List Action) : Prop :=
  ((run before).object? id).isSome = true ∧ .release id ∉ later

/-- No registration in a history was that of the object which has an identity in the end. -/
def Unregistered (id : Nat) (history : List Action) : Prop :=
  ∀ before later, history = before ++ .define id :: later → ¬ Persists id before later

/-- The object that has an identity was registered in a history; `named` says whether it was a plugin with a valid name
when that happened for the first time. -/
def Registered (id : Nat) (history : List Action) (named : Bool) : Prop :=
  ∃ before later p, history = before ++ .define id :: later ∧ Persists id before later ∧ Unregistered id before ∧
    (run before).plugin? id = some p ∧ p.hasName = named

variable {history before later : List Action}

/-- What persists is in use in the end. -/
theorem Persists.object? (persists : Persists id before later) :
    ((run (before ++ later)).object? id).isSome = true := by
  obtain ⟨inUse, kept⟩ := persists
  induction later using List.reverseRecOn with
  | nil => rwa [List.append_nil]
  | append_singleton later a ih =>
    rw [List.mem_append, not_or] at kept
    obtain ⟨c, found⟩ := Option.isSome_iff_exists.mp (ih kept.1)
    have other : a ≠ .release id := fun same => kept.2 (List.mem_singleton.mpr same.symm)
    obtain ⟨d, found, -⟩ := object?_after other found
    rw [← List.append_assoc, run_concat, found]
    rfl

theorem Registered.not_unregistered {named : Bool} (registered : Registered id history named) :
    ¬ Unregistered id history := by
  obtain ⟨before, later, p, equal, persists, -⟩ := registered
  exact fun unregistered => unregistered before later equal persists

theorem unregistered_of_unused (unused : (run history).object? id = none) : Unregistered id history := by
  rintro before later rfl ⟨inUse, kept⟩
  have inUse : ((run (before ++ .define id :: later)).object? id).isSome = true :=
    Persists.object? ⟨inUse, by simp [kept]⟩
  rw [unused] at inUse
  cases inUse

/-- A step in a history with one more step is the last, or one of those before. -/
theorem concat_eq {a b : Action} (equal : history ++ [a] = before ++ b :: later) :
    (later = [] ∧ history = before ∧ a = b) ∨ ∃ rest, later = rest ++ [a] ∧ history = before ++ b :: rest := by
  rcases List.eq_nil_or_concat later with rfl | ⟨rest, last, rfl⟩
  · obtain ⟨same, isLast⟩ := List.append_inj' equal rfl
    exact .inl ⟨rfl, same, List.singleton_inj.mp isLast⟩
  · rw [List.concat_eq_append, ← List.cons_append, ← List.append_assoc] at equal
    obtain ⟨same, isLast⟩ := List.append_inj' equal rfl
    rw [List.singleton_inj.mp isLast]
    exact .inr ⟨rest, List.concat_eq_append, same⟩

theorem define_ne_release : Action.define id ≠ .release id := nofun

theorem persists_concat {a : Action} (kept : a ≠ .release id) :
    Persists id before (later ++ [a]) ↔ Persists id before later := by
  rw [Persists, Persists, List.mem_append, List.mem_singleton, not_or]
  exact ⟨fun persists => ⟨persists.1, persists.2.1⟩, fun persists => ⟨persists.1, persists.2, kept.symm⟩⟩

/-- A step that neither drops an object nor registers it for the first time tells nothing about it. -/
theorem unregistered_concat {a : Action} (kept : a ≠ .release id)
    (undefined : a = .define id → (run history).object? id = none) :
    Unregistered id (history ++ [a]) ↔ Unregistered id history := by
  constructor
  · rintro unregistered before later rfl persists
    exact unregistered before (later ++ [a]) (by simp) ((persists_concat kept).mpr persists)
  · intro unregistered before later equal persists
    rcases concat_eq equal with ⟨rfl, rfl, rfl⟩ | ⟨rest, rfl, front⟩
    · have inUse := persists.1
      rw [undefined rfl] at inUse
      cases inUse
    · exact unregistered before rest front ((persists_concat kept).mp persists)

theorem registered_concat {a : Action} {named : Bool} (kept : a ≠ .release id)
    (undefined : a = .define id → (run history).plugin? id = none ∨ ¬ Unregistered id history) :
    Registered id (history ++ [a]) named ↔ Registered id history named := by
  constructor
  · rintro ⟨before, later, p, equal, persists, unregistered, found, isNamed⟩
    rcases concat_eq equal with ⟨rfl, rfl, rfl⟩ | ⟨rest, rfl, front⟩
    · rcases undefined rfl with noPlugin | registered
      · rw [noPlugin] at found
        cases found
      · exact absurd unregistered registered
    · exact ⟨before, rest, p, front, (persists_concat kept).mp persists, unregistered, found, isNamed⟩
  · rintro ⟨before, later, p, rfl, persists, rest⟩
    exact ⟨before, later ++ [a], p, by simp, (persists_concat kept).mpr persists, rest⟩

/-- The first registration of an object says whether it has a valid name. -/
theorem registered_first {named : Bool} {p : Plugin} (unregistered : Unregistered id history)
    (found : (run history).plugin? id = some p) :
    Registered id (history ++ [.define id]) named ↔ p.hasName = named := by
  constructor
  · rintro ⟨before, later, q, equal, persists, -, isPlugin, isNamed⟩
    rcases concat_eq equal with ⟨rfl, rfl, -⟩ | ⟨rest, rfl, front⟩
    · rw [found, Option.some.injEq] at isPlugin
      rwa [isPlugin]
    · exact absurd ((persists_concat define_ne_release).mp persists) (unregistered before rest front)
  · intro isNamed
    refine ⟨history, [], p, rfl, ⟨?_, nofun⟩, unregistered, found, isNamed⟩
    rw [plugin?_eq_some.mp found]
    rfl

/-- What the marks of a registry say about the history behind it. -/
structure Faithful (id : Nat) (history : List Action) : Prop where
  unused : (run history).object? id = none → (run history).mark? id = none
  unmarked : ∀ p, (run history).plugin? id = some p → ((run history).mark? id = none ↔ Unregistered id history)
  marked : ∀ p, (run history).plugin? id = some p →
    ∀ named, (run history).mark? id = some named ↔ Registered id history named

theorem faithful_release : Faithful id (history ++ [.release id]) := by
  have unused : (run (history ++ [.release id])).object? id = none := by
    rw [run_concat]
    exact object?_release_self
  have noPlugin : ∀ p, (run (history ++ [.release id])).plugin? id ≠ some p := by
    intro p found
    rw [plugin?_eq_some, unused] at found
    cases found
  refine ⟨fun _ => ?_, fun p found => absurd found (noPlugin p), fun p found => absurd found (noPlugin p)⟩
  rw [run_concat]
  exact mark?_release_self

theorem faithful_define {p : Plugin} (faithful : Faithful id history) (found : (run history).plugin? id = some p) :
    Faithful id (history ++ [.define id]) := by
  have inUse := plugin?_eq_some.mp found
  have marks : (run (history ++ [.define id])).mark? id = some (((run history).mark? id).getD p.hasName) := by
    rw [run_concat, after_define found, mark?_stamp_self]
  refine ⟨fun unused => ?_, fun _ _ => ?_, fun _ _ named => ?_⟩
  · rw [run_concat, after_define found, object?_stamp, inUse] at unused
    cases unused
  · rw [marks]
    refine ⟨nofun, fun unregistered => ?_⟩
    exact absurd ⟨by rw [inUse]; rfl, nofun⟩ (unregistered history [] rfl)
  · rw [marks, Option.some.injEq]
    cases marked : (run history).mark? id with
    | none => exact (registered_first ((faithful.unmarked p found).mp marked) found).symm
    | some earlier =>
      have registered := (faithful.marked p found earlier).mp marked
      rw [registered_concat define_ne_release fun _ => .inr registered.not_unregistered, ← faithful.marked p found, marked,
        Option.getD_some, Option.some.injEq]

theorem faithful_other {a : Action} (faithful : Faithful id history) (kept : a ≠ .release id)
    (undefined : a = .define id → (run history).plugin? id = none) : Faithful id (history ++ [a]) := by
  cases found : (run history).object? id with
  | none =>
    have marks : (run (history ++ [a])).mark? id = none := by
      rw [run_concat, mark?_after kept undefined (by rw [found]; exact nofun), faithful.unused found]
    have unregistered : Unregistered id (history ++ [a]) :=
      (unregistered_concat kept fun _ => found).mpr (unregistered_of_unused found)
    refine ⟨fun _ => marks, fun _ _ => ⟨fun _ => unregistered, fun _ => marks⟩, fun _ _ named => ?_⟩
    rw [marks]
    exact ⟨nofun, fun registered => absurd unregistered registered.not_unregistered⟩
  | some c =>
    obtain ⟨d, inUse, same⟩ := object?_after kept found
    rw [← run_concat] at inUse
    have unused : (run (history ++ [a])).object? id ≠ none := by
      rw [inUse]
      exact nofun
    by_cases isPlugin : ∃ p, c = .plugin p
    · obtain ⟨p, rfl⟩ := isPlugin
      rw [← plugin?_eq_some] at found
      have marks : (run (history ++ [a])).mark? id = (run history).mark? id := by
        rw [run_concat]
        refine mark?_after kept undefined fun d isObject => ?_
        rw [plugin?_eq_some.mp found, Option.some.injEq] at isObject
        rw [← isObject]
        rfl
      have notDefined : a ≠ .define id := by
        intro isDefined
        rw [undefined isDefined] at found
        cases found
      refine ⟨fun none => absurd none unused, fun _ _ => ?_, fun _ _ named => ?_⟩
      · rw [marks, unregistered_concat kept fun isDefined => absurd isDefined notDefined, faithful.unmarked p found]
      · rw [marks, registered_concat kept fun isDefined => absurd isDefined notDefined, faithful.marked p found]
    · have noPlugin : ∀ q, (run (history ++ [a])).plugin? id ≠ some q := by
        intro q now
        rw [plugin?_eq_some, inUse, Option.some.injEq] at now
        subst now
        cases c with
        | plugin p => exact isPlugin ⟨p, rfl⟩
        | _ => cases same
      exact ⟨fun none => absurd none unused, fun q now => absurd now (noPlugin q), fun q now => absurd now (noPlugin q)⟩

theorem faithful (id : Nat) (history : List Action) : Faithful id history := by
  induction history using List.reverseRecOn with
  | nil => exact ⟨fun _ => rfl, nofun, nofun⟩
  | append_singleton history a ih =>
    by_cases released : a = .release id
    · rw [released]
      exact faithful_release
    · cases found : (run history).plugin? id with
      | none => exact faithful_other ih released fun _ => found
      | some p =>
        by_cases defined : a = .define id
        · rw [defined]
          exact faithful_define ih found
        · exact faithful_other ih released fun isDefined => absurd isDefined defined

theorem hasName_iff {p : Plugin} :
    p.hasName = true ↔ ∃ text, p.name = .text text ∧ ∃ c ∈ text.toList, Text.isBlank c = false := by
  rw [Plugin.hasName]
  split
  · rename_i text isText
    rw [List.any_eq_true]
    constructor
    · rintro ⟨c, isIn, noBlank⟩
      exact ⟨text, isText, c, isIn, by simpa using noBlank⟩
    · rintro ⟨other, isOther, c, isIn, noBlank⟩
      rw [isText] at isOther
      cases isOther
      exact ⟨c, isIn, by simpa using noBlank⟩
  · rename_i noText
    refine ⟨nofun, ?_⟩
    rintro ⟨text, isText, -⟩
    exact absurd isText (noText text)

/-- An object is genuine exactly if it is a plugin that was registered, and had a text that is not blank for its name
when it was registered for the first time. -/
theorem genuine_iff_registered (history : List Action) (id : Nat) :
    (run history).isGenuine id = true ↔
      ((run history).plugin? id).isSome = true ∧
        ∃ before later p text, history = before ++ .define id :: later ∧ Persists id before later ∧
          Unregistered id before ∧ (run before).plugin? id = some p ∧ p.name = .text text ∧
          ∃ c ∈ text.toList, Text.isBlank c = false := by
  rw [isGenuine, Bool.and_eq_true]
  refine and_congr_right fun isPlugin => ?_
  obtain ⟨p, found⟩ := Option.isSome_iff_exists.mp isPlugin
  have marked : ((run history).mark? id).getD false = true ↔ Registered id history true := by
    rw [← (faithful id history).marked p found]
    cases (run history).mark? id <;> simp
  rw [marked]
  constructor
  · rintro ⟨before, later, q, equal, persists, unregistered, isPlugin, isNamed⟩
    obtain ⟨text, isText, visible⟩ := hasName_iff.mp isNamed
    exact ⟨before, later, q, text, equal, persists, unregistered, isPlugin, isText, visible⟩
  · rintro ⟨before, later, q, text, equal, persists, unregistered, isPlugin, isText, visible⟩
    exact ⟨before, later, q, equal, persists, unregistered, isPlugin, hasName_iff.mpr ⟨text, isText, visible⟩⟩

/-- A copy of a genuine plugin is not genuine, and neither is a plugin that takes the identity of one. -/
example :
    let made : List Action := [.construct 0 (.plugin { name := .text "a" }), .define 0, .duplicate 1 .shallow 0]
    (run made).isGenuine 0 = true ∧ (run made).isGenuine 1 = false ∧
      (run (made ++ [.release 0, .duplicate 0 .deep 1])).isGenuine 0 = false := by
  decide +kernel

end Registry

end ClientGen
