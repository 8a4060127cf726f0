import ClientGen.Proofs.Number.Digits
import ClientGen.Proofs.Reference

/-!
Steps of references into lists. Pointers name an item by its number in ASCII digits without a leading zero (`IsIndex`).
In fact a step takes every whole number as people write it, and counts from the end of the list if it is negative
(`IsTaken`); whatever else stands in its place is refused. So a reference keeps to the grammar of pointers exactly if it
cannot be followed or spells all its indices in plain decimal (`array_steps_iff`).
-/

namespace ClientGen.Reference

/-- An index as pointers spell it: a zero, or digits that do not begin with one. -/
def IsIndex (segment : List Char) : Prop :=
  segment = ['0'] ∨
    (segment ≠ [] ∧ segment.head? ≠ some '0' ∧ ∀ c ∈ segment, Text.isAsciiDigit c = true)

instance (segment : List Char) : Decidable (IsIndex segment) :=
  decidable_of_iff
    (segment = ['0'] ∨ segment ≠ [] ∧ segment.head? ≠ some '0' ∧ segment.all Text.isAsciiDigit = true)
    (by simp only [IsIndex, List.all_eq_true])

/-- A segment spells the number of an item. -/
structure IsIndexOf (segment : List Char) (items : List Value) : Prop where
  isIndex : IsIndex segment
  inside : Nat.ofDigitChars 10 segment 0 < items.length

/-- A segment that a step into a list takes: a whole number that is the place of an item, or what is to be added to the
length for it. -/
def IsTaken (segment : List Char) (items : List Value) : Prop :=
  ∃ index : Int, Number.limitedWhole? segment = some index ∧ -(items.length : Int) ≤ index ∧ index < items.length

/-- A segment with the list that it is applied to, if it is applied to one. -/
def arrayStep (segment : List Char) : Value → List (List Char × List Value)
  | .list items => [(segment, items)]
  | _ => []

/-- The segments that are applied to lists on the way from a node, with the lists. -/
def arrayStepsFrom (ref : String) : List (List Char) → Value → List (List Char × List Value)
  | [], _ => []
  | segment :: rest, node =>
    arrayStep segment node ++
      match (step ref segment node : Except Fault Value) with
      | .ok next => arrayStepsFrom ref rest next
      | .error _ => []

/-- The segments that are applied to lists when a reference is followed, with the lists. -/
def arraySteps (ref : String) (document : Value) : List (List Char × List Value) :=
  match segments? ref with
  | some segments => arrayStepsFrom ref segments document
  | none => []

/-- Wherever a reference can be followed, the segments that are applied to lists are numbers of items. -/
def FollowsGrammar (ref : String) (document : Value) : Prop :=
  ∀ found, (resolve ref document : Except Fault Value) = .ok found →
    ∀ applied ∈ arraySteps ref document, IsIndexOf applied.1 applied.2

/-- A reference is refused as soon as a segment is applied to a list that is not the number of an item. -/
def RefusesOthers (ref : String) (document : Value) : Prop :=
  ∀ applied ∈ arraySteps ref document, ¬ IsIndexOf applied.1 applied.2 →
    ∃ fault, (resolve ref document : Except Fault Value) = .error (.reference fault)

/-- Wherever a reference can be followed, the segments that are applied to lists are the decimals of numbers. -/
def SpellsDecimals (ref : String) (document : Value) : Prop :=
  ∀ found, (resolve ref document : Except Fault Value) = .ok found →
    ∀ applied ∈ arraySteps ref document, ∃ n : Nat, applied.1 = (toString n).toList

/-! ### One step -/

theorem IsIndex.digits {segment : List Char} (isIndex : IsIndex segment) :
    segment ≠ [] ∧ ∀ c ∈ segment, Text.isAsciiDigit c = true := by
  rcases isIndex with rfl | ⟨some, -, digits⟩
  · exact ⟨List.cons_ne_nil _ _, List.forall_mem_singleton.mpr rfl⟩
  · exact ⟨some, digits⟩

/-- The indices are the decimals of numbers. -/
theorem isIndex_iff {segment : List Char} : IsIndex segment ↔ ∃ n : Nat, segment = (toString n).toList := by
  have decimal : ∀ n : Nat, (toString n).toList = Nat.toDigits 10 n := fun n => by
    rw [Nat.toString_eq_ofList_toDigits, String.toList_ofList]
  constructor
  · rintro (rfl | ⟨some, noZero, digits⟩)
    · exact ⟨0, by decide⟩
    · exact ⟨Nat.ofDigitChars 10 segment 0, by rw [decimal, Number.toDigits_ofDigitChars digits some noZero]⟩
  · rintro ⟨n, rfl⟩
    rcases Nat.eq_zero_or_pos n with rfl | positive
    · exact .inl (by decide)
    · refine .inr ⟨?_, ?_, Number.isAsciiDigit_toString⟩
      · rw [decimal]
        exact Nat.toDigits_ne_nil
      · rw [decimal]
        exact Number.head?_toDigits positive

/-- An index that is read at all is read as the number that it spells. -/
theorem IsIndex.read {segment : List Char} (isIndex : IsIndex segment) {index : Int}
    (read : Number.limitedWhole? segment = some index) : index = Nat.ofDigitChars 10 segment 0 := by
  obtain ⟨some, digits⟩ := isIndex.digits
  have short : segment.length ≤ Number.digitLimit := by
    by_contra long
    rw [Number.limitedWhole?_long digits (Nat.lt_of_not_le long)] at read
    cases read
  rw [Number.limitedWhole?_digits digits some short] at read
  exact (Option.some.inj read).symm

/-- Indices from the one end and from the other cover the list twice. -/
theorem itemAt?_eq_none {items : List Value} {index : Int} :
    itemAt? items index = none ↔ ¬ (-(items.length : Int) ≤ index ∧ index < items.length) := by
  unfold itemAt?
  split
  · rw [List.getElem?_eq_none_iff]
    omega
  · split
    · rw [List.getElem?_eq_none_iff]
      omega
    · simp only [true_iff]
      omega

section

variable {ref : String} {segment : List Char} {node : Value} {items : List Value}

/-- A step into a list with anything that is not taken is refused. -/
theorem step_list_refused (refused : ¬ IsTaken segment items) :
    (step ref segment (.list items) : Except Fault Value) =
      .error (.reference (.badIndex ref (String.ofList segment))) := by
  have none : (Number.limitedWhole? segment >>= itemAt? items) = none := by
    rw [Option.bind_eq_bind, Option.bind_eq_none_iff]
    intro index read
    exact itemAt?_eq_none.mpr fun within => refused ⟨index, read, within⟩
  simp only [step, shape_except, Value.shape_list, except_bind_ok, none]
  rfl

/-- A step into a list leads to an item exactly if the segment is taken. -/
theorem step_list_ok_iff :
    (∃ found, (step ref segment (.list items) : Except Fault Value) = .ok found) ↔ IsTaken segment items := by
  constructor
  · rintro ⟨found, stepped⟩
    by_contra refused
    rw [step_list_refused refused] at stepped
    cases stepped
  · rintro ⟨index, read, within⟩
    obtain ⟨found, item⟩ : ∃ found, itemAt? items index = some found :=
      Option.ne_none_iff_exists'.mp fun none => itemAt?_eq_none.mp none within
    refine ⟨found, ?_⟩
    simp only [step, shape_except, Value.shape_list, except_bind_ok, read, Option.bind_eq_bind, Option.bind_some, item]
    rfl

/-- A step fails for no reason but the reference. -/
theorem step_error {fault : Fault} (failed : (step ref segment node : Except Fault Value) = .error fault) :
    ∃ problem, fault = .reference problem := by
  cases node with
  | map entries =>
    simp only [step, shape_except, Value.shape_map, except_bind_ok] at failed
    split at failed
    · cases failed
    · cases failed
      exact ⟨_, rfl⟩
  | list items =>
    simp only [step, shape_except, Value.shape_list, except_bind_ok] at failed
    split at failed
    · cases failed
    · cases failed
      exact ⟨_, rfl⟩
  | _ =>
    cases failed
    exact ⟨_, rfl⟩

end

/-! ### Whole references -/

section

variable {ref : String} {segments : List (List Char)} {node document : Value} {applied : List Char × List Value}

theorem mem_arrayStepsFrom_cons {segment : List Char} :
    applied ∈ arrayStepsFrom ref (segment :: segments) node ↔
      (∃ items, node = .list items ∧ applied = (segment, items)) ∨
        ∃ next, (step ref segment node : Except Fault Value) = .ok next ∧
          applied ∈ arrayStepsFrom ref segments next := by
  rw [arrayStepsFrom, List.mem_append]
  refine or_congr ?_ ?_
  · cases node <;> simp [arrayStep]
  · cases (step ref segment node : Except Fault Value) <;> simp

/-- A way on which something is not taken ends there. -/
theorem walk_refused (member : applied ∈ arrayStepsFrom ref segments node)
    (refused : ¬ IsTaken applied.1 applied.2) :
    (walk ref segments node : Except Fault Value) =
      .error (.reference (.badIndex ref (String.ofList applied.1))) := by
  induction segments generalizing node with
  | nil => cases member
  | cons segment rest ih =>
    rw [walk]
    rcases mem_arrayStepsFrom_cons.mp member with ⟨items, rfl, rfl⟩ | ⟨next, stepped, later⟩
    · rw [step_list_refused refused, except_bind_error]
    · rw [stepped, except_bind_ok, ih later]

theorem walk_error {fault : Fault} (failed : (walk ref segments node : Except Fault Value) = .error fault) :
    ∃ problem, fault = .reference problem := by
  induction segments generalizing node with
  | nil => cases failed
  | cons segment rest ih =>
    rw [walk] at failed
    cases stepped : (step ref segment node : Except Fault Value) with
    | ok next =>
      rw [stepped, except_bind_ok] at failed
      exact ih failed
    | error fault' =>
      rw [stepped, except_bind_error] at failed
      cases failed
      exact step_error stepped

theorem resolve_refused (member : applied ∈ arraySteps ref document) (refused : ¬ IsTaken applied.1 applied.2) :
    (resolve ref document : Except Fault Value) =
      .error (.reference (.badIndex ref (String.ofList applied.1))) := by
  unfold arraySteps at member
  split at member
  · rename_i segments isInside
    rw [resolve, isInside]
    exact walk_refused member refused
  · cases member

/-- Following a reference fails for no reason but the reference. -/
theorem resolve_error {fault : Fault} (failed : (resolve ref document : Except Fault Value) = .error fault) :
    ∃ problem, fault = .reference problem := by
  unfold resolve at failed
  split at failed
  · exact walk_error failed
  · cases failed
    exact ⟨_, rfl⟩

/-- What is applied to a list is taken wherever the reference can be followed. -/
theorem isTaken_of_resolve {found : Value} (resolved : (resolve ref document : Except Fault Value) = .ok found)
    (member : applied ∈ arraySteps ref document) : IsTaken applied.1 applied.2 := by
  by_contra refused
  rw [resolve_refused member refused] at resolved
  cases resolved

/-- What is taken and spelled like an index is the number of an item. -/
theorem IsTaken.isIndexOf (taken : IsTaken applied.1 applied.2) (isIndex : IsIndex applied.1) :
    IsIndexOf applied.1 applied.2 := by
  obtain ⟨index, read, -, below⟩ := taken
  have spelled := isIndex.read read
  exact ⟨isIndex, by omega⟩

theorem followsGrammar_iff : FollowsGrammar ref document ↔ SpellsDecimals ref document := by
  constructor
  · intro follows found resolved applied member
    exact isIndex_iff.mp (follows found resolved applied member).isIndex
  · intro spells found resolved applied member
    exact (isTaken_of_resolve resolved member).isIndexOf (isIndex_iff.mpr (spells found resolved applied member))

theorem refusesOthers_iff : RefusesOthers ref document ↔ FollowsGrammar ref document := by
  constructor
  · intro refuses found resolved applied member
    by_contra other
    obtain ⟨_, failed⟩ := refuses applied member other
    rw [failed] at resolved
    cases resolved
  · intro follows applied member other
    cases resolved : (resolve ref document : Except Fault Value) with
    | ok found => exact absurd (follows found resolved applied member) other
    | error fault =>
      obtain ⟨problem, rfl⟩ := resolve_error resolved
      exact ⟨problem, rfl⟩

end

/-- A segment that is applied to a list leads to an item exactly if it is a whole number between the length of the list
below zero and the length; otherwise the reference is refused. Therefore the segments follow the grammar of pointers, or
are refused if they do not, exactly for those references that cannot be followed or spell all their indices in plain
decimal. -/
theorem array_steps_iff (ref : String) (document : Value) :
    (∀ segment items,
      (∃ found, (step ref segment (.list items) : Except Fault Value) = .ok found) ↔ IsTaken segment items) ∧
    (∀ applied ∈ arraySteps ref document, ¬ IsTaken applied.1 applied.2 →
      (resolve ref document : Except Fault Value) =
        .error (.reference (.badIndex ref (String.ofList applied.1)))) ∧
    (FollowsGrammar ref document ↔ SpellsDecimals ref document) ∧
    (RefusesOthers ref document ↔ SpellsDecimals ref document) :=
  ⟨fun _ _ => step_list_ok_iff, fun _ => resolve_refused, followsGrammar_iff,
    refusesOthers_iff.trans followsGrammar_iff⟩

/-- A document with two items. -/
def pairedServers : Value := .ofFields [("servers", .list [.text "first", .text "last"])]

/-- The last item can be reached from the end, and under its own number padded with a zero or in digits of another
script. -/
theorem index_spelled_otherwise :
    ((resolve "#/servers/-1" pairedServers : Except Fault Value) = .ok (.text "last") ∧
      ¬ FollowsGrammar "#/servers/-1" pairedServers) ∧
    ((resolve "#/servers/01" pairedServers : Except Fault Value) = .ok (.text "last") ∧
      ¬ FollowsGrammar "#/servers/01" pairedServers) ∧
    ((resolve "#/servers/\u0661" pairedServers : Except Fault Value) = .ok (.text "last") ∧
      ¬ FollowsGrammar "#/servers/\u0661" pairedServers) := by
  have spelledOtherwise : ∀ segment : String,
      (resolve ("#/servers/" ++ segment) pairedServers : Except Fault Value) = .ok (.text "last") →
      (segment.toList, [.text "first", .text "last"]) ∈ arraySteps ("#/servers/" ++ segment) pairedServers →
      ¬ IsIndex segment.toList →
      (resolve ("#/servers/" ++ segment) pairedServers : Except Fault Value) = .ok (.text "last") ∧
        ¬ FollowsGrammar ("#/servers/" ++ segment) pairedServers :=
    fun segment resolved member other => ⟨resolved, fun follows => other (follows _ resolved _ member).isIndex⟩
  exact ⟨spelledOtherwise "-1" rfl (List.mem_singleton.mpr rfl) (by decide),
    spelledOtherwise "01" rfl (List.mem_singleton.mpr rfl) (by decide),
    spelledOtherwise "\u0661" rfl (List.mem_singleton.mpr rfl) (by decide)⟩

end ClientGen.Reference
