import ClientGen.Proofs.Sameness
import ClientGen.Proofs.Schema.Meaning

/-!
Copies of a schema for the types that it lists. A copy states one type and is not nullable; in everything else it
is the schema (`field?_retyped`). What is valid for a schema is therefore valid for the copy that states a type of
the value (`Meets.copy`), and no copy is larger than its schema (`size_retypedTo`).
-/

namespace ClientGen

namespace Entries

variable {α : Type} (entries : List (Atom × α))

/-- Setting the values of a key leaves the keys as they are. -/
private theorem field?_set (key other : String) (value : α) :
    field? (entries.map fun entry => if entry.1.same (.text key) then (entry.1, value) else entry) other =
      (entries.find? fun entry => entry.1.same (.text other)).map
        fun entry => if entry.1.same (.text key) then value else entry.2 := by
  have kept : ((fun entry : Atom × α => entry.1.same (.text other)) ∘
      fun entry : Atom × α => if entry.1.same (.text key) then (entry.1, value) else entry) =
        fun entry => entry.1.same (.text other) := by
    funext entry
    dsimp only [Function.comp_apply]
    split <;> rfl
  rw [field?, get?, List.find?_map, kept, Option.map_map]
  refine congrArg (Option.map · _) (funext fun entry => ?_)
  dsimp only [Function.comp_apply]
  split <;> rfl

theorem field?_put_self (key : String) (value : α) : field? (put entries (.text key) value) key = some value := by
  unfold put
  split
  · rename_i present
    rw [field?_set]
    obtain ⟨entry, found⟩ := Option.isSome_iff_exists.mp (List.find?_isSome.trans List.any_eq_true.symm |>.mpr present)
    have same := List.find?_some found
    rw [found, Option.map_some, if_pos same]
  · rename_i absent
    have none : ∀ entry ∈ entries, ¬ entry.1.same (.text key) = true := by simpa using absent
    simp [field?, get?, List.find?_append, List.find?_eq_none.mpr none, Atom.same_refl]

theorem field?_put_of_ne {key other : String} (differ : key ≠ other) (value : α) :
    field? (put entries (.text key) value) other = field? entries other := by
  have apart : ∀ a : Atom, a.same (.text other) = true → a.same (.text key) = false := by
    intro a same
    rw [Atom.same_text, decide_eq_true_iff] at same
    rw [same, Atom.same_text]
    simpa using Ne.symm differ
  unfold put
  split
  · rw [field?_set, field?, get?]
    cases found : entries.find? fun entry => entry.1.same (.text other) with
    | none => rfl
    | some entry =>
      have same := List.find?_some found
      simp [apart entry.1 same]
  · have last : (Atom.text key).same (.text other) = false := by
      rw [Atom.same_text]
      simpa using differ
    simp [field?, get?, List.find?_append, last]

end Entries

namespace Value

/-- Setting the values of a key to atoms does not enlarge a mapping, and saves what the first of them was. -/
private theorem sizeEntries_set_le (entries : List (Atom × Value)) (key : String) (a : Atom) :
    sizeEntries (entries.map fun entry => if entry.1.same (.text key) then (entry.1, atom a) else entry) ≤
      sizeEntries entries := by
  induction entries with
  | nil => exact Nat.le_refl 0
  | cons first rest ih =>
    obtain ⟨k, v⟩ := first
    have := v.size_pos
    rw [List.map_cons, sizeEntries]
    split
    · simp only [sizeEntries, size]
      omega
    · simp only [sizeEntries]
      omega

private theorem sizeEntries_append (first second : List (Atom × Value)) :
    sizeEntries (first ++ second) = sizeEntries first + sizeEntries second := by
  induction first with
  | nil => simp [sizeEntries]
  | cons entry rest ih => rw [List.cons_append, sizeEntries, sizeEntries, ih, Nat.add_assoc]

private theorem sizeEntries_put_le (entries : List (Atom × Value)) (key : String) (a : Atom) :
    sizeEntries (Entries.put entries (.text key) (atom a)) ≤ sizeEntries entries + 1 := by
  unfold Entries.put
  split
  · exact Nat.le_succ_of_le (sizeEntries_set_le entries key a)
  · rw [sizeEntries_append]
    exact Nat.le_refl _

theorem sizeEntries_put_add_le {entries : List (Atom × Value)} {key : String} {v : Value}
    (found : Entries.field? entries key = some v) (a : Atom) :
    sizeEntries (Entries.put entries (.text key) (atom a)) + v.size ≤ sizeEntries entries + 1 := by
  obtain ⟨entry, isEntry, rfl⟩ := Option.map_eq_some_iff.mp found
  have same := List.find?_some isEntry
  have present : (entries.any fun entry => entry.1.same (.text key)) = true :=
    List.any_eq_true.mpr ⟨entry, List.mem_of_find?_eq_some isEntry, same⟩
  rw [Entries.put, if_pos present]
  clear found present same
  induction entries with
  | nil => cases isEntry
  | cons first rest ih =>
    obtain ⟨k, v⟩ := first
    rw [List.map_cons, sizeEntries]
    simp only [List.find?_cons] at isEntry
    cases same : k.same (.text key) with
    | true =>
      simp only [same] at isEntry
      cases isEntry
      have := sizeEntries_set_le rest key a
      simp only [↓reduceIte, sizeEntries, size]
      omega
    | false =>
      simp only [same] at isEntry
      have := ih isEntry
      simp only [Bool.false_eq_true, ↓reduceIte, sizeEntries]
      omega

end Value

namespace SchemaType

open Entries

variable (entries : List (Atom × Value)) (type : Value)

theorem field?_retyped {key : String} (noType : key ≠ "type") (noNullable : key ≠ "nullable") :
    field? (retypedEntries entries type (.bool false)) key = field? entries key := by
  rw [retypedEntries, field?_put_of_ne _ (Ne.symm noNullable), field?_put_of_ne _ (Ne.symm noType)]

theorem type_retyped : field? (retypedEntries entries type (.bool false)) "type" = some type := by
  rw [retypedEntries, field?_put_of_ne _ (by decide), field?_put_self]

theorem listAt_retyped {key : String} (noType : key ≠ "type") (noNullable : key ≠ "nullable") :
    listAt (retypedEntries entries type (.bool false)) key = listAt entries key := by
  rw [listAt, listAt, field?_retyped entries type noType noNullable]

theorem membersAt_retyped {key : String} (noType : key ≠ "type") (noNullable : key ≠ "nullable") :
    membersAt (retypedEntries entries type (.bool false)) key = membersAt entries key := by
  rw [membersAt, membersAt, listAt_retyped entries type noType noNullable]

theorem declaredIn_retyped : declaredIn (retypedEntries entries type (.bool false)) = declaredIn entries := by
  rw [declaredIn, declaredIn, field?_retyped entries type (by decide) (by decide)]

theorem requiredIn_retyped : requiredIn (retypedEntries entries type (.bool false)) = requiredIn entries := by
  rw [requiredIn, requiredIn, field?_retyped entries type (by decide) (by decide)]

/-- What meets a schema meets the copy of it that states a type of the value. -/
theorem Meets.copy {entries : List (Atom × Value)} {v : JsonValue} (meets : Meets entries v) {name : String}
    (isOf : v.IsOf name) : Meets (retypedEntries entries (.text name) (.bool false)) v where
  type := by
    rw [HasStatedType, type_retyped]
    exact isOf
  enum := by
    rw [listAt_retyped entries _ (by decide) (by decide)]
    exact meets.enum
  const := by
    rw [field?_retyped entries _ (by decide) (by decide)]
    exact meets.const
  oneOf := by
    rw [membersAt_retyped entries _ (by decide) (by decide)]
    exact meets.oneOf
  anyOf := by
    rw [membersAt_retyped entries _ (by decide) (by decide)]
    exact meets.anyOf
  allOf := by
    rw [membersAt_retyped entries _ (by decide) (by decide)]
    exact meets.allOf
  items := by
    rw [field?_retyped entries _ (by decide) (by decide)]
    exact meets.items
  declared := by
    rw [declaredIn_retyped]
    exact meets.declared
  required := by
    rw [requiredIn_retyped]
    exact meets.required
  additional := by
    rw [declaredIn_retyped, field?_retyped entries _ (by decide) (by decide)]
    exact meets.additional

/-- A copy is smaller than its schema by the types that the schema lists, but for one. -/
theorem size_retypedTo {entries : List (Atom × Value)} {names : List Value}
    (listed : field? entries "type" = some (.list names)) (a : Atom) :
    (retypedTo entries (.atom a)).size + Value.sizeItems names ≤ (Value.map entries).size + 1 := by
  have typed := Value.sizeEntries_put_add_le listed a
  have marked := Value.sizeEntries_put_le (put entries (.text "type") (.atom a)) "nullable" (.bool false)
  simp only [retypedTo, retypedEntries, Value.size, Value.bool] at typed marked ⊢
  omega

end SchemaType

end ClientGen
