import ClientGen.Value.Basic

/-!
Sizes of the parts of a value. Every part is smaller than the value, so that recursion may go into what is
found under a key; several parts together with what holds them are no larger either.
-/

namespace ClientGen.Value

theorem size_pos (v : Value) : 0 < v.size := by
  cases v <;> simp [size]

theorem size_le_sizeItems {v : Value} {items : List Value} (member : v ∈ items) : v.size ≤ sizeItems items := by
  induction items with
  | nil => cases member
  | cons first rest ih =>
    rw [sizeItems]
    rcases List.mem_cons.mp member with rfl | later
    · omega
    · have := ih later
      omega

theorem size_le_sizeEntries {entry : Atom × Value} {entries : List (Atom × Value)} (member : entry ∈ entries) :
    entry.2.size ≤ sizeEntries entries := by
  induction entries with
  | nil => cases member
  | cons first rest ih =>
    obtain ⟨key, v⟩ := first
    rw [sizeEntries]
    rcases List.mem_cons.mp member with rfl | later
    · exact Nat.le_add_right _ _
    · have := ih later
      omega

theorem sizeEntries_eq (entries : List (Atom × Value)) : sizeEntries entries = sizeItems (entries.map (·.2)) := by
  induction entries with
  | nil => rfl
  | cons first rest ih => rw [sizeEntries, List.map_cons, sizeItems, ih]

theorem length_le_sizeItems (items : List Value) : items.length ≤ sizeItems items := by
  induction items with
  | nil => exact Nat.le_refl 0
  | cons first rest ih =>
    have := first.size_pos
    rw [sizeItems, List.length_cons]
    omega

/-- The largest of several values leaves room for the others. -/
theorem size_add_length_le {v : Value} {items : List Value} (member : v ∈ items) :
    v.size + items.length ≤ sizeItems items + 1 := by
  induction items with
  | nil => cases member
  | cons first rest ih =>
    rw [sizeItems, List.length_cons]
    rcases List.mem_cons.mp member with rfl | later
    · have := length_le_sizeItems rest
      omega
    · have := ih later
      have := first.size_pos
      omega

theorem size_field? {entries : List (Atom × Value)} {key : String} {v : Value}
    (found : Entries.field? entries key = some v) : v.size + 1 ≤ (map entries).size := by
  obtain ⟨entry, isEntry, rfl⟩ := Option.map_eq_some_iff.mp found
  have := size_le_sizeEntries (List.mem_of_find?_eq_some isEntry)
  rw [size]
  omega

end ClientGen.Value
