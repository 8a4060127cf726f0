import ClientGen.Proofs.Reading
import ClientGen.Proofs.Size

/-!
The values that a value consists of: itself, and what its parts consist of. Whatever is found in a value consists of
values that it consists of itself, and there are no more of them than the value is large.
-/

namespace ClientGen.Value

mutual

/-- A value and all the values in it, at whatever depth they stand. -/
def contents : Value → List Value
  | atom a => [atom a]
  | list items => list items :: contentsOf items
  | tuple items => tuple items :: contentsOf items
  | set members => [set members]
  | map entries => map entries :: contentsUnder entries

def contentsOf : List Value → List Value
  | [] => []
  | v :: rest => contents v ++ contentsOf rest

def contentsUnder : List (Atom × Value) → List Value
  | [] => []
  | (_, v) :: rest => contents v ++ contentsUnder rest

end

theorem self_mem_contents (v : Value) : v ∈ contents v := by
  cases v <;> exact List.mem_cons_self

theorem mem_contentsOf {v : Value} {items : List Value} : v ∈ contentsOf items ↔ ∃ item ∈ items, v ∈ contents item := by
  induction items with
  | nil => simp [contentsOf]
  | cons first rest ih => simp [contentsOf, ih]

theorem mem_contentsUnder {v : Value} {entries : List (Atom × Value)} :
    v ∈ contentsUnder entries ↔ ∃ entry ∈ entries, v ∈ contents entry.2 := by
  induction entries with
  | nil => simp [contentsUnder]
  | cons first rest ih => simp [contentsUnder, ih]

theorem contents_subset_of_item {v : Value} {items : List Value} (isItem : v ∈ items) :
    contents v ⊆ contents (list items) :=
  fun _ inside => List.mem_cons_of_mem _ (mem_contentsOf.mpr ⟨v, isItem, inside⟩)

theorem contents_subset_of_entry {entry : Atom × Value} {entries : List (Atom × Value)} (isEntry : entry ∈ entries) :
    contents entry.2 ⊆ contents (map entries) :=
  fun _ inside => List.mem_cons_of_mem _ (mem_contentsUnder.mpr ⟨entry, isEntry, inside⟩)

theorem contents_subset_of_field {v found : Value} {key : String} (stated : v.field? key = some found) :
    contents found ⊆ contents v := by
  cases v with
  | map entries =>
    obtain ⟨entry, isEntry, rfl⟩ := Option.map_eq_some_iff.mp stated
    exact contents_subset_of_entry (List.mem_of_find?_eq_some isEntry)
  | _ => cases stated

mutual

/-- What is in a part is in the whole. -/
theorem contents_subset {v : Value} : {w : Value} → v ∈ contents w → contents v ⊆ contents w
  | .atom _, inside | .set _, inside => by rw [List.mem_singleton.mp inside]; exact List.Subset.refl _
  | .list items, inside | .tuple items, inside => by
    rcases List.mem_cons.mp inside with rfl | deeper
    · exact List.Subset.refl _
    · exact List.Subset.trans (contents_subset_of deeper) (List.subset_cons_self _ _)
  | .map entries, inside => by
    rcases List.mem_cons.mp inside with rfl | deeper
    · exact List.Subset.refl _
    · exact List.Subset.trans (contents_subset_under deeper) (List.subset_cons_self _ _)

theorem contents_subset_of {v : Value} : {items : List Value} → v ∈ contentsOf items → contents v ⊆ contentsOf items
  | first :: rest, inside => by
    rw [contentsOf] at inside ⊢
    rcases List.mem_append.mp inside with here | later
    · exact List.Subset.trans (contents_subset here) (List.subset_append_left _ _)
    · exact List.Subset.trans (contents_subset_of later) (List.subset_append_right _ _)

theorem contents_subset_under {v : Value} :
    {entries : List (Atom × Value)} → v ∈ contentsUnder entries → contents v ⊆ contentsUnder entries
  | (_, first) :: rest, inside => by
    rw [contentsUnder] at inside ⊢
    rcases List.mem_append.mp inside with here | later
    · exact List.Subset.trans (contents_subset here) (List.subset_append_left _ _)
    · exact List.Subset.trans (contents_subset_under later) (List.subset_append_right _ _)

end

mutual

theorem length_contents_le : (v : Value) → (contents v).length ≤ v.size
  | .atom _ => Nat.le_refl 1
  | .list items | .tuple items => Nat.succ_le_succ (length_contentsOf_le items)
  | .set _ => Nat.le_add_left 1 _
  | .map entries => Nat.succ_le_succ (length_contentsUnder_le entries)

theorem length_contentsOf_le : (items : List Value) → (contentsOf items).length ≤ sizeItems items
  | [] => Nat.le_refl 0
  | v :: rest => by
    rw [contentsOf, List.length_append, sizeItems]
    exact Nat.add_le_add (length_contents_le v) (length_contentsOf_le rest)

theorem length_contentsUnder_le : (entries : List (Atom × Value)) →
    (contentsUnder entries).length ≤ sizeEntries entries
  | [] => Nat.le_refl 0
  | (_, v) :: rest => by
    rw [contentsUnder, List.length_append, sizeEntries]
    exact Nat.add_le_add (length_contents_le v) (length_contentsUnder_le rest)

end

end ClientGen.Value
