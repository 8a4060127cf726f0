import ClientGen.Proofs.Store.Placed
import Mathlib.Data.List.Dedup

/-!
Reading trees of a store. What a store holds is what is read of it (`read_of_holds`), also where containers are shared:
a cell has one tree (`eq_of_node`), so that it is not among the cells of its own parts, and the way down from a node is
no longer than there are cells.
-/

namespace ClientGen.Store

open Placed

variable {store : Store} {ps : List Placed} {p : Placed}

theorem holds_of_mem (holds : store.Holds ps) (member : p ∈ ps) : store.Holds [p] := by
  obtain ⟨front, back, rfl⟩ := List.append_of_mem member
  exact (holds_cons.mp (holds_append.mp holds).2).1

theorem holds_of_forall (each : ∀ p ∈ ps, store.Holds [p]) : store.Holds ps := by
  induction ps with
  | nil => exact fun l inside => absurd inside List.not_mem_nil
  | cons p rest ih =>
    rw [holds_cons]
    exact ⟨each p List.mem_cons_self, ih fun q member => each q (List.mem_cons_of_mem _ member)⟩

/-- Setting an entry to a tree of the store. -/
theorem holds_put {entries : List (Atom × Placed)} {key : Atom} (holds : store.Holds (entries.map (·.2)))
    (value : store.Holds [p]) : store.Holds ((Entries.put entries key p).map (·.2)) := by
  unfold Entries.put
  split
  · refine holds_of_forall fun q member => ?_
    obtain ⟨_, inside, rfl⟩ := List.mem_map.mp member
    obtain ⟨entry, isEntry, rfl⟩ := List.mem_map.mp inside
    split
    · exact value
    · exact holds_of_mem holds (List.mem_map_of_mem isEntry)
  · rw [List.map_append]
    exact holds_append.mpr ⟨holds, value⟩

theorem Holds.field {id : Nat} {entries : List (Atom × Placed)} {key : String} (holds : store.Holds [.map id entries])
    (found : Entries.field? entries key = some p) : store.Holds [p] :=
  holds_of_mem (holds_map.mp holds).2 (mem_of_field? found)

mutual

/-- A node of a store has one tree. -/
theorem eq_of_node : (p q : Placed) → store.Holds [p] → store.Holds [q] → p.node = q.node → p = q
  | .atom a, q, _, _, same => by
    cases q <;> cases same
    rfl
  | .list id items, q, holds, other, same => by
    have here := shape_of_holds holds
    rw [same, shape_of_holds other] at here
    cases q with
    | list at_ others =>
      have nodes := (Shape.list.inj here).symm
      have parts := eq_of_nodes items others (holds_list.mp holds).2 (holds_list.mp other).2 nodes
      rw [Node.cell.inj same, parts]
    | _ => cases here
  | .tuple id items, q, holds, other, same => by
    have here := shape_of_holds holds
    rw [same, shape_of_holds other] at here
    cases q with
    | tuple at_ others =>
      have nodes := (Shape.tuple.inj here).symm
      have parts := eq_of_nodes items others (holds_tuple.mp holds).2 (holds_tuple.mp other).2 nodes
      rw [Node.cell.inj same, parts]
    | _ => cases here
  | .set id members, q, holds, other, same => by
    have here := shape_of_holds holds
    rw [same, shape_of_holds other] at here
    cases q with
    | set at_ others => rw [Node.cell.inj same, Shape.set.inj here]
    | _ => cases here
  | .map id entries, q, holds, other, same => by
    have here := shape_of_holds holds
    rw [same, shape_of_holds other] at here
    cases q with
    | map at_ others =>
      have nodes := (Shape.map.inj here).symm
      have parts := eq_of_nodesUnder entries others (holds_map.mp holds).2 (holds_map.mp other).2 nodes
      rw [Node.cell.inj same, parts]
    | _ => cases here

theorem eq_of_nodes : (ps qs : List Placed) → store.Holds ps → store.Holds qs → ps.map node = qs.map node → ps = qs
  | [], [], _, _, _ => rfl
  | p :: ps, q :: qs, holds, others, same => by
    rw [holds_cons] at holds others
    rw [List.map_cons, List.map_cons, List.cons.injEq] at same
    rw [eq_of_node p q holds.1 others.1 same.1, eq_of_nodes ps qs holds.2 others.2 same.2]

theorem eq_of_nodesUnder : (entries others : List (Atom × Placed)) → store.Holds (entries.map (·.2)) →
    store.Holds (others.map (·.2)) → Entries.mapValues node entries = Entries.mapValues node others → entries = others
  | [], [], _, _, _ => rfl
  | (key, p) :: entries, (name, q) :: others, holds, there, same => by
    rw [List.map_cons, holds_cons] at holds there
    rw [Entries.mapValues_cons, Entries.mapValues_cons, List.cons.injEq, Prod.mk.injEq] at same
    rw [same.1.1, eq_of_node p q holds.1 there.1 same.1.2, eq_of_nodesUnder entries others holds.2 there.2 same.2]

end

mutual

/-- In every cell of a tree a tree stands that is no larger. -/
theorem holds_of_mem_cells {c : Nat} : (p : Placed) → store.Holds [p] → c ∈ Placed.cells [p] →
    ∃ q : Placed, q.node = .cell c ∧ store.Holds [q] ∧ q.layers.length ≤ p.layers.length
  | .list id items, holds, member => by
    rcases List.mem_cons.mp (cells_list id items ▸ member) with rfl | inside
    · exact ⟨_, rfl, holds, Nat.le_refl _⟩
    · obtain ⟨q, isNode, held, fewer⟩ := holds_of_mem_cellsOf items (holds_list.mp holds).2 inside
      exact ⟨q, isNode, held, Nat.le_succ_of_le fewer⟩
  | .tuple id items, holds, member => by
    rw [Placed.cells, layersOf_singleton, layers, List.map_cons] at member
    rcases List.mem_cons.mp member with rfl | inside
    · exact ⟨_, rfl, holds, Nat.le_refl _⟩
    · obtain ⟨q, isNode, held, fewer⟩ := holds_of_mem_cellsOf items (holds_tuple.mp holds).2 inside
      exact ⟨q, isNode, held, Nat.le_succ_of_le fewer⟩
  | .set id members, holds, member => by
    obtain rfl := List.mem_singleton.mp member
    exact ⟨_, rfl, holds, Nat.le_refl _⟩
  | .map id entries, holds, member => by
    rcases List.mem_cons.mp (cells_map id entries ▸ member) with rfl | inside
    · exact ⟨_, rfl, holds, Nat.le_refl _⟩
    · obtain ⟨q, isNode, held, fewer⟩ := holds_of_mem_cellsUnder entries (holds_map.mp holds).2 inside
      exact ⟨q, isNode, held, Nat.le_succ_of_le fewer⟩

theorem holds_of_mem_cellsOf {c : Nat} : (ps : List Placed) → store.Holds ps → c ∈ Placed.cells ps →
    ∃ q : Placed, q.node = .cell c ∧ store.Holds [q] ∧ q.layers.length ≤ (layersOf ps).length
  | p :: rest, holds, member => by
    rw [holds_cons] at holds
    rw [← List.singleton_append, cells_append] at member
    rw [layersOf, List.length_append]
    rcases List.mem_append.mp member with first | later
    · obtain ⟨q, isNode, held, fewer⟩ := holds_of_mem_cells p holds.1 first
      exact ⟨q, isNode, held, by omega⟩
    · obtain ⟨q, isNode, held, fewer⟩ := holds_of_mem_cellsOf rest holds.2 later
      exact ⟨q, isNode, held, by omega⟩

theorem holds_of_mem_cellsUnder {c : Nat} : (entries : List (Atom × Placed)) → store.Holds (entries.map (·.2)) →
    c ∈ Placed.cells (entries.map (·.2)) →
    ∃ q : Placed, q.node = .cell c ∧ store.Holds [q] ∧ q.layers.length ≤ (layersUnder entries).length
  | (key, p) :: rest, holds, member => by
    rw [List.map_cons, holds_cons] at holds
    rw [List.map_cons, ← List.singleton_append, cells_append] at member
    rw [layersUnder, List.length_append]
    rcases List.mem_append.mp member with first | later
    · obtain ⟨q, isNode, held, fewer⟩ := holds_of_mem_cells p holds.1 first
      exact ⟨q, isNode, held, by omega⟩
    · obtain ⟨q, isNode, held, fewer⟩ := holds_of_mem_cellsUnder rest holds.2 later
      exact ⟨q, isNode, held, by omega⟩

end

/-- A container does not stand in itself. -/
theorem notMem_cells {id : Nat} {l : Shape Node} (holds : store.Holds [p]) (isNode : p.node = .cell id)
    (isLayers : p.layers = (id, l) :: layersOf ps) : id ∉ Placed.cells ps := by
  intro member
  have inside : store.Holds ps := fun l within =>
    holds l (by rw [layersOf_singleton, isLayers]; exact List.mem_cons_of_mem _ within)
  obtain ⟨q, sameNode, held, fewer⟩ := holds_of_mem_cellsOf ps inside member
  rw [eq_of_node q p held holds (sameNode.trans isNode.symm), isLayers, List.length_cons] at fewer
  omega

/-- How many cells several trees have, each counted once. -/
def width (ps : List Placed) : Nat := (Placed.cells ps).dedup.length

private theorem width_le {qs : List Placed} (fewer : Placed.cells ps ⊆ Placed.cells qs) : width ps ≤ width qs := by
  refine (List.subperm_of_subset (List.nodup_dedup _) fun c member => ?_).length_le
  exact List.mem_dedup.mpr (fewer (List.mem_dedup.mp member))

private theorem width_cons_le (p : Placed) (rest : List Placed) :
    width [p] ≤ width (p :: rest) ∧ width rest ≤ width (p :: rest) := by
  have both : Placed.cells (p :: rest) = Placed.cells [p] ++ Placed.cells rest := cells_append [p] rest
  refine ⟨width_le ?_, width_le ?_⟩
  · exact both ▸ List.subset_append_left _ _
  · exact both ▸ List.subset_append_right _ _

/-- A container has one cell more than its parts. -/
private theorem width_of_layers {id : Nat} {l : Shape Node} (holds : store.Holds [p]) (isNode : p.node = .cell id)
    (isLayers : p.layers = (id, l) :: layersOf ps) : width [p] = width ps + 1 := by
  have cells : Placed.cells [p] = id :: Placed.cells ps := by
    rw [Placed.cells, layersOf_singleton, isLayers, List.map_cons, Placed.cells]
  rw [width, cells, List.dedup_cons_of_notMem (notMem_cells holds isNode isLayers), List.length_cons, width]

private theorem readTo_node (holds : store.Holds [p]) (depth : Nat) :
    store.readTo (depth + 1) p.node =
      match p.layer.mapParts node with
      | .atom a => .atom a
      | .list items => .list (items.map (store.readTo depth))
      | .tuple items => .tuple (items.map (store.readTo depth))
      | .set members => .set members
      | .map entries => .map (Entries.mapValues (store.readTo depth) entries) := by
  rw [← shape_of_holds holds]
  cases p <;> rfl

mutual

/-- Reading goes at most as deep as there are containers. -/
theorem readTo_of_holds : (p : Placed) → (depth : Nat) → store.Holds [p] → width [p] ≤ depth →
    store.readTo depth p.node = p.tree
  | .atom a, depth, _, _ => by cases depth <;> rfl
  | .list id items, depth, holds, deep => by
    rw [width_of_layers holds rfl rfl] at deep
    obtain ⟨depth, rfl⟩ : ∃ less, depth = less + 1 := ⟨depth - 1, by omega⟩
    have inside := readTo_items items depth (holds_list.mp holds).2 (Nat.le_of_succ_le_succ deep)
    exact (readTo_node holds depth).trans (congrArg Value.list inside)
  | .tuple id items, depth, holds, deep => by
    rw [width_of_layers holds rfl rfl] at deep
    obtain ⟨depth, rfl⟩ : ∃ less, depth = less + 1 := ⟨depth - 1, by omega⟩
    have inside := readTo_items items depth (holds_tuple.mp holds).2 (Nat.le_of_succ_le_succ deep)
    exact (readTo_node holds depth).trans (congrArg Value.tuple inside)
  | .set id members, depth, holds, deep => by
    rw [width_of_layers holds rfl (show _ = _ :: layersOf [] from rfl)] at deep
    obtain ⟨depth, rfl⟩ : ∃ less, depth = less + 1 := ⟨depth - 1, by omega⟩
    exact readTo_node holds depth
  | .map id entries, depth, holds, deep => by
    rw [width_of_layers holds rfl (by rw [layers, layersUnder_eq])] at deep
    obtain ⟨depth, rfl⟩ : ∃ less, depth = less + 1 := ⟨depth - 1, by omega⟩
    have inside := readTo_under entries depth (holds_map.mp holds).2 (Nat.le_of_succ_le_succ deep)
    exact (readTo_node holds depth).trans (congrArg Value.map inside)

theorem readTo_items : (ps : List Placed) → (depth : Nat) → store.Holds ps → width ps ≤ depth →
    (ps.map node).map (store.readTo depth) = trees ps
  | [], _, _, _ => rfl
  | p :: rest, depth, holds, deep => by
    rw [holds_cons] at holds
    have wide := width_cons_le p rest
    rw [List.map_cons, List.map_cons, readTo_of_holds p depth holds.1 (by omega),
      readTo_items rest depth holds.2 (by omega), trees]

theorem readTo_under : (entries : List (Atom × Placed)) → (depth : Nat) → store.Holds (entries.map (·.2)) →
    width (entries.map (·.2)) ≤ depth →
      Entries.mapValues (store.readTo depth) (Entries.mapValues node entries) = treesUnder entries
  | [], _, _, _ => rfl
  | (key, p) :: rest, depth, holds, deep => by
    rw [List.map_cons, holds_cons] at holds
    have wide := width_cons_le p (rest.map (·.2))
    have deep : width (p :: rest.map (·.2)) ≤ depth := deep
    rw [Entries.mapValues_cons, Entries.mapValues_cons, readTo_of_holds p depth holds.1 (by omega),
      readTo_under rest depth holds.2 (by omega), treesUnder]

end

/-- What a store holds is read as it is: there are no more containers than cells. -/
theorem read_of_holds (holds : store.Holds [p]) : store.read p.node = p.tree := by
  have inside : (Placed.cells [p]).dedup ⊆ List.range store.cells.size := fun c member =>
    List.mem_range.mpr (holds.lt_size (List.mem_dedup.mp member))
  have few := (List.subperm_of_subset (List.nodup_dedup _) inside).length_le
  rw [List.length_range] at few
  exact readTo_of_holds p _ holds (Nat.le_succ_of_le few)

end ClientGen.Store
