import ClientGen.Store.Basic
import Mathlib.Data.List.Perm.Subperm
import Mathlib.Data.List.Nodup

/-!
Trees in a store. A placed tree is a tree with the cells of its containers (`Placed`); a store holds it if each of its
layers stands in its cell. A tree that is put into a store stands there in cells of its own (`insert_becomes`). A step
that works on some trees may change their cells and take new ones, and leaves everything else as it is (`Becomes`); so
it can be followed part by part (`Becomes.among`, `Becomes.map`).
-/

namespace ClientGen

namespace Entries

variable {α β : Type}

/-- Entries with a function applied to their values. -/
def mapValues (h : α → β) (entries : List (Atom × α)) : List (Atom × β) := entries.map fun entry => (entry.1, h entry.2)

@[simp] theorem mapValues_nil (h : α → β) : mapValues h [] = [] := rfl

@[simp] theorem mapValues_cons (h : α → β) (key : Atom) (a : α) (entries : List (Atom × α)) :
    mapValues h ((key, a) :: entries) = (key, h a) :: mapValues h entries := rfl

@[simp] theorem mapValues_append (h : α → β) (first rest : List (Atom × α)) :
    mapValues h (first ++ rest) = mapValues h first ++ mapValues h rest := List.map_append

theorem map_snd_mapValues (h : α → β) (entries : List (Atom × α)) :
    (mapValues h entries).map (·.2) = (entries.map (·.2)).map h := by
  simp [mapValues, Function.comp_def]

theorem field?_mapValues (h : α → β) (entries : List (Atom × α)) (key : String) :
    field? (mapValues h entries) key = (field? entries key).map h := by
  simp [field?, get?, mapValues, List.find?_map, Function.comp_def]

theorem put_mapValues (h : α → β) (entries : List (Atom × α)) (key : Atom) (a : α) :
    put (mapValues h entries) key (h a) = mapValues h (put entries key a) := by
  have same : ((mapValues h entries).any fun entry => entry.1.same key) = entries.any fun entry => entry.1.same key := by
    simp [mapValues, List.any_map, Function.comp_def]
  rw [put, put, same]
  split
  · simp only [mapValues, List.map_map]
    refine List.map_congr_left fun entry _ => ?_
    dsimp only [Function.comp_apply]
    split <;> rfl
  · rw [mapValues_append]
    rfl

end Entries

/-- A shape with a function applied to its parts. -/
def Shape.mapParts {α β : Type} (h : α → β) : Shape α → Shape β
  | atom a => .atom a
  | list items => .list (items.map h)
  | tuple items => .tuple (items.map h)
  | set members => .set members
  | map entries => .map (Entries.mapValues h entries)

/-- A tree with the cells of its containers. -/
inductive Placed where
  | atom (a : Atom)
  | list (id : Nat) (items : List Placed)
  | tuple (id : Nat) (items : List Placed)
  | set (id : Nat) (members : List Atom)
  | map (id : Nat) (entries : List (Atom × Placed))

namespace Placed

/-- Where the tree stands. -/
def node : Placed → Node
  | atom a => .atom a
  | list id _ => .cell id
  | tuple id _ => .cell id
  | set id _ => .cell id
  | map id _ => .cell id

/-- The outermost layer of the tree. -/
def layer : Placed → Shape Placed
  | atom a => .atom a
  | list _ items => .list items
  | tuple _ items => .tuple items
  | set _ members => .set members
  | map _ entries => .map entries

mutual

/-- The tree without its cells. -/
def tree : Placed → Value
  | atom a => .atom a
  | list _ items => .list (trees items)
  | tuple _ items => .tuple (trees items)
  | set _ members => .set members
  | map _ entries => .map (treesUnder entries)

def trees : List Placed → List Value
  | [] => []
  | p :: rest => tree p :: trees rest

def treesUnder : List (Atom × Placed) → List (Atom × Value)
  | [] => []
  | (key, p) :: rest => (key, tree p) :: treesUnder rest

end

mutual

/-- The containers of the tree with their cells. -/
def layers : Placed → List (Nat × Shape Node)
  | atom _ => []
  | list id items => (id, .list (items.map node)) :: layersOf items
  | tuple id items => (id, .tuple (items.map node)) :: layersOf items
  | set id members => [(id, .set members)]
  | map id entries => (id, .map (Entries.mapValues node entries)) :: layersUnder entries

def layersOf : List Placed → List (Nat × Shape Node)
  | [] => []
  | p :: rest => layers p ++ layersOf rest

def layersUnder : List (Atom × Placed) → List (Nat × Shape Node)
  | [] => []
  | (_, p) :: rest => layers p ++ layersUnder rest

end

/-- The cells of several trees. -/
def cells (ps : List Placed) : List Nat := (layersOf ps).map (·.1)

theorem trees_eq (ps : List Placed) : trees ps = ps.map tree := by
  induction ps with
  | nil => rfl
  | cons p rest ih => rw [trees, ih, List.map_cons]

theorem treesUnder_eq (entries : List (Atom × Placed)) : treesUnder entries = Entries.mapValues tree entries := by
  induction entries with
  | nil => rfl
  | cons entry rest ih => rw [treesUnder, ih, Entries.mapValues_cons]

theorem layersUnder_eq (entries : List (Atom × Placed)) : layersUnder entries = layersOf (entries.map (·.2)) := by
  induction entries with
  | nil => rfl
  | cons entry rest ih => rw [layersUnder, ih, List.map_cons, layersOf]

@[simp] theorem layersOf_append (ps qs : List Placed) : layersOf (ps ++ qs) = layersOf ps ++ layersOf qs := by
  induction ps with
  | nil => rfl
  | cons p rest ih => rw [List.cons_append, layersOf, layersOf, ih, List.append_assoc]

@[simp] theorem cells_append (ps qs : List Placed) : cells (ps ++ qs) = cells ps ++ cells qs := by
  rw [cells, layersOf_append, List.map_append, cells, cells]

theorem layersOf_singleton (p : Placed) : layersOf [p] = p.layers := by
  rw [layersOf, layersOf, List.append_nil]

@[simp] theorem cells_list (id : Nat) (items : List Placed) : cells [list id items] = id :: cells items := by
  rw [cells, layersOf_singleton, layers, List.map_cons, cells]

@[simp] theorem cells_map (id : Nat) (entries : List (Atom × Placed)) :
    cells [map id entries] = id :: cells (entries.map (·.2)) := by
  rw [cells, layersOf_singleton, layers, List.map_cons, layersUnder_eq, cells]

end Placed

namespace Store

open Placed

variable {store before middle after : Store} {ps qs rs : List Placed} {p : Placed}

/-- The layers of trees stand in their cells. -/
def Holds (store : Store) (ps : List Placed) : Prop := ∀ l ∈ layersOf ps, store.cells[l.1]? = some l.2

theorem holds_append : store.Holds (ps ++ qs) ↔ store.Holds ps ∧ store.Holds qs := by
  simp only [Holds, layersOf_append, List.mem_append]
  constructor
  · exact fun holds => ⟨fun l member => holds l (.inl member), fun l member => holds l (.inr member)⟩
  · rintro ⟨first, second⟩ l (member | member)
    · exact first l member
    · exact second l member

theorem holds_cons : store.Holds (p :: qs) ↔ store.Holds [p] ∧ store.Holds qs :=
  @holds_append store [p] qs

theorem holds_list {id : Nat} {items : List Placed} :
    store.Holds [.list id items] ↔ store.cells[id]? = some (.list (items.map node)) ∧ store.Holds items := by
  rw [Holds, layersOf_singleton, layers, List.forall_mem_cons, Holds]

theorem holds_tuple {id : Nat} {items : List Placed} :
    store.Holds [.tuple id items] ↔ store.cells[id]? = some (.tuple (items.map node)) ∧ store.Holds items := by
  rw [Holds, layersOf_singleton, layers, List.forall_mem_cons, Holds]

theorem holds_set {id : Nat} {members : List Atom} :
    store.Holds [.set id members] ↔ store.cells[id]? = some (.set members) := by
  rw [Holds, layersOf_singleton, layers, List.forall_mem_singleton]

theorem holds_map {id : Nat} {entries : List (Atom × Placed)} :
    store.Holds [.map id entries] ↔
      store.cells[id]? = some (.map (Entries.mapValues node entries)) ∧ store.Holds (entries.map (·.2)) := by
  rw [Holds, layersOf_singleton, layers, List.forall_mem_cons, layersUnder_eq, Holds]

/-- Whatever a store holds is among its cells. -/
theorem Holds.lt_size (holds : store.Holds ps) {c : Nat} (member : c ∈ Placed.cells ps) : c < store.cells.size := by
  obtain ⟨l, inside, rfl⟩ := List.mem_map.mp member
  exact (Array.getElem?_eq_some_iff.mp (holds l inside)).1

theorem shape_of_holds (holds : store.Holds [p]) : store.shape p.node = p.layer.mapParts node := by
  cases p with
  | atom a => rfl
  | list id items => rw [node, shape, (holds_list.mp holds).1]; rfl
  | tuple id items => rw [node, shape, (holds_tuple.mp holds).1]; rfl
  | set id members => rw [node, shape, holds_set.mp holds]; rfl
  | map id entries => rw [node, shape, (holds_map.mp holds).1]; rfl

/-- A store holds trees that share no container. -/
structure Stands (store : Store) (ps : List Placed) : Prop where
  holds : store.Holds ps
  apart : (Placed.cells ps).Nodup

/-- Each of several trees stands for itself. -/
theorem Stands.part (stands : store.Stands ps) (member : p ∈ ps) : store.Stands [p] := by
  obtain ⟨front, back, rfl⟩ := List.append_of_mem member
  obtain ⟨holds, apart⟩ := stands
  rw [holds_append, holds_cons] at holds
  rw [cells_append, ← List.singleton_append, cells_append] at apart
  exact ⟨holds.2.1, (List.nodup_append.mp (List.nodup_append.mp apart).2.1).1⟩

theorem Stands.list_items {id : Nat} {items : List Placed} (stands : store.Stands [.list id items]) :
    store.Stands items := by
  obtain ⟨holds, apart⟩ := stands
  rw [cells_list] at apart
  exact ⟨(holds_list.mp holds).2, (List.nodup_cons.mp apart).2⟩

theorem Stands.map_entries {id : Nat} {entries : List (Atom × Placed)} (stands : store.Stands [.map id entries]) :
    store.Stands (entries.map (·.2)) := by
  obtain ⟨holds, apart⟩ := stands
  rw [cells_map] at apart
  exact ⟨(holds_map.mp holds).2, (List.nodup_cons.mp apart).2⟩

theorem mem_of_field? {entries : List (Atom × Placed)} {key : String} (found : Entries.field? entries key = some p) :
    p ∈ entries.map (·.2) := by
  obtain ⟨entry, isEntry, rfl⟩ := Option.map_eq_some_iff.mp found
  exact List.mem_map_of_mem (List.mem_of_find?_eq_some isEntry)

theorem Stands.field {id : Nat} {entries : List (Atom × Placed)} {key : String} (stands : store.Stands [.map id entries])
    (found : Entries.field? entries key = some p) : store.Stands [p] :=
  stands.map_entries.part (mem_of_field? found)

theorem Stands.split {rest : List Placed} (stands : store.Stands (p :: rest)) : store.Stands [p] ∧ store.Stands rest := by
  refine ⟨stands.part List.mem_cons_self, (holds_cons.mp stands.holds).2, ?_⟩
  have apart := stands.apart
  rw [← List.singleton_append, cells_append] at apart
  exact (List.nodup_append.mp apart).2.1

/-! ### Steps -/

/-- A step has turned trees into others: it may change their cells and take new ones, and nothing else. -/
structure Becomes (before after : Store) (ps qs : List Placed) : Prop where
  stands : after.Stands qs
  own : ∀ c ∈ Placed.cells qs, c ∈ Placed.cells ps ∨ before.cells.size ≤ c
  frame : ∀ c < before.cells.size, c ∉ Placed.cells ps → after.cells[c]? = before.cells[c]?
  grows : before.cells.size ≤ after.cells.size

theorem Becomes.refl (stands : store.Stands ps) : store.Becomes store ps ps where
  stands := stands
  own _ member := .inl member
  frame _ _ _ := rfl
  grows := Nat.le_refl _

theorem Becomes.trans (first : before.Becomes middle ps qs) (second : middle.Becomes after qs rs) :
    before.Becomes after ps rs where
  stands := second.stands
  own c member := by
    rcases second.own c member with earlier | new
    · exact first.own c earlier
    · exact .inr (Nat.le_trans first.grows new)
  frame c old others := by
    have kept : c ∉ Placed.cells qs := by
      intro member
      rcases first.own c member with earlier | new
      · exact others earlier
      · omega
    have grows := first.grows
    rw [second.frame c (by omega) kept, first.frame c old others]
  grows := Nat.le_trans first.grows second.grows

/-- Trees that share no cell with those a step works on stay as they are. -/
theorem Becomes.holds (step : before.Becomes after ps qs) (holds : before.Holds rs)
    (others : ∀ c ∈ Placed.cells rs, c ∉ Placed.cells ps) : after.Holds rs := by
  intro l inside
  have member : l.1 ∈ Placed.cells rs := List.mem_map_of_mem inside
  rw [step.frame l.1 (holds.lt_size member) (others l.1 member), holds l inside]

/-- A step may take place among other trees. -/
theorem Becomes.among {front back : List Placed} (step : before.Becomes after ps qs)
    (stands : before.Stands (front ++ ps ++ back)) :
    before.Becomes after (front ++ ps ++ back) (front ++ qs ++ back) := by
  obtain ⟨holds, apart⟩ := stands
  rw [holds_append, holds_append] at holds
  obtain ⟨⟨inFront, -⟩, inBack⟩ := holds
  simp only [cells_append, List.nodup_append] at apart
  obtain ⟨⟨frontApart, -, beforeParts⟩, backApart, beforeBack⟩ := apart
  have frontKept : ∀ c ∈ Placed.cells front, c ∉ Placed.cells ps := fun c member isPart => beforeParts c member c isPart rfl
  have backKept : ∀ c ∈ Placed.cells back, c ∉ Placed.cells ps := fun c member isPart =>
    beforeBack c (List.mem_append_right _ isPart) c member rfl
  refine ⟨⟨?_, ?_⟩, ?_, ?_, step.grows⟩
  · rw [holds_append, holds_append]
    exact ⟨⟨step.holds inFront frontKept, step.stands.holds⟩, step.holds inBack backKept⟩
  · simp only [cells_append, List.nodup_append, List.mem_append]
    refine ⟨⟨frontApart, step.stands.apart, ?_⟩, backApart, ?_⟩
    · rintro c member d isPart rfl
      rcases step.own c isPart with old | new
      · exact frontKept c member old
      · exact Nat.not_lt.mpr new (inFront.lt_size member)
    · rintro c (member | isPart) d isBack rfl
      · exact beforeBack c (List.mem_append_left _ member) c isBack rfl
      · rcases step.own c isPart with old | new
        · exact backKept c isBack old
        · exact Nat.not_lt.mpr new (inBack.lt_size isBack)
  · intro c member
    simp only [cells_append, List.mem_append] at member ⊢
    rcases member with (inFront | isPart) | inBack
    · exact .inl (.inl (.inl inFront))
    · rcases step.own c isPart with old | new
      · exact .inl (.inl (.inr old))
      · exact .inr new
    · exact .inl (.inr inBack)
  · intro c old others
    simp only [cells_append, List.mem_append, not_or] at others
    exact step.frame c old others.1.2

/-- A step on the first of several trees. -/
theorem Becomes.head {q : Placed} {rest : List Placed} (step : before.Becomes after [p] [q])
    (stands : before.Stands (p :: rest)) : before.Becomes after (p :: rest) (q :: rest) :=
  @Becomes.among before after [p] [q] [] rest step stands

/-- A step on the first of several trees, and then one on the others. -/
theorem Becomes.cons {q : Placed} {rest others : List Placed} (first : before.Becomes middle [p] [q])
    (stands : before.Stands (p :: rest)) (second : middle.Becomes after rest others) :
    before.Becomes after (p :: rest) (q :: others) := by
  have moved := first.head stands
  have later := @Becomes.among middle after rest others [q] [] second (by simpa using moved.stands)
  simp only [List.append_nil, List.singleton_append] at later
  exact moved.trans later

/-- A step may take place inside a container. -/
theorem Becomes.under {id : Nat} {l : Shape Node} {q : Placed} (step : before.Becomes after ps qs)
    (stands : before.Stands [p]) (isBefore : p.layers = (id, l) :: layersOf ps)
    (isAfter : q.layers = (id, l) :: layersOf qs) : before.Becomes after [p] [q] := by
  have beforeCells : Placed.cells [p] = id :: Placed.cells ps := by
    rw [Placed.cells, layersOf_singleton, isBefore, List.map_cons, Placed.cells]
  have afterCells : Placed.cells [q] = id :: Placed.cells qs := by
    rw [Placed.cells, layersOf_singleton, isAfter, List.map_cons, Placed.cells]
  have old : id < before.cells.size := stands.holds.lt_size (by rw [beforeCells]; exact List.mem_cons_self)
  have apart := stands.apart
  rw [beforeCells, List.nodup_cons] at apart
  refine ⟨⟨?_, ?_⟩, ?_, ?_, step.grows⟩
  · intro m inside
    rw [layersOf_singleton, isAfter, List.mem_cons] at inside
    rcases inside with rfl | inside
    · have here : before.cells[id]? = some l :=
        stands.holds (id, l) (by rw [layersOf_singleton, isBefore]; exact List.mem_cons_self)
      rw [step.frame id old apart.1, here]
    · exact step.stands.holds m inside
  · rw [afterCells, List.nodup_cons]
    refine ⟨fun member => ?_, step.stands.apart⟩
    rcases step.own id member with inside | new
    · exact apart.1 inside
    · omega
  · intro c member
    rw [afterCells, List.mem_cons] at member
    rw [beforeCells, List.mem_cons]
    rcases member with rfl | member
    · exact .inl (.inl rfl)
    · rcases step.own c member with inside | new
      · exact .inl (.inr inside)
      · exact .inr new
  · intro c isOld others
    rw [beforeCells, List.mem_cons, not_or] at others
    exact step.frame c isOld others.2

theorem Becomes.list {id : Nat} {items others : List Placed} (step : before.Becomes after items others)
    (stands : before.Stands [.list id items]) (nodes : others.map node = items.map node) :
    before.Becomes after [.list id items] [.list id others] :=
  step.under stands rfl (by rw [layers, nodes])

theorem Becomes.map {id : Nat} {entries others : List (Atom × Placed)}
    (step : before.Becomes after (entries.map (·.2)) (others.map (·.2))) (stands : before.Stands [.map id entries])
    (nodes : Entries.mapValues node others = Entries.mapValues node entries) :
    before.Becomes after [.map id entries] [.map id others] :=
  step.under stands (by rw [layers, layersUnder_eq]) (by rw [layers, layersUnder_eq, nodes])

/-- A new container stands in a new cell. -/
theorem Becomes.add {l : Shape Node} (step : before.Becomes middle [] ps)
    (isNew : p.layers = (middle.cells.size, l) :: layersOf ps) : before.Becomes (middle.add l).2 [] [p] := by
  have newCells : Placed.cells [p] = middle.cells.size :: Placed.cells ps := by
    rw [Placed.cells, layersOf_singleton, isNew, List.map_cons, Placed.cells]
  have pushed : ∀ c < middle.cells.size, (middle.add l).2.cells[c]? = middle.cells[c]? := fun c old => by
    rw [Store.add, Array.getElem?_push, if_neg (by omega)]
  refine ⟨⟨?_, ?_⟩, ?_, ?_, ?_⟩
  · intro m inside
    rw [layersOf_singleton, isNew, List.mem_cons] at inside
    rcases inside with rfl | inside
    · rw [Store.add, Array.getElem?_push_size]
    · rw [pushed m.1 (step.stands.holds.lt_size (List.mem_map_of_mem inside)), step.stands.holds m inside]
  · rw [newCells, List.nodup_cons]
    refine ⟨fun member => ?_, step.stands.apart⟩
    have := step.stands.holds.lt_size member
    omega
  · intro c member
    rw [newCells, List.mem_cons] at member
    rcases member with rfl | member
    · exact .inr step.grows
    · exact step.own c member
  · intro c old others
    have grows := step.grows
    rw [pushed c (by omega), step.frame c old others]
  · have grows := step.grows
    rw [Store.add, Array.size_push]
    omega

/-- New trees stand next to those before them. -/
theorem Becomes.append (first : before.Becomes middle [] ps) (second : middle.Becomes after [] qs) :
    before.Becomes after [] (ps ++ qs) := by
  have beside := @Becomes.among _ _ _ _ ps [] second (by simpa using first.stands)
  simp only [List.append_nil] at beside
  exact first.trans beside

theorem becomes_nil : store.Becomes store [] [] :=
  .refl ⟨fun _ member => absurd member List.not_mem_nil, List.nodup_nil⟩

theorem becomes_atom (a : Atom) : store.Becomes store [] [.atom a] where
  stands := ⟨becomes_nil.stands.holds, List.nodup_nil⟩
  own _ member := absurd member List.not_mem_nil
  frame _ _ _ := rfl
  grows := Nat.le_refl _

mutual

/-- A tree that is put into a store stands there, in cells of its own. -/
theorem insert_becomes : (v : Value) → (store : Store) →
    ∃ p : Placed, p.node = (store.insert v).1 ∧ p.tree = v ∧ store.Becomes (store.insert v).2 [] [p]
  | .atom a, store => ⟨.atom a, rfl, rfl, becomes_atom a⟩
  | .list items, store => by
    obtain ⟨ps, nodes, rfl, step⟩ := insertItems_becomes items store
    refine ⟨.list _ ps, rfl, rfl, step.add ?_⟩
    rw [layers, nodes]
  | .tuple items, store => by
    obtain ⟨ps, nodes, rfl, step⟩ := insertItems_becomes items store
    refine ⟨.tuple _ ps, rfl, rfl, step.add ?_⟩
    rw [layers, nodes]
  | .set members, store => ⟨.set _ members, rfl, rfl, becomes_nil.add rfl⟩
  | .map entries, store => by
    obtain ⟨placed, nodes, rfl, step⟩ := insertEntries_becomes entries store
    refine ⟨.map _ placed, rfl, rfl, step.add ?_⟩
    rw [layers, nodes, layersUnder_eq]

theorem insertItems_becomes : (items : List Value) → (store : Store) →
    ∃ ps : List Placed, ps.map node = (store.insertItems items).1 ∧ trees ps = items ∧
      store.Becomes (store.insertItems items).2 [] ps
  | [], store => ⟨[], rfl, rfl, becomes_nil⟩
  | v :: rest, store => by
    obtain ⟨p, isNode, isTree, first⟩ := insert_becomes v store
    obtain ⟨ps, nodes, areTrees, second⟩ := insertItems_becomes rest (store.insert v).2
    refine ⟨p :: ps, ?_, ?_, first.append second⟩
    · rw [List.map_cons, isNode, nodes]
      rfl
    · rw [trees, isTree, areTrees]

theorem insertEntries_becomes : (entries : List (Atom × Value)) → (store : Store) →
    ∃ placed : List (Atom × Placed), Entries.mapValues node placed = (store.insertEntries entries).1 ∧
      treesUnder placed = entries ∧ store.Becomes (store.insertEntries entries).2 [] (placed.map (·.2))
  | [], store => ⟨[], rfl, rfl, becomes_nil⟩
  | (key, v) :: rest, store => by
    obtain ⟨p, isNode, isTree, first⟩ := insert_becomes v store
    obtain ⟨placed, nodes, areTrees, second⟩ := insertEntries_becomes rest (store.insert v).2
    refine ⟨(key, p) :: placed, ?_, ?_, first.append second⟩
    · rw [Entries.mapValues_cons, isNode, nodes]
      rfl
    · rw [treesUnder, isTree, areTrees]

end

/-- A mapping may get new trees for its entries. -/
theorem Becomes.replace {id : Nat} {entries others : List (Atom × Placed)}
    (step : before.Becomes middle [] (others.map (·.2))) (stands : before.Stands [.map id entries]) :
    before.Becomes (middle.update id (.map (Entries.mapValues node others))) [.map id entries] [.map id others] := by
  have old : id < before.cells.size := stands.holds.lt_size (by rw [cells_map]; exact List.mem_cons_self)
  have grows := step.grows
  have kept : ∀ c ≠ id, (middle.update id (.map (Entries.mapValues node others))).cells[c]? = middle.cells[c]? :=
    fun c differ => Array.getElem?_setIfInBounds_ne differ.symm
  have apart : ∀ c ∈ Placed.cells (others.map (·.2)), before.cells.size ≤ c := fun c member =>
    (step.own c member).resolve_left List.not_mem_nil
  refine ⟨⟨?_, ?_⟩, ?_, ?_, ?_⟩
  · rw [holds_map]
    refine ⟨Array.getElem?_setIfInBounds_self_of_lt (by omega), fun l inside => ?_⟩
    have new := apart l.1 (List.mem_map_of_mem inside)
    rw [kept l.1 (by omega), step.stands.holds l inside]
  · rw [cells_map, List.nodup_cons]
    refine ⟨fun member => ?_, step.stands.apart⟩
    have := apart id member
    omega
  · intro c member
    rw [cells_map, List.mem_cons] at member
    rcases member with rfl | member
    · exact .inl (by rw [cells_map]; exact List.mem_cons_self)
    · exact .inr (apart c member)
  · intro c isOld others
    rw [cells_map, List.mem_cons, not_or] at others
    rw [kept c others.1, step.frame c isOld List.not_mem_nil]
  · rw [Store.update, Array.size_setIfInBounds]
    exact grows

end Store

end ClientGen
