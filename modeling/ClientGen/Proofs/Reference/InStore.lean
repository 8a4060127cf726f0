import ClientGen.Proofs.Reference.Chain
import ClientGen.Proofs.Schema.LiveReading

/-!
Following references in a store. A reference leads to the same place whether the document is read as a tree or as
cells of a store (`tree_resolve`, `on_resolve`): to a tree with its cells. What a node of a store stands for is the last
place of those that its references lead to (`leads_of_deref`), which is what its tree stands for (`Leads.deref_tree`).
-/

namespace ClientGen

open Placed

instance : Reading Placed (Except Fault) where
  shape p := .ok p.layer
  whole p := .ok p.tree
  extent p := .ok p.tree.size

namespace Reference

section

variable {α β : Type}

theorem itemAt?_map (f : α → β) (items : List α) (index : Int) :
    itemAt? (items.map f) index = (itemAt? items index).map f := by
  simp only [itemAt?, List.length_map, List.getElem?_map]
  split
  · rfl
  · split <;> rfl

/-- One step of a reference, from what has been read of a node. -/
def stepFrom (ref : String) (segment : List Char) : Shape α → Except Fault α
  | .map entries =>
    match Entries.field? entries (String.ofList segment) with
    | some next => .ok next
    | none => .error (.reference (.missing ref (String.ofList segment)))
  | .list items =>
    match Number.limitedWhole? segment >>= itemAt? items with
    | some next => .ok next
    | none => .error (.reference (.badIndex ref (String.ofList segment)))
  | other => .error (.reference (.notNavigable ref other.kindName))

/-- A step does not depend on what kind of nodes the parts are. -/
theorem stepFrom_mapParts (h : α → β) (ref : String) (segment : List Char) (s : Shape α) :
    stepFrom ref segment (s.mapParts h) = h <$> stepFrom ref segment s := by
  cases s with
  | map entries =>
    simp only [stepFrom, Shape.mapParts, Entries.field?_mapValues]
    cases Entries.field? entries (String.ofList segment) <;> rfl
  | list items =>
    simp only [stepFrom, Shape.mapParts]
    cases Number.limitedWhole? segment with
    | none => rfl
    | some index =>
      simp only [Option.bind_eq_bind, Option.bind_some, itemAt?_map]
      cases itemAt? items index <;> rfl
  | atom a => cases a <;> rfl
  | _ => rfl

end

variable {crew : Crew} {world : World} {p q document : Placed} {ref : String} {segment : List Char}
  {segments : List (List Char)}

theorem step_placed (p : Placed) : (step ref segment p : Except Fault Placed) = stepFrom ref segment p.layer := by
  cases p <;> rfl

theorem tree_step (p : Placed) :
    (step ref segment p.tree : Except Fault Value) = tree <$> (step ref segment p : Except Fault Placed) := by
  rw [step_placed, ← stepFrom_mapParts, ← shape_tree]
  cases p.tree <;> rfl

theorem on_step (holds : world.store.Holds [p]) :
    ((step ref segment p.node : Live Node) crew).on world =
      (node <$> (step ref segment p : Except Fault Placed), world) := by
  rw [step_placed, ← stepFrom_mapParts, step, Live.on_bind_ok (Live.on_shape _), Store.shape_of_holds holds]
  cases p.layer.mapParts node with
  | map entries =>
    simp only [stepFrom]
    cases Entries.field? entries (String.ofList segment) <;> rfl
  | list items =>
    simp only [stepFrom]
    cases Number.limitedWhole? segment >>= itemAt? items <;> rfl
  | _ => rfl

theorem tree_walk (p : Placed) :
    (walk ref segments p.tree : Except Fault Value) = tree <$> (walk ref segments p : Except Fault Placed) := by
  induction segments generalizing p with
  | nil => rfl
  | cons segment rest ih =>
    rw [walk, walk, tree_step]
    cases (step ref segment p : Except Fault Placed) with
    | error fault => rfl
    | ok next => exact ih next

/-- What a reference leads to in a tree with cells is what it leads to in the tree. -/
theorem tree_resolve (document : Placed) :
    (resolve ref document.tree : Except Fault Value) = tree <$> (resolve ref document : Except Fault Placed) := by
  unfold resolve
  split
  · exact tree_walk document
  · rfl

theorem holds_step {store : Store} (holds : store.Holds [p])
    (stepped : (step ref segment p : Except Fault Placed) = .ok q) : store.Holds [q] := by
  rw [step_placed] at stepped
  cases p with
  | map id entries =>
    simp only [layer, stepFrom] at stepped
    split at stepped
    · rename_i found
      cases stepped
      exact holds.field found
    · cases stepped
  | list id items =>
    simp only [layer, stepFrom] at stepped
    split at stepped
    · rename_i found
      cases stepped
      obtain ⟨index, -, isItem⟩ := Option.bind_eq_some_iff.mp found
      exact Store.holds_of_mem (Store.holds_list.mp holds).2 (mem_of_itemAt? isItem)
    · cases stepped
  | _ => cases stepped

theorem on_walk (holds : world.store.Holds [p]) :
    ((walk ref segments p.node : Live Node) crew).on world =
      (node <$> (walk ref segments p : Except Fault Placed), world) := by
  induction segments generalizing p with
  | nil => rfl
  | cons segment rest ih =>
    have stepped := @on_step crew world p ref segment holds
    rw [walk, walk]
    cases isStep : (step ref segment p : Except Fault Placed) with
    | error fault =>
      rw [isStep] at stepped
      rw [Live.on_bind_error stepped]
      rfl
    | ok next =>
      rw [isStep] at stepped
      rw [Live.on_bind_ok stepped]
      exact ih (holds_step holds isStep)

theorem holds_walk {store : Store} (holds : store.Holds [p])
    (walked : (walk ref segments p : Except Fault Placed) = .ok q) : store.Holds [q] := by
  induction segments generalizing p with
  | nil =>
    cases walked
    exact holds
  | cons segment rest ih =>
    obtain ⟨next, stepped, walked⟩ := bind_eq_ok.mp walked
    exact ih (holds_step holds stepped) walked

/-- What a reference leads to in a store is a tree of the store. -/
theorem on_resolve (holds : world.store.Holds [document]) :
    ((resolve ref document.node : Live Node) crew).on world =
      (node <$> (resolve ref document : Except Fault Placed), world) := by
  rw [resolve, resolve]
  cases segments? ref with
  | some segments => exact on_walk holds
  | none => rfl

theorem holds_resolve {store : Store} (holds : store.Holds [document])
    (resolved : (resolve ref document : Except Fault Placed) = .ok q) : store.Holds [q] := by
  unfold resolve at resolved
  split at resolved
  · exact holds_walk holds resolved
  · cases resolved

/-- References lead from one tree of a document to another, which is no reference itself. -/
inductive Leads (document : Placed) : Placed → Placed → Prop
  | here {p : Placed} (noReference : p.layer.field? "$ref" = none) : Leads document p p
  | on {p next last : Placed} {ref : String} (refers : p.layer.field? "$ref" = some (.atom (.text ref)))
    (leads : (resolve ref document : Except Fault Placed) = .ok next) (rest : Leads document next last) :
    Leads document p last

theorem Leads.unique {last other : Placed} (first : Leads document p last) (second : Leads document p other) :
    last = other := by
  induction first with
  | here noReference =>
    cases second with
    | here => rfl
    | on refers =>
      rw [noReference] at refers
      cases refers
  | on refers leads _ ih =>
    cases second with
    | here noReference =>
      rw [noReference] at refers
      cases refers
    | on refersToo leadsToo rest =>
      rw [refers] at refersToo
      cases refersToo
      rw [leads] at leadsToo
      cases leadsToo
      exact ih rest

/-- What a tree with cells stands for is what the tree stands for. -/
theorem Leads.deref_tree (leads : Leads document p q) :
    (deref p.tree document.tree : Except Fault Value) = .ok q.tree := by
  rw [deref_eq_ok_iff]
  induction leads with
  | here noReference => exact ⟨⟨[], .none _⟩, by rw [field?_tree, noReference, Option.map_none]⟩
  | @on _ _ _ ref refers leads _ ih =>
    obtain ⟨⟨refs, chain⟩, noReference⟩ := ih
    refine ⟨⟨ref :: refs, .more ?_ ?_ chain⟩, noReference⟩
    · rw [field?_tree, refers]
      rfl
    · rw [tree_resolve, leads, except_map_ok]

/-- Only a text is read as a reference. -/
theorem eq_text_of_refText (isText : refText (p.layer.mapParts node) = .ok ref) : p = .atom (.text ref) := by
  cases p with
  | atom a =>
    cases a with
    | text t =>
      cases isText
      rfl
    | _ => cases isText
  | _ => cases isText

/-- Where references are followed in a store, they lead to a tree of the store. -/
theorem leads_of_chase {target : Node} {later : World} {fuel : Nat} {seen : List String}
    (inside : world.store.Holds [document]) (holds : world.store.Holds [p])
    (chased : ((chase document.node fuel seen p.node : Live Node) crew).on world = (.ok target, later)) :
    later = world ∧ ∃ q, target = q.node ∧ world.store.Holds [q] ∧ Leads document p q := by
  induction fuel generalizing seen p with
  | zero => cases chased
  | succ fuel ih =>
    rw [chase, Live.on_bind_ok (Live.on_shape _), Store.shape_of_holds holds, Shape.field?_mapParts] at chased
    cases refers : p.layer.field? "$ref" with
    | none =>
      rw [refers] at chased
      cases chased
      exact ⟨rfl, p, rfl, holds, .here refers⟩
    | some stated =>
      have holdsStated : world.store.Holds [stated] := by
        cases p with
        | map id entries => exact holds.field refers
        | _ => cases refers
      rw [refers, Option.map_some] at chased
      dsimp only at chased
      rw [Live.on_bind_ok (Live.on_shape _), Store.shape_of_holds holdsStated] at chased
      obtain ⟨ref, between, isText, chased⟩ := Live.of_bind_ok chased
      rw [Live.on_lift, Prod.mk.injEq] at isText
      obtain ⟨isText, rfl⟩ := isText
      rw [eq_text_of_refText isText] at refers
      split at chased
      · obtain ⟨_, _, failed, -⟩ := Live.of_bind_ok chased
        cases failed
      · obtain ⟨found, between, resolved, chased⟩ := Live.of_bind_ok chased
        rw [on_resolve inside, Prod.mk.injEq] at resolved
        obtain ⟨next, leads, rfl⟩ := map_eq_ok.mp resolved.1
        obtain rfl := resolved.2
        obtain ⟨same, q, isNode, held, rest⟩ := ih (holds_resolve inside leads) chased
        exact ⟨same, q, isNode, held, .on refers leads rest⟩

/-- What a node of a store stands for is a tree of the store. -/
theorem leads_of_deref {target : Node} {later : World} (inside : world.store.Holds [document])
    (holds : world.store.Holds [p])
    (done : ((deref p.node document.node : Live Node) crew).on world = (.ok target, later)) :
    later = world ∧ ∃ q, target = q.node ∧ world.store.Holds [q] ∧ Leads document p q := by
  have extents : ∀ n : Node, ((extent n : Live Nat) crew).on world = (.ok world.store.cells.size, world) := fun _ => rfl
  rw [deref, Live.on_bind_ok (extents _), Live.on_bind_ok (extents _)] at done
  exact leads_of_chase inside holds done

end Reference

end ClientGen
