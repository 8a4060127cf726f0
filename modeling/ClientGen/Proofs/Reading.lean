import ClientGen.Reading
import Mathlib.Data.List.Forall2

/-!
Reading trees. Where documents are trees that cannot change, every step of reading succeeds at once with
what stands there; these equations open the rules that are written for every kind of document.
-/

namespace ClientGen

namespace Value

@[simp] theorem shape_atom (a : Atom) : (atom a).shape = .atom a := rfl
@[simp] theorem shape_list (items : List Value) : (list items).shape = .list items := rfl
@[simp] theorem shape_tuple (items : List Value) : (tuple items).shape = .tuple items := rfl
@[simp] theorem shape_set (members : List Atom) : (set members).shape = .set members := rfl
@[simp] theorem shape_map (entries : List (Atom × Value)) : (map entries).shape = .map entries := rfl

theorem eq_of_isText {v : Value} {text : String} (isText : v.shape.isText text = true) : v = .text text := by
  cases v with
  | atom a =>
    cases a with
    | text t => rw [of_decide_eq_true isText]
    | _ => cases isText
  | _ => cases isText

end Value

section

variable {α β : Type}

@[simp] theorem except_bind_ok (a : α) (f : α → Except Fault β) : (Except.ok a >>= f) = f a := rfl

@[simp] theorem except_bind_error (fault : Fault) (f : α → Except Fault β) :
    ((Except.error fault : Except Fault α) >>= f) = .error fault := rfl

@[simp] theorem except_pure (a : α) : (pure a : Except Fault α) = .ok a := rfl

@[simp] theorem except_map_ok (f : α → β) (a : α) :
    (f <$> (Except.ok a : Except Fault α)) = .ok (f a) := rfl

@[simp] theorem except_throw (fault : Fault) : (throw fault : Except Fault α) = .error fault := rfl

@[simp] theorem lift_except (r : Except Fault α) : (lift r : Except Fault α) = r := by
  cases r <;> rfl

theorem bind_eq_ok {r : Except Fault α} {f : α → Except Fault β} {b : β} :
    (r >>= f) = .ok b ↔ ∃ a, r = .ok a ∧ f a = .ok b := by
  cases r <;> simp

theorem map_eq_ok {r : Except Fault α} {f : α → β} {b : β} :
    (f <$> r) = .ok b ↔ ∃ a, r = .ok a ∧ f a = b := by
  cases r with
  | ok a => simp
  | error fault => exact ⟨nofun, nofun⟩

@[simp] theorem shape_except (v : Value) : (shape v : Except Fault (Shape Value)) = .ok v.shape := rfl

@[simp] theorem whole_except (v : Value) : (whole v : Except Fault Value) = .ok v := rfl

@[simp] theorem isTrue_except (node : Option Value) :
    (isTrue node : Except Fault Bool) = .ok ((node.map Value.truthy).getD false) := by
  cases node <;> rfl

@[simp] theorem wholeOf_except (node : Option Value) : (wholeOf node : Except Fault (Option Value)) = .ok node := by
  cases node <;> rfl

theorem ifTrue_except (node : Option Value) :
    (ifTrue node : Except Fault (Option Value)) = .ok (node.filter Value.truthy) := by
  cases node with
  | none => rfl
  | some v => cases truthy : v.truthy <;> simp [ifTrue, truthy, Option.filter]

theorem shown_of_isWritable {v : Value} (writable : v.isWritable = true) : v.shown = .ok v.displayed := by
  rw [Value.shown, if_pos writable]

end

/-- Where lists are related item by item, every item of the first has one of the second. -/
theorem mem_of_forall₂ {α β : Type} {R : α → β → Prop} {xs : List α} {ys : List β}
    (related : List.Forall₂ R xs ys) {x : α} (member : x ∈ xs) : ∃ y ∈ ys, R x y := by
  induction related with
  | nil => cases member
  | cons first _ ih =>
    rcases List.mem_cons.mp member with rfl | later
    · exact ⟨_, List.mem_cons_self, first⟩
    · obtain ⟨y, found, holds⟩ := ih later
      exact ⟨y, List.mem_cons_of_mem _ found, holds⟩

theorem fieldOf_ok {node : Value} {name : String} {found : Option Value}
    (done : (fieldOf node name : Except Fault (Option Value)) = .ok found) : found = node.field? name := by
  cases node with
  | map entries => exact (Except.ok.inj done).symm
  | _ => cases done

theorem field?_of_falsy {v : Value} (falsy : v.truthy = false) (key : String) : v.field? key = none := by
  cases v with
  | map entries =>
    cases entries with
    | nil => rfl
    | cons => cases falsy
  | _ => rfl

theorem fieldOf_of_isMap {node : Value} (isMap : node.shape.isMap = true) (key : String) :
    (fieldOf node key : Except Fault (Option Value)) = .ok (node.field? key) := by
  cases node with
  | map fields => rfl
  | _ => cases isMap

end ClientGen
