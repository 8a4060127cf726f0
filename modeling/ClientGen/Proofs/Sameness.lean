import ClientGen.Value.Basic
import Mathlib.Data.List.Nodup

/-!
Sameness of values. What can be the key of a mapping is the same as itself, and sameness of keys does not
depend on the side; nothing but a text is the same as a text.
-/

namespace ClientGen

theorem Binary64.same_refl (x : Binary64) : x.same x = true := by simp [same]

theorem Binary64.same_comm (x y : Binary64) : x.same y = y.same x := by
  simp only [same, eq_comm (a := x), Bool.and_comm x.isZero]

theorem Moment.same_refl (m : Moment) : m.same m = true := by simp [same]

theorem Moment.same_comm (m n : Moment) : m.same n = n.same m := by
  simp only [same, eq_comm (a := m.offset.isSome), eq_comm (a := m.instant)]

namespace Atom

theorem same_refl (a : Atom) : a.same a = true := by
  cases a <;> simp [same, number?, Binary64.same_refl, Moment.same_refl]

theorem same_comm (a b : Atom) : a.same b = b.same a := by
  cases a <;> cases b <;>
    simp [same, number?, Binary64.same_comm, Moment.same_comm, eq_comm]

/-- Nothing but the same text is the same as a text. -/
theorem same_text (a : Atom) (s : String) : a.same (.text s) = decide (a = .text s) := by
  cases a <;> simp [same, number?]

end Atom

namespace Entries

variable {α : Type} {entries : List (Atom × α)} {key : Atom}

/-- The entry that alone has a key. -/
theorem get?_of_mem {entry : Atom × α} (member : entry ∈ entries) (same : entry.1.same key = true)
    (only : ∀ other ∈ entries, other.1.same key = true → other = entry) : get? entries key = some entry.2 := by
  cases found : entries.find? fun other => other.1.same key with
  | none =>
    have differs := List.find?_eq_none.mp found entry member
    exact absurd same differs
  | some other =>
    rw [get?, found, only other (List.mem_of_find?_eq_some found) (by simpa using List.find?_some found)]
    rfl

theorem get?_eq_none (none : ∀ other ∈ entries, other.1.same key = false) : get? entries key = .none := by
  rw [get?, List.find?_eq_none.mpr fun other member => by simp [none other member]]
  rfl

/-- Where every key stands once, the order of the entries does not matter to what is found under a text. -/
theorem field?_of_perm {other : List (Atom × α)} (reordered : entries.Perm other) (nodup : (entries.map (·.1)).Nodup)
    (name : String) : field? other name = field? entries name := by
  cases found : entries.find? fun entry => entry.1.same (.text name) with
  | none =>
    have differs := List.find?_eq_none.mp found
    have nothing : field? entries name = none := by rw [field?, get?, found]; rfl
    rw [nothing]
    refine get?_eq_none fun entry member => ?_
    simpa using differs entry (reordered.mem_iff.mpr member)
  | some entry =>
    have member := List.mem_of_find?_eq_some found
    have same : entry.1.same (.text name) = true := by simpa using List.find?_some found
    have here : field? entries name = some entry.2 := by rw [field?, get?, found]; rfl
    rw [here]
    refine get?_of_mem (reordered.mem_iff.mp member) same fun other' isOther sameOther => ?_
    rw [Atom.same_text, decide_eq_true_eq] at same sameOther
    exact List.inj_on_of_nodup_map nodup (reordered.mem_iff.mpr isOther) member (sameOther.trans same.symm)

end Entries

namespace Value

mutual

theorem same_refl_of_isKey : ∀ (v : Value), v.isKey = true → v.same v = true
  | atom a, _ => a.same_refl
  | tuple items, keys => sameItems_refl_of_areKeys items keys

theorem sameItems_refl_of_areKeys : ∀ (items : List Value), areKeys items = true → sameItems items items = true
  | [], _ => rfl
  | v :: rest, keys => by
    have both := Bool.and_eq_true_iff.mp keys
    simp [sameItems, same_refl_of_isKey v both.1, sameItems_refl_of_areKeys rest both.2]

end

mutual

theorem same_comm_of_isKey : ∀ (v w : Value), v.isKey = true → w.isKey = true → v.same w = w.same v
  | atom a, atom b, _, _ => a.same_comm b
  | atom _, tuple _, _, _ => rfl
  | tuple _, atom _, _, _ => rfl
  | tuple xs, tuple ys, left, right => sameItems_comm_of_areKeys xs ys left right

theorem sameItems_comm_of_areKeys : ∀ (xs ys : List Value), areKeys xs = true → areKeys ys = true →
    sameItems xs ys = sameItems ys xs
  | [], [], _, _ => rfl
  | [], _ :: _, _, _ => rfl
  | _ :: _, [], _, _ => rfl
  | v :: xs, w :: ys, left, right => by
    have first := Bool.and_eq_true_iff.mp left
    have second := Bool.and_eq_true_iff.mp right
    simp only [sameItems, same_comm_of_isKey v w first.1 second.1,
      sameItems_comm_of_areKeys xs ys first.2 second.2]

end

end Value

end ClientGen
