import ClientGen.Proofs.Literal.Reader
import ClientGen.Proofs.Number.Rounding
import ClientGen.Proofs.Sameness
import ClientGen.Syntax.Printer

/-!
Plain values and their expressions. A plain value consists of null, truth values, whole numbers, finite numbers, texts,
lists, tuples and mappings from texts. Its expression evaluates to the value (`value?_literal`), and is printed as the
value is written (`render_literal`).
-/

namespace ClientGen

namespace Atom

/-- Null, a truth value, a whole number of not too many digits, a finite number or a text. -/
def IsPlain : Atom → Prop
  | null | bool _ | text _ => True
  | int n => (int n).isWritable = true
  | float x => x.IsProper
  | _ => False

/-- A text; only texts are keys of plain mappings. -/
def IsText (a : Atom) : Prop := ∃ s, a = text s

end Atom

namespace Value

mutual

/-- A value made of plain atoms in lists, tuples and mappings from texts. -/
def IsPlain : Value → Prop
  | atom a => a.IsPlain
  | list items => ArePlain items
  | tuple items => ArePlain items
  | set _ => False
  | map entries => HavePlain entries ∧ (entries.map (·.1)).Nodup

def ArePlain : List Value → Prop
  | [] => True
  | v :: rest => IsPlain v ∧ ArePlain rest

def HavePlain : List (Atom × Value) → Prop
  | [] => True
  | (k, v) :: rest => k.IsText ∧ IsPlain v ∧ HavePlain rest

end

end Value

namespace Literal

open ClientGen.Expr (ofAtom literal literals literalEntries)

/-! ### Evaluation -/

theorem value?_ofAtom {a : Atom} (plain : a.IsPlain) : value? (ofAtom a) = some (.atom a) := by
  cases a with
  | null | bool | text => rfl
  | int n =>
    rw [ofAtom, Expr.ofInt]
    split
    · simp [value?, negated?]
    · rfl
  | float x =>
    cases x with
    | finite negative m e => cases negative <;> rfl
    | infinite | nan => exact plain.elim
  | bytes | date | moment => exact plain.elim

/-- Entries whose keys are new and differ from each other are put behind those that there are. -/
theorem put_of_not_mem {α : Type} {done : List (Atom × α)} {name : String} (new : Atom.text name ∉ done.map (·.1)) (v : α) :
    Entries.put done (.text name) v = done ++ [(.text name, v)] := by
  have differs : (done.any fun entry => entry.1.same (.text name)) = false := by
    rw [List.any_eq_false]
    intro entry member
    rw [Atom.same_text, decide_eq_true_eq]
    exact fun same => new (List.mem_map.mpr ⟨entry, member, same⟩)
  rw [Entries.put, if_neg (by rw [differs]; exact Bool.false_ne_true)]

mutual

/-- The expression of a plain value evaluates to the value. -/
theorem value?_literal : ∀ {v : Value}, v.IsPlain → value? (literal v) = some v
  | .atom _, plain => value?_ofAtom plain
  | .list items, plain => by rw [literal, value?, values?_literals plain]; rfl
  | .tuple items, plain => by rw [literal, value?, values?_literals plain]; rfl
  | .map entries, plain => by
    rw [literal, value?, mapping?_literalEntries plain.1 [] (by simpa using plain.2)]
    rfl

theorem values?_literals : ∀ {items : List Value}, Value.ArePlain items → values? (literals items) = some items
  | [], _ => rfl
  | v :: rest, plain => by
    rw [literals, values?, value?_literal plain.1, values?_literals plain.2]
    rfl

theorem mapping?_literalEntries : ∀ {entries : List (Atom × Value)}, Value.HavePlain entries →
    ∀ done, ((done ++ entries).map (·.1)).Nodup → mapping? done (literalEntries entries) = some (done ++ entries)
  | [], _, done, _ => by rw [literalEntries, mapping?, List.append_nil]
  | (k, v) :: rest, ⟨⟨name, isText⟩, plain, others⟩, done, nodup => by
    subst isText
    have new : Atom.text name ∉ done.map (·.1) := by
      rw [List.map_append, List.map_cons] at nodup
      exact fun member => List.disjoint_of_nodup_append nodup member List.mem_cons_self
    have later := mapping?_literalEntries others (done ++ [(.text name, v)]) (by simpa using nodup)
    have key : value? (ofAtom (.text name)) = some (.atom (.text name)) := rfl
    rw [literalEntries, mapping?, key, value?_literal plain]
    simpa [put_of_not_mem new] using later

end

/-! ### Printing -/

theorem render_ofAtom {a : Atom} (plain : a.IsPlain) : (ofAtom a).render = a.written := by
  cases a with
  | null | bool | text => rfl
  | int n =>
    cases n with
    | ofNat n => rfl
    | negSucc n =>
      rw [ofAtom, Expr.ofInt, if_pos (Int.negSucc_lt_zero n)]
      rfl
  | float x =>
    cases x with
    | finite negative m e =>
      cases negative with
      | false => rfl
      | true =>
        -- layouts differ only in what is not finite, and a constant has no sign of its own
        have unsigned : (Expr.constant (.float (.finite false m e))).render =
            Binary64.layoutDecimal Binary64.plainLayout (Binary64.shortest m e) := rfl
        rw [ofAtom, Expr.ofFloat, Expr.render, unsigned]
        rfl
    | infinite | nan => exact plain.elim
  | bytes | date | moment => exact plain.elim

theorem length_literals (items : List Value) : (literals items).length = items.length := by
  induction items with
  | nil => rfl
  | cons v rest ih => rw [literals, List.length_cons, List.length_cons, ih]

mutual

/-- The expression of a plain value is printed as the value is written. -/
theorem render_literal : ∀ {v : Value}, v.IsPlain → (literal v).render = v.written
  | .atom _, plain => render_ofAtom plain
  | .list _, plain => by rw [literal, Expr.render, renderAll_literals plain, Value.written]
  | .tuple _, plain => by rw [literal, Expr.render, renderAll_literals plain, length_literals, Value.written]
  | .map _, plain => by rw [literal, Expr.render, renderEntries_literalEntries plain.1, Value.written]

theorem renderAll_literals : ∀ {items : List Value}, Value.ArePlain items →
    Expr.renderAll (literals items) = Value.writtenItems items
  | [], _ => rfl
  | _ :: _, plain => by
    rw [literals, Expr.renderAll, render_literal plain.1, renderAll_literals plain.2, Value.writtenItems]

theorem renderEntries_literalEntries : ∀ {entries : List (Atom × Value)}, Value.HavePlain entries →
    Expr.renderEntries (literalEntries entries) = Value.writtenEntries entries
  | [], _ => rfl
  | (k, v) :: rest, ⟨⟨name, isText⟩, plain, others⟩ => by
    have key : (ofAtom k).render = k.written := by rw [isText]; rfl
    rw [literalEntries, Expr.renderEntries, key, render_literal plain, renderEntries_literalEntries others,
      Value.writtenEntries]

end

theorem isWritable_ofAtom {a : Atom} (plain : a.IsPlain) : (ofAtom a).isWritable = true := by
  cases a with
  | null | bool | text => rfl
  | int n =>
    have few : (Atom.int n).isWritable = true := plain
    have same : (Atom.int (-n)).isWritable = (Atom.int n).isWritable := by
      rw [Atom.isWritable, Atom.isWritable, Int.natAbs_neg]
    rw [ofAtom, Expr.ofInt]
    split
    · rw [Expr.isWritable, Expr.isWritable, Value.isWritable, same, few]
    · rw [Expr.isWritable, Value.isWritable, few]
  | float x =>
    cases x with
    | finite negative m e => cases negative <;> rfl
    | infinite | nan => exact plain.elim
  | bytes | date | moment => exact plain.elim

mutual

/-- The expression of a plain value can be printed. -/
theorem isWritable_literal : ∀ {v : Value}, v.IsPlain → (literal v).isWritable = true
  | .atom _, plain => isWritable_ofAtom plain
  | .list _, plain => by rw [literal, Expr.isWritable, areWritable_literals plain]
  | .tuple _, plain => by rw [literal, Expr.isWritable, areWritable_literals plain]
  | .map _, plain => by rw [literal, Expr.isWritable, haveWritable_literalEntries plain.1]

theorem areWritable_literals : ∀ {items : List Value}, Value.ArePlain items → Expr.areWritable (literals items) = true
  | [], _ => rfl
  | _ :: _, plain => by
    rw [literals, Expr.areWritable, isWritable_literal plain.1, areWritable_literals plain.2]
    rfl

theorem haveWritable_literalEntries : ∀ {entries : List (Atom × Value)}, Value.HavePlain entries →
    Expr.haveWritable (literalEntries entries) = true
  | [], _ => rfl
  | (k, v) :: rest, ⟨⟨name, isText⟩, plain, others⟩ => by
    have key : (ofAtom k).isWritable = true := by rw [isText]; rfl
    rw [literalEntries, Expr.haveWritable, key, isWritable_literal plain, haveWritable_literalEntries others]
    rfl

end

/-- The expression of a plain value is printed, as the value is written. -/
theorem shown_literal {v : Value} (plain : v.IsPlain) : (literal v).shown = .ok v.written := by
  rw [Expr.shown, if_pos (isWritable_literal plain), render_literal plain]

end Literal

end ClientGen
