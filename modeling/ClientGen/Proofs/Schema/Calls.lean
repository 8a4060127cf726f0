import ClientGen.Proofs.Reference.Chain
import ClientGen.Proofs.Reference.Index
import ClientGen.Proofs.Schema.Sequence
import Mathlib.Order.Lattice.Nat

/-!
Which conversions a conversion calls for. A schema is converted with the schemas that its type is built from: the parts
of its form, as far as they come up, with the copies for several types among them, and the end of the chain of references
where it is a reference that is followed (`Calls`). For a component that it refers to by name nothing is called for.

A conversion that has not run out of steps leaves one step less for whatever it calls for (`Calls.halts`), and it does not
run out of them if nothing that it calls for does (`halts_of_calls`). The smallest number of steps therefore decreases
with every call (`stepsOf_lt_of_calls`).
-/

namespace ClientGen.SchemaType

/-- A schema is a reference that names no component, and another one is what its chain of references leads to. -/
def FollowedTo (document schema found : Value) : Prop :=
  ∃ ref, schema.field? "$ref" = some (.text ref) ∧ Reference.componentName? ref = none ∧
    (Reference.deref schema document : Except Fault Value) = .ok found

/-- A schema is a reference that names no component, and another one is what this reference alone leads to. -/
def PointsTo (document schema found : Value) : Prop :=
  ∃ ref, schema.field? "$ref" = some (.text ref) ∧ Reference.componentName? ref = none ∧
    (Reference.resolve ref document : Except Fault Value) = .ok found

/-- The conversion of a schema calls for that of another one, where references are followed in a given way. -/
inductive Calls (document : Value) (follows : Value → Value → Prop) : Visit → Visit → Prop
  | reference {name : Option String} {entries : List (Atom × Value)} {found : Value}
    (leads : follows (.map entries) found) : Calls document follows (name, .map entries) (name, found)
  | part {name : Option String} {entries : List (Atom × Value)} {nullable : Bool} {types : List Value} {form : Form}
    {part : Value} (noReference : Entries.field? entries "$ref" = none) (typed : typesOf entries = .types nullable types)
    (formed : formOf name entries types = .ok form) (comesUp : ComesUp document form.parts part) :
    Calls document follows (name, .map entries) (none, part)

variable {document : Value} {entries : List (Atom × Value)} {types : List Value} {name : Option String} {fuel : Nat}
  {visit next : Visit}

/-! ### Failures that are not for want of steps -/

theorem component?_eq_ok_none {target : Value} :
    component? target.shape = .ok none ↔ ∃ ref, target = .text ref ∧ Reference.componentName? ref = none := by
  cases target with
  | atom a =>
    cases a with
    | text ref => simp [component?, Value.text]
    | _ => simp [component?, Value.text]
  | _ => simp [component?, Value.text]

theorem component?_ne_tooDeep (shape : Shape Value) : component? shape ≠ .error tooDeep := by
  unfold component?
  split <;> rintro ⟨⟩

theorem bind_ne_error {α β : Type} {result : Except Fault α} {f : α → Except Fault β} {fault : Fault}
    (first : result ≠ .error fault) (rest : ∀ a, f a ≠ .error fault) : result >>= f ≠ .error fault := by
  cases result with
  | ok a => exact rest a
  | error other =>
    rintro ⟨⟩
    exact first rfl

theorem resolve_ne_tooDeep (ref : String) : (Reference.resolve ref document : Except Fault Value) ≠ .error tooDeep := by
  intro out
  obtain ⟨problem, isProblem⟩ := Reference.resolve_error out
  cases isProblem

theorem deref_ne_tooDeep (schema : Value) :
    (Reference.deref schema document : Except Fault Value) ≠ .error tooDeep := by
  intro out
  have isExit := Reference.deref_exit document schema
  rw [out] at isExit
  cases isExit with
  | @failure _ _ target _ _ _ failed =>
    refine bind_ne_error ?_ resolve_ne_tooDeep failed
    cases target with
    | atom a => cases a <;> rintro ⟨⟩
    | _ => rintro ⟨⟩

theorem members?_ne_tooDeep (v : Value) : v.members? ≠ .error tooDeep := by
  cases v with
  | atom a => cases a <;> rintro ⟨⟩
  | _ => rintro ⟨⟩

theorem toSetOrEmpty?_ne_tooDeep (required : Option Value) : Value.toSetOrEmpty? required ≠ .error tooDeep := by
  unfold Value.toSetOrEmpty?
  split
  · split
    · refine bind_ne_error (members?_ne_tooDeep _) fun members => ?_
      split <;> rintro ⟨⟩
    · rintro ⟨⟩
  · rintro ⟨⟩

theorem kindOf_ne_tooDeep (type : Option (Shape Value)) : kindOf type ≠ .error tooDeep := by
  unfold kindOf
  split <;> rintro ⟨⟩

theorem kindIn_ne_tooDeep (entries : List (Atom × Value)) (types : List Value) :
    kindIn entries types ≠ .error tooDeep := by
  refine bind_ne_error (kindOf_ne_tooDeep _) fun kind => ?_
  cases kind <;> rintro ⟨⟩

theorem objectForm_ne_tooDeep (name : Option String) (entries : List (Atom × Value)) :
    objectForm name entries ≠ .error tooDeep := by
  unfold objectForm
  split
  · refine bind_ne_error (toSetOrEmpty?_ne_tooDeep _) fun required => ?_
    rintro ⟨⟩
  · rintro ⟨⟩

theorem kindForm_ne_tooDeep (name : Option String) (entries : List (Atom × Value)) (kind : Kind) :
    kindForm name entries kind ≠ .error tooDeep := by
  unfold kindForm
  split
  · rintro ⟨⟩
  · exact objectForm_ne_tooDeep name entries
  · rintro ⟨⟩
  · rintro ⟨⟩

theorem formOf_ne_tooDeep (name : Option String) (entries : List (Atom × Value)) (types : List Value) :
    formOf name entries types ≠ .error tooDeep := by
  unfold formOf
  split
  · rintro ⟨⟩
  split
  · rintro ⟨⟩
  · rintro ⟨⟩
  split
  · rintro ⟨⟩
  · exact bind_ne_error (kindIn_ne_tooDeep entries types) (kindForm_ne_tooDeep name entries)

theorem reference?_ne_tooDeep (found : Value) : (reference? found : Except Fault (Option Value)) ≠ .error tooDeep := by
  cases found with
  | map entries => rintro ⟨⟩
  | atom a =>
    cases a with
    | text s =>
      simp only [reference?, shape_except, Value.shape_atom, except_bind_ok, except_throw]
      split <;> rintro ⟨⟩
    | _ => rintro ⟨⟩
  | list items | tuple items =>
    simp only [reference?, reference?.complaint, shape_except, Value.shape_list, Value.shape_tuple, except_bind_ok,
      shapes_except, except_pure, except_throw]
    split <;> rintro ⟨⟩
  | set members =>
    simp only [reference?, shape_except, Value.shape_set, except_bind_ok, except_throw]
    split <;> rintro ⟨⟩

/-! ### Steps of a call -/

theorem unannounced_of_not_map {found : Value} (noMap : found.shape.isMap = false) :
    ∃ fault ≠ tooDeep, ∀ fuel, (unannounced document (fuel + 1) name found : Except Fault Expr) = .error fault := by
  cases isReference : (reference? found : Except Fault (Option Value)) with
  | ok target => exact absurd isReference (reference?_of_not_map noMap target)
  | error fault =>
    refine ⟨fault, ?_, fun fuel => by rw [unannounced, isReference]; rfl⟩
    rintro rfl
    exact reference?_ne_tooDeep found isReference

/-- What a reference leads to takes one step less where it is announced than where it is not. -/
theorem halts_of_unannounced {found : Value}
    (ended : (unannounced document fuel name found : Except Fault Expr) ≠ .error tooDeep) :
    Halts document (fuel + 1) (name, found) := by
  cases isMap : found.shape.isMap with
  | false =>
    rw [Halts, convert_of_not_map name document fuel isMap]
    rintro ⟨⟩
  | true =>
    obtain ⟨entries, rfl⟩ := eq_map_of_isMap isMap
    rwa [Halts, convert_map]

theorem unannounced_of_halts {found : Value} (halts : Halts document (fuel + 1) (name, found)) (some : 0 < fuel) :
    (unannounced document fuel name found : Except Fault Expr) ≠ .error tooDeep := by
  cases isMap : found.shape.isMap with
  | false =>
    obtain ⟨fault, plain, failed⟩ := @unannounced_of_not_map document name found isMap
    obtain ⟨less, rfl⟩ : ∃ less, fuel = less + 1 := ⟨fuel - 1, by omega⟩
    rw [failed]
    rintro ⟨⟩
    exact plain rfl
  | true =>
    obtain ⟨entries, rfl⟩ := eq_map_of_isMap isMap
    rwa [Halts, convert_map] at halts

/-- A reference that names no component is converted like what it is followed to. -/
theorem convert_reference {ref : String} (refers : Entries.field? entries "$ref" = some (.text ref))
    (unnamed : Reference.componentName? ref = none) (fuel : Nat) :
    (convert document (fuel + 2) name (.map entries) : Except Fault Expr) =
      Reference.deref (.map entries) document >>= unannounced document fuel name := by
  have isNone : component? (Value.text ref).shape = .ok none := component?_eq_ok_none.mpr ⟨ref, rfl, unnamed⟩
  rw [convert_map, unannounced_map, refers]
  dsimp only
  rw [isNone]
  rfl

/-- A schema that is no reference is converted like its form. -/
theorem convert_formed {nullable : Bool} {form : Form} (noReference : Entries.field? entries "$ref" = none)
    (typed : typesOf entries = .types nullable types) (formed : formOf name entries types = .ok form) (fuel : Nat) :
    (convert document (fuel + 3) name (.map entries) : Except Fault Expr) =
      admitNull (nullable || listsNull entries) <$> form.build document fuel name := by
  rw [convert_map, unannounced_map, noReference]
  dsimp only
  rw [typed]
  dsimp only
  rw [shaped_map, formed]
  rfl

theorem Halts.succ (halts : Halts document fuel visit) : ∃ less, fuel = less + 1 := by
  cases fuel with
  | zero => exact absurd halts (not_halts_zero visit)
  | succ less => exact ⟨less, rfl⟩

/-- A conversion that does not run out of steps leaves one step less for what it calls for. -/
theorem Calls.halts (calls : Calls document (FollowedTo document) visit next) (halts : Halts document (fuel + 1) visit) :
    Halts document fuel next := by
  cases calls with
  | reference leads =>
    obtain ⟨ref, refers, unnamed, followed⟩ := leads
    cases fuel with
    | zero =>
      rw [Halts, convert_map] at halts
      exact absurd rfl halts
    | succ fuel =>
      rw [Halts, convert_reference refers unnamed, followed] at halts
      exact halts_of_unannounced halts
  | part noReference typed formed comesUp =>
    rcases fuel with _ | _ | fuel
    · rw [Halts, convert_map] at halts
      exact absurd rfl halts
    · rw [Halts, convert_map, unannounced_map, noReference] at halts
      dsimp only at halts
      rw [typed] at halts
      exact absurd rfl halts
    · rw [Halts, convert_formed noReference typed formed, Ne, map_eq_error] at halts
      exact (halts_of_build formed halts comesUp).mono (by omega)

/-- A mapping is converted to a result that does not depend on the steps, or like what it is followed to, or like its
form. -/
theorem convert_cases (document : Value) (name : Option String) (entries : List (Atom × Value)) :
    (∃ result ≠ .error tooDeep, ∀ fuel,
      (convert document (fuel + 3) name (.map entries) : Except Fault Expr) = result) ∨
    (∃ found, FollowedTo document (.map entries) found ∧ ∀ fuel,
      (convert document (fuel + 2) name (.map entries) : Except Fault Expr) = unannounced document fuel name found) ∨
    ∃ nullable types form, Entries.field? entries "$ref" = none ∧ typesOf entries = .types nullable types ∧
      formOf name entries types = .ok form := by
  cases reference : Entries.field? entries "$ref" with
  | some target =>
    cases component : component? target.shape with
    | error fault =>
      refine .inl ⟨.error fault, ?_, fun fuel => ?_⟩
      · rintro ⟨⟩
        exact component?_ne_tooDeep target.shape component
      · simp only [convert_map, unannounced_map, reference, component]
        rfl
    | ok named =>
      cases named with
      | some own =>
        refine .inl ⟨.ok (.text (Naming.typeName own)), by rintro ⟨⟩, fun fuel => ?_⟩
        simp only [convert_map, unannounced_map, reference, component]
        rfl
      | none =>
        obtain ⟨ref, rfl, unnamed⟩ := component?_eq_ok_none.mp component
        cases followed : (Reference.deref (.map entries) document : Except Fault Value) with
        | error fault =>
          refine .inl ⟨.error fault, ?_, fun fuel => ?_⟩
          · rintro ⟨⟩
            exact deref_ne_tooDeep _ followed
          · rw [convert_reference reference unnamed, followed]
            rfl
        | ok found =>
          refine .inr (.inl ⟨found, ⟨ref, reference, unnamed, followed⟩, fun fuel => ?_⟩)
          rw [convert_reference reference unnamed, followed]
          rfl
  | none =>
    cases typed : typesOf entries with
    | nullOnly =>
      refine .inl ⟨.ok (.constant .null), by rintro ⟨⟩, fun fuel => ?_⟩
      simp only [convert_map, unannounced_map, reference, typed]
    | types nullable types =>
      cases formed : formOf name entries types with
      | error fault =>
        refine .inl ⟨.error fault, ?_, fun fuel => ?_⟩
        · rintro ⟨⟩
          exact formOf_ne_tooDeep name entries types formed
        · simp only [convert_map, unannounced_map, reference, typed, shaped_map, formed]
          rfl
      | ok form => exact .inr (.inr ⟨nullable, types, form, rfl, rfl, formed⟩)

/-- A conversion does not run out of steps if nothing that it calls for does. -/
theorem halts_of_calls
    (each : ∀ next, Calls document (FollowedTo document) visit next → ∃ fuel, Halts document fuel next) :
    ∃ fuel, Halts document fuel visit := by
  obtain ⟨name, schema⟩ := visit
  cases isMap : schema.shape.isMap with
  | false =>
    refine ⟨1, ?_⟩
    rw [Halts, convert_of_not_map name document 0 isMap]
    rintro ⟨⟩
  | true =>
    obtain ⟨entries, rfl⟩ := eq_map_of_isMap isMap
    rcases convert_cases document name entries with ⟨result, plain, converted⟩ | ⟨found, leads, converted⟩ |
      ⟨nullable, types, form, noReference, typed, formed⟩
    · refine ⟨3, ?_⟩
      rwa [Halts, converted]
    · obtain ⟨fuel, halts⟩ := each (name, found) (.reference leads)
      refine ⟨fuel + 3, ?_⟩
      rw [Halts, converted]
      exact unannounced_of_halts (halts.mono (by omega)) (Nat.succ_pos fuel)
    · obtain ⟨fuel, ended⟩ := build_halts formed fun part comesUp =>
        each (none, part) (.part noReference typed formed comesUp)
      refine ⟨fuel + 3, ?_⟩
      rw [Halts, convert_formed noReference typed formed, Ne, map_eq_error]
      exact ended

/-! ### The number of steps -/

/-- The smallest number of steps that a conversion does not run out of. -/
noncomputable def stepsOf (document : Value) (visit : Visit) : Nat := sInf {fuel | Halts document fuel visit}

/-- Every call takes fewer steps than the conversion that it is made for. -/
theorem stepsOf_lt_of_calls (calls : Calls document (FollowedTo document) visit next)
    (halts : ∃ fuel, Halts document fuel visit) : stepsOf document next < stepsOf document visit := by
  have least : Halts document (stepsOf document visit) visit := Nat.sInf_mem halts
  obtain ⟨less, isSucc⟩ := least.succ
  rw [isSucc] at least ⊢
  exact Nat.lt_succ_of_le (Nat.sInf_le (calls.halts least))

end ClientGen.SchemaType
