import ClientGen.Proofs.Agreement

/-!
Agreement about the types of schemas. Two ways of running that agree about copies and about what surrounds
the conversion of an announced schema agree about the type of every schema (`Announcing.of_convert`).
-/

namespace ClientGen

open SchemaType

variable {ν : Type} {m n : Type → Type}
  [Monad m] [MonadExceptOf Fault m] [Converting ν m] [Logging m]
  [Monad n] [MonadExceptOf Fault n] [Converting ν n] [Logging n]
  {related : ∀ {α : Type}, m α → n α → Prop}

/-- An agreement that is kept when a conversion is announced. -/
structure Announcing (ν : Type) (m n : Type → Type)
    [Monad m] [MonadExceptOf Fault m] [Converting ν m] [Logging m]
    [Monad n] [MonadExceptOf Fault n] [Converting ν n] [Logging n]
    (related : ∀ {α : Type}, m α → n α → Prop) : Prop extends Agreement ν m n related where
  of_retyped (schema type : ν) : related (retyped schema type) (retyped schema type)
  of_announced (schema : ν) {step : m Expr} {other : n Expr} (inside : related step other) :
    related (do enter schema; leave schema (← step)) (do enter schema; leave schema (← other))

namespace Agreement

variable (agree : Agreement ν m n related)

include agree

theorem of_shapes (nodes : List ν) : related (shapes nodes) (shapes nodes) := by
  induction nodes with
  | nil => exact agree.of_pure []
  | cons node rest ih => exact agree.of_bind (agree.of_shape node) fun _ => agree.of_bind ih fun _ => agree.of_pure _

theorem of_entriesOf (node : ν) : related (entriesOf node) (entriesOf node) :=
  agree.of_bind (agree.of_shape node) fun layer => by cases layer <;> exact agree.of_pure _

theorem of_listOf (schema : ν) (key : String) : related (listOf schema key) (listOf schema key) := by
  refine agree.of_bind (agree.of_entriesOf schema) fun entries => ?_
  split
  · exact agree.of_pure none
  · exact agree.of_bind (agree.of_shape _) fun layer => by cases layer <;> exact agree.of_pure _

theorem of_reference? (schema : ν) : related (reference? schema) (reference? schema) := by
  have complained : ∀ items : List ν, related (do throw (← reference?.complaint items) : m (Option ν))
      (do throw (← reference?.complaint items)) :=
    fun items => agree.of_bind (agree.of_bind (agree.of_shapes items) fun _ => agree.of_pure _)
      fun _ => agree.of_throw _
  refine agree.of_bind (agree.of_shape schema) fun layer => ?_
  split
  · exact agree.of_pure _
  · exact complained _
  · exact complained _
  · exact agree.of_throw _
  · exact agree.of_throw _
  · exact agree.of_throw _

theorem of_typing (schema : ν) : related (typing schema) (typing schema) := by
  refine agree.of_bind (agree.of_entriesOf schema) fun entries => agree.of_bind (agree.of_isTrue _) fun nullable => ?_
  split
  · exact agree.of_pure _
  · refine agree.of_bind (agree.of_shape _) fun layer => ?_
    split
    · exact agree.of_bind (agree.of_shapes _) fun _ => agree.of_pure _
    · exact agree.of_pure _
    · exact agree.of_pure _
    · exact agree.of_pure _

theorem of_enumerated (schema : ν) : related (enumerated schema) (enumerated schema) := by
  refine agree.of_bind (agree.of_listOf schema "enum") fun listed => ?_
  cases listed with
  | none => exact agree.of_pure []
  | some items => exact agree.of_bind (agree.of_shapes items) fun _ => agree.of_pure _

theorem of_enumeratesNull (schema : ν) : related (enumeratesNull schema) (enumeratesNull schema) := by
  refine agree.of_bind (agree.of_listOf schema "enum") fun listed => ?_
  cases listed with
  | none => exact agree.of_pure false
  | some items => exact agree.of_bind (agree.of_shapes items) fun _ => agree.of_pure _

theorem of_wholes (nodes : List ν) : related (wholes nodes) (wholes nodes) := by
  induction nodes with
  | nil => exact agree.of_pure []
  | cons node rest ih => exact agree.of_bind (agree.of_whole node) fun _ => agree.of_bind ih fun _ => agree.of_pure _

theorem of_kind (schema : ν) (types : List ν) :
    related (SchemaType.kind schema types) (SchemaType.kind schema types) := by
  cases types
  case' nil => refine agree.of_bind (agree.of_pure none) ?_
  case' cons type rest => refine agree.of_bind (agree.of_map some (agree.of_shape type)) ?_
  all_goals
    intro stated
    refine agree.of_bind (agree.of_lift _) fun kind => ?_
    cases kind with
    | unstated => exact agree.of_bind (agree.of_entriesOf schema) fun _ => agree.of_pure _
    | named name => exact agree.of_pure _
    | strange => exact agree.of_pure _

theorem of_primitiveType (schema : ν) (type : String) :
    related (primitiveType schema type) (primitiveType schema type) := by
  refine agree.of_bind (agree.of_entriesOf schema) fun entries =>
    agree.of_bind (agree.of_shapeOrNull _) fun format => ?_
  split <;> exact agree.of_pure _

theorem of_alternatives (schema : ν) : related (alternatives schema) (alternatives schema) := by
  refine agree.of_bind (agree.of_entriesOf schema) fun entries =>
    agree.of_bind (agree.of_listOf schema "oneOf") fun oneOf => ?_
  split
  · exact agree.of_pure _
  · refine agree.of_bind (agree.of_listOf schema "anyOf") fun anyOf => ?_
    split <;> exact agree.of_pure _

theorem of_conjuncts (schema : ν) : related (conjuncts schema) (conjuncts schema) := by
  refine agree.of_bind (agree.of_listOf schema "allOf") fun allOf => ?_
  split
  · exact agree.of_bind (agree.of_entriesOf schema) fun _ => agree.of_pure _
  · exact agree.of_pure _

theorem of_requiredNames (schema : ν) : related (requiredNames schema) (requiredNames schema) :=
  agree.of_bind (agree.of_entriesOf schema) fun _ => agree.of_bind (agree.of_wholeOf _) fun _ => agree.of_lift _

theorem of_declaredProperties (name : Option String) (schema : ν) :
    related (declaredProperties name schema) (declaredProperties name schema) := by
  unfold declaredProperties
  split
  · exact agree.of_pure none
  · refine agree.of_bind (agree.of_entriesOf schema) fun entries => ?_
    split
    · exact agree.of_pure none
    · exact agree.of_bind (agree.of_shape _) fun layer => by cases layer <;> exact agree.of_pure _

theorem of_additional (schema : ν) : related (additional schema) (additional schema) := by
  refine agree.of_bind (agree.of_entriesOf schema) fun entries => ?_
  split
  · exact agree.of_pure none
  · exact agree.of_bind (agree.of_shape _) fun layer => by cases layer <;> exact agree.of_pure _

end Agreement

namespace Announcing

variable (agree : Announcing ν m n related)

include agree

theorem of_copies (schema : ν) (types : List ν) : related (copies schema types) (copies schema types) := by
  induction types with
  | nil => exact agree.of_pure []
  | cons type rest ih =>
    exact agree.of_bind (agree.of_retyped schema type) fun _ => agree.of_bind ih fun _ => agree.of_pure _

omit agree in
variable (m n related) in
/-- Agreement about everything that a conversion with some fuel may ask for. -/
private structure Converts (document : ν) (fuel : Nat) : Prop where
  convert name schema : related (convert document fuel name schema) (convert document fuel name schema)
  unannounced name schema : related (unannounced document fuel name schema) (unannounced document fuel name schema)
  shaped name schema types :
    related (shaped document fuel name schema types) (shaped document fuel name schema types)
  items list index : related (convertItems document fuel list index) (convertItems document fuel list index)
  copies schemas : related (convertCopies document fuel schemas) (convertCopies document fuel schemas)
  properties required entries :
    related (convertProperties document fuel required entries) (convertProperties document fuel required entries)

private theorem converts (document : ν) (fuel : Nat) : Converts m n related document fuel := by
  induction fuel with
  | zero =>
    constructor
    · intro name schema
      rw [convert, convert]
      exact agree.of_throw _
    · intro name schema
      rw [unannounced, unannounced]
      exact agree.of_throw _
    · intro name schema types
      rw [shaped, shaped]
      exact agree.of_throw _
    · intro list index
      rw [convertItems, convertItems]
      exact agree.of_throw _
    · intro schemas
      rw [convertCopies, convertCopies]
      exact agree.of_throw _
    · intro required entries
      rw [convertProperties, convertProperties]
      exact agree.of_throw _
  | succ fuel ih =>
    constructor
    · intro name schema
      rw [convert, convert]
      refine agree.of_bind (agree.of_shape schema) fun layer => ?_
      split
      · exact agree.of_announced schema (ih.unannounced name schema)
      · exact agree.of_pure _
    · intro name schema
      rw [unannounced, unannounced]
      refine agree.of_bind (agree.of_reference? schema) fun reference => ?_
      cases reference with
      | some target =>
        refine agree.of_bind (agree.of_shape target) fun layer => agree.of_bind (agree.of_lift _) fun component => ?_
        cases component with
        | some component => exact agree.of_pure _
        | none => exact agree.of_bind (agree.of_deref schema document) fun found => ih.unannounced name found
      | none =>
        refine agree.of_bind (agree.of_typing schema) fun typing => ?_
        cases typing with
        | nullOnly => exact agree.of_pure _
        | types nullable types =>
          refine agree.of_bind (ih.shaped name schema types) fun type =>
            agree.of_bind (agree.of_enumeratesNull schema) fun withNull => ?_
          split <;> exact agree.of_pure _
    · intro name schema types
      rw [shaped, shaped]
      refine agree.of_bind (agree.of_enumerated schema) fun values => ?_
      split
      · exact agree.of_bind (agree.of_wholes values) fun _ => agree.of_pure _
      refine agree.of_bind (agree.of_entriesOf schema) fun entries => ?_
      split
      · exact agree.of_bind (agree.of_whole _) fun _ => agree.of_pure _
      refine agree.of_bind (agree.of_alternatives schema) fun members => ?_
      split
      · exact agree.of_bind (ih.items _ 0) fun _ => agree.of_pure _
      refine agree.of_bind (agree.of_conjuncts schema) fun members => ?_
      split
      · exact agree.of_bind (ih.items _ 0) fun _ => agree.of_pure _
      split
      · exact agree.of_bind (agree.of_copies schema types) fun copied => agree.of_bind (ih.copies copied) fun _ =>
          agree.of_pure _
      refine agree.of_bind (agree.of_kind schema types) fun kind => ?_
      split
      · refine agree.of_bind (agree.of_entriesOf schema) fun entries => ?_
        split
        · exact agree.of_bind (ih.convert none _) fun _ => agree.of_pure _
        · exact agree.of_pure _
      · refine agree.of_bind (agree.of_declaredProperties name schema) fun declared => ?_
        cases declared with
        | some properties =>
          exact agree.of_bind (agree.of_requiredNames schema) fun required =>
            agree.of_bind (ih.properties required properties) fun _ => agree.of_pure _
        | none =>
          refine agree.of_bind (agree.of_additional schema) fun additional => ?_
          cases additional with
          | some values => exact agree.of_bind (ih.convert none values) fun _ => agree.of_pure _
          | none => exact agree.of_pure _
      · exact agree.of_primitiveType schema _
      · exact agree.of_pure _
    · intro list index
      rw [convertItems, convertItems]
      refine agree.of_bind (agree.of_shape list) fun layer => ?_
      split
      · split
        · exact agree.of_bind (ih.convert none _) fun _ => agree.of_bind (ih.items list _) fun _ => agree.of_pure _
        · exact agree.of_pure []
      · exact agree.of_pure []
    · intro schemas
      cases schemas with
      | nil =>
        rw [convertCopies, convertCopies]
        exact agree.of_pure []
      | cons schema rest =>
        rw [convertCopies, convertCopies]
        exact agree.of_bind (ih.unannounced none schema) fun _ => agree.of_bind (ih.copies rest) fun _ =>
          agree.of_pure _
    · intro required entries
      cases entries with
      | nil =>
        rw [convertProperties, convertProperties]
        exact agree.of_pure []
      | cons entry rest =>
        rw [convertProperties, convertProperties]
        exact agree.of_bind (ih.convert none entry.2) fun _ => agree.of_bind (ih.properties required rest) fun _ =>
          agree.of_pure _

/-- Ways of running that agree about copies and announcements agree about the type of a schema. -/
theorem of_convert (document : ν) (fuel : Nat) (name : Option String) (schema : ν) :
    related (convert document fuel name schema) (convert document fuel name schema) :=
  (agree.converts document fuel).convert name schema

end Announcing

end ClientGen
