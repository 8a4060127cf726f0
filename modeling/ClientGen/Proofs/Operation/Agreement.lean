import ClientGen.Proofs.Agreement

/-!
Agreement about operations. Two ways of running that agree about the types of schemas agree about the function
of an operation (`Agreement.of_function`).
-/

namespace ClientGen.Agreement

open Operation

variable {ν : Type} {m n : Type → Type}
  [Monad m] [MonadExceptOf Fault m] [Reading ν m] [Logging m]
  [Monad n] [MonadExceptOf Fault n] [Reading ν n] [Logging n]
  {related : ∀ {α : Type}, m α → n α → Prop} (agree : Agreement ν m n related)
  {typeOf : Option ν → m Expr} {otherTypeOf : Option ν → n Expr}

include agree

theorem of_mapping? (node : Option ν) : related (mapping? node) (mapping? node) := by
  cases node with
  | none => exact agree.of_pure none
  | some node => exact agree.of_bind (agree.of_shape node) fun layer => by split <;> exact agree.of_pure _

theorem of_wantedName (method path : String) (operation : ν) :
    related (wantedName method path operation) (wantedName method path operation) := by
  refine agree.of_bind (agree.of_fieldOf operation "operationId") fun stated =>
    agree.of_bind (agree.of_ifTrue stated) fun id => ?_
  cases id with
  | none => exact agree.of_lift _
  | some id =>
    refine agree.of_bind (agree.of_shape id) fun layer => ?_
    split
    · exact agree.of_lift _
    · exact agree.of_throw _

theorem of_mergeInto (document : ν) (nodes : List ν) (merged : List (Merged ν)) :
    related (mergeInto document nodes merged) (mergeInto document nodes merged) := by
  induction nodes generalizing merged with
  | nil => exact agree.of_pure merged
  | cons raw rest ih =>
    refine agree.of_bind (agree.of_deref raw document) fun node =>
      agree.of_bind (agree.of_shape node) fun layer => ?_
    split
    · split
      · exact ih merged
      · refine agree.of_bind (agree.of_whole _) fun name => agree.of_bind (agree.of_lift _) fun name =>
          agree.of_bind (agree.of_shownOf _) fun location => ?_
        simp only
        split <;> exact ih _
    · exact ih merged

theorem of_listedParameters (node : ν) : related (listedParameters node) (listedParameters node) := by
  refine agree.of_bind (agree.of_fieldOf node "parameters") fun stated =>
    agree.of_bind (agree.of_ifTrue stated) fun list => ?_
  cases list with
  | none => exact agree.of_pure []
  | some list => exact agree.of_bind (agree.of_shape list) fun _ => agree.of_lift _

theorem of_parameters (document operation : ν) (item : Option ν) :
    related (parameters document operation item) (parameters document operation item) := by
  refine agree.of_bind (agree.of_ifTrue item) fun item => ?_
  have own : ∀ shared : List ν,
      related (do
          let merged ← mergeInto document shared []
          let own ← listedParameters operation
          return (← mergeInto document own merged).map (·.node))
        (do
          let merged ← mergeInto document shared []
          let own ← listedParameters operation
          return (← mergeInto document own merged).map (·.node)) :=
    fun shared => agree.of_bind (agree.of_mergeInto document shared []) fun merged =>
      agree.of_bind (agree.of_listedParameters operation) fun own =>
        agree.of_bind (agree.of_mergeInto document own merged) fun _ => agree.of_pure _
  cases item with
  | none => exact agree.of_bind (agree.of_pure []) own
  | some item => exact agree.of_bind (agree.of_listedParameters item) own

theorem of_parameterName (parameter : ν) :
    related (parameterName parameter) (parameterName parameter) := by
  refine agree.of_bind (agree.of_fieldOf parameter "name") fun name => ?_
  cases name with
  | none => exact agree.of_throw _
  | some name => exact agree.of_bind (agree.of_whole name) fun _ => agree.of_lift _

theorem of_locationOf (parameter : ν) : related (locationOf parameter) (locationOf parameter) := by
  refine agree.of_bind (agree.of_fieldOf parameter "in") fun stated => ?_
  cases stated with
  | none => exact agree.of_pure none
  | some node =>
    refine agree.of_bind (agree.of_shape node) fun layer => ?_
    split
    · exact agree.of_pure _
    · exact agree.of_pure _
    · exact agree.of_pure _
    · exact agree.of_throw _

theorem of_addParameter (typed : ∀ schema, related (typeOf schema) (otherTypeOf schema)) (signature : Signature)
    (parameter : ν) :
    related (addParameter typeOf signature parameter) (addParameter otherTypeOf signature parameter) := by
  refine agree.of_bind (agree.of_locationOf parameter) fun location => ?_
  cases location with
  | none =>
    exact agree.of_bind (agree.of_fieldOf parameter "in") fun _ => agree.of_bind (agree.of_shownOf _) fun _ =>
      agree.of_bind (agree.of_fieldOf parameter "name") fun _ => agree.of_bind (agree.of_shownOf _) fun _ =>
        agree.of_bind (agree.of_note _) fun _ => agree.of_pure signature
  | some location =>
    exact agree.of_bind (agree.of_parameterName parameter) fun _ => agree.of_bind (agree.of_lift _) fun _ =>
      agree.of_bind (agree.of_fieldOf parameter "schema") fun schema => agree.of_bind (typed schema) fun _ =>
        agree.of_bind (agree.of_fieldOf parameter "required") fun _ => agree.of_bind (agree.of_isTrue _) fun _ =>
          agree.of_bind (agree.of_parameterName parameter) fun _ => agree.of_pure _

theorem of_addParameters (typed : ∀ schema, related (typeOf schema) (otherTypeOf schema)) (signature : Signature)
    (parameters : List ν) :
    related (addParameters typeOf signature parameters) (addParameters otherTypeOf signature parameters) := by
  induction parameters generalizing signature with
  | nil => exact agree.of_pure signature
  | cons parameter rest ih => exact agree.of_bind (agree.of_addParameter typed signature parameter) ih

theorem of_pickMedia (content : ν) : related (pickMedia content) (pickMedia content) := by
  refine agree.of_bind (agree.of_shape content) fun layer => agree.of_bind (agree.of_lift _) fun entries => ?_
  cases entries with
  | nil => exact agree.of_throw _
  | cons first rest => exact agree.of_bind (agree.of_lift _) fun _ => agree.of_pure _

theorem of_mediaSchema (media : ν) : related (mediaSchema media) (mediaSchema media) := by
  refine agree.of_bind (agree.of_ifTrue (some media)) fun media => ?_
  cases media with
  | none => exact agree.of_pure none
  | some media => exact agree.of_fieldOf media "schema"

theorem of_addBody (typed : ∀ schema, related (typeOf schema) (otherTypeOf schema)) (document operation : ν)
    (signature : Signature) :
    related (addBody typeOf document operation signature) (addBody otherTypeOf document operation signature) := by
  refine agree.of_bind (agree.of_fieldOf operation "requestBody") fun stated =>
    agree.of_bind (agree.of_derefOf stated document) fun body =>
      agree.of_bind (agree.of_mapping? body) fun body => ?_
  cases body with
  | none => exact agree.of_pure _
  | some body =>
    refine agree.of_bind (agree.of_fieldOf body "content") fun stated =>
      agree.of_bind (agree.of_ifTrue stated) fun content => ?_
    cases content with
    | none => exact agree.of_pure _
    | some content =>
      exact agree.of_bind (agree.of_pickMedia content) fun picked =>
        agree.of_bind (agree.of_mediaSchema picked.2) fun schema => agree.of_bind (typed schema) fun _ =>
          agree.of_bind (agree.of_fieldOf body "required") fun _ => agree.of_bind (agree.of_isTrue _) fun _ =>
            agree.of_pure _

theorem of_responseAt (responses : ν) (status : String) :
    related (responseAt responses status) (responseAt responses status) :=
  agree.of_bind (agree.of_shape responses) fun _ => agree.of_bind (agree.of_lift _) fun _ =>
    agree.of_bind (agree.of_lift _) fun _ => agree.of_pure _

theorem of_returnTypeFrom (typed : ∀ schema, related (typeOf schema) (otherTypeOf schema)) (document responses : ν)
    (statuses : List String) :
    related (returnTypeFrom typeOf document responses statuses)
      (returnTypeFrom otherTypeOf document responses statuses) := by
  induction statuses with
  | nil => exact agree.of_pure _
  | cons status rest ih =>
    refine agree.of_bind (agree.of_responseAt responses status) fun stated =>
      agree.of_bind (agree.of_derefOf stated document) fun response =>
        agree.of_bind (agree.of_mapping? response) fun response => ?_
    cases response with
    | none => exact ih
    | some response =>
      refine agree.of_bind (agree.of_fieldOf response "content") fun stated =>
        agree.of_bind (agree.of_ifTrue stated) fun content => ?_
      cases content with
      | none => exact agree.of_pure _
      | some content =>
        exact agree.of_bind (agree.of_pickMedia content) fun picked =>
          agree.of_bind (agree.of_mediaSchema picked.2) typed

theorem of_successStatuses (responses : ν) : related (successStatuses responses) (successStatuses responses) :=
  agree.of_bind (agree.of_whole responses) fun _ => agree.of_bind (agree.of_lift _) fun _ =>
    agree.of_bind (agree.of_lift _) fun _ => agree.of_pure _

theorem of_returnType (typed : ∀ schema, related (typeOf schema) (otherTypeOf schema)) (document operation : ν) :
    related (returnType typeOf document operation) (returnType otherTypeOf document operation) := by
  refine agree.of_bind (agree.of_fieldOf operation "responses") fun stated =>
    agree.of_bind (agree.of_ifTrue stated) fun responses => ?_
  cases responses with
  | none => exact agree.of_pure _
  | some responses =>
    exact agree.of_bind (agree.of_successStatuses responses) fun statuses =>
      agree.of_returnTypeFrom typed document responses statuses

theorem of_trimmedText (operation : ν) (key : String) :
    related (trimmedText operation key) (trimmedText operation key) := by
  refine agree.of_bind (agree.of_fieldOf operation key) fun stated =>
    agree.of_bind (agree.of_ifTrue stated) fun node => ?_
  cases node with
  | none => exact agree.of_pure []
  | some node =>
    exact agree.of_bind (agree.of_whole node) fun _ => agree.of_bind (agree.of_lift _) fun _ =>
      agree.of_pure _

theorem of_description (operation : ν) : related (description operation) (description operation) :=
  agree.of_bind (agree.of_trimmedText operation "summary") fun _ =>
    agree.of_bind (agree.of_trimmedText operation "description") fun _ =>
      agree.of_bind (agree.of_fieldOf operation "deprecated") fun _ => agree.of_bind (agree.of_isTrue _) fun _ =>
        agree.of_pure _

variable (typeOf otherTypeOf) in
/-- Ways of running that agree about types agree about functions. -/
theorem of_function (typed : ∀ schema, related (typeOf schema) (otherTypeOf schema)) (document : ν)
    (method path : String) (operation : ν) (item : Option ν) (taken : Option (List String)) :
    related (convert typeOf document method path operation item taken)
      (convert otherTypeOf document method path operation item taken) :=
  agree.of_bind (agree.of_wantedName method path operation) fun _ =>
    agree.of_bind (agree.of_parameters document operation item) fun _ =>
      agree.of_bind (agree.of_addParameters typed {} _) fun signature =>
        agree.of_bind (agree.of_addBody typed document operation signature) fun _ =>
          agree.of_bind (agree.of_returnType typed document operation) fun _ =>
            agree.of_bind (agree.of_description operation) fun _ => agree.of_pure _

end ClientGen.Agreement
