import ClientGen.Proofs.PlainReading
import ClientGen.Proofs.Schema.ForwardReference

/-!
Annotations of functions. The types that annotate a function are those of the schemas that its operation asks
for: of its parameters, of its request body, and of the response that settles what it returns. So its
annotations mention exactly the components that these schemas mention (`annotations_mention`).
-/

namespace ClientGen

/-- The types that a function states. -/
def Function.annotations (f : Function) : List Expr :=
  f.positional.map (·.type) ++ f.named.map (·.type) ++ f.returns.toList

namespace Operation

open SchemaType (NamesOf)

/-- The schema of the media type that is used of some content. -/
def HasMediaSchema (content schema : Value) : Prop :=
  ∃ mediaType media, (pickMedia content : Except Fault (String × Value)) = .ok (mediaType, media) ∧
    (mediaSchema media : Except Fault (Option Value)) = .ok (some schema)

/-- The content of a node, if it is a mapping that has some. -/
def HasContent (node content : Value) : Prop :=
  (fieldOf node "content" >>= ifTrue : Except Fault (Option Value)) = .ok (some content)

/-- The request body of an operation, followed to where it stands, if it is a mapping. -/
def bodyOf (document operation : Value) : Except Fault (Option Value) := do
  mapping? (← Reference.derefOf (← fieldOf operation "requestBody") document)

/-- The responses of an operation, if it has some. -/
def responsesOf (operation : Value) : Except Fault (Option Value) := do ifTrue (← fieldOf operation "responses")

/-- The response to a status, followed to where it stands, if it is a mapping. -/
def responseOf (document responses : Value) (status : String) : Except Fault (Option Value) := do
  mapping? (← Reference.derefOf (← responseAt responses status) document)

/-- The first response that is a mapping settles the return type. -/
inductive Settles (document responses : Value) : List String → Value → Prop
  | here {status rest response} (found : responseOf document responses status = .ok (some response)) :
    Settles document responses (status :: rest) response
  | later {status rest response} (absent : responseOf document responses status = .ok none)
    (settles : Settles document responses rest response) : Settles document responses (status :: rest) response

variable {document : Value}

section

variable {node responses response other : Value} {status : String} {rest : List String}

theorem hasContent_iff {content : Value} {stated found : Option Value}
    (hasField : (fieldOf node "content" : Except Fault (Option Value)) = .ok stated)
    (isContent : (ifTrue stated : Except Fault (Option Value)) = .ok found) :
    HasContent node content ↔ found = some content := by
  rw [HasContent, hasField, except_bind_ok, isContent, Except.ok.injEq]

theorem settles_here (found : responseOf document responses status = .ok (some response)) :
    Settles document responses (status :: rest) other ↔ other = response := by
  constructor
  · intro settles
    cases settles with
    | here found' =>
      rw [found] at found'
      cases found'
      rfl
    | later absent =>
      rw [found] at absent
      cases absent
  · rintro rfl
    exact .here found

theorem settles_later (absent : responseOf document responses status = .ok none) :
    Settles document responses (status :: rest) other ↔ Settles document responses rest other := by
  constructor
  · intro settles
    cases settles with
    | here found =>
      rw [absent] at found
      cases found
    | later _ settles => exact settles
  · exact .later absent

end

/-- The schemas that annotate the function of an operation. -/
inductive Asks (document operation item : Value) : Value → Prop
  | parameter {nodes parameter location schema}
    (listed : (parameters document operation (some item) : Except Fault (List Value)) = .ok nodes)
    (member : parameter ∈ nodes)
    (sent : (locationOf parameter : Except Fault (Option Location)) = .ok (some location))
    (typed : parameter.field? "schema" = some schema) : Asks document operation item schema
  | body {body content schema}
    (found : bodyOf document operation = .ok (some body))
    (hasContent : HasContent body content) (typed : HasMediaSchema content schema) :
    Asks document operation item schema
  | response {responses statuses response content schema}
    (found : responsesOf operation = .ok (some responses))
    (listed : (successStatuses responses : Except Fault (List String)) = .ok statuses)
    (settles : Settles document responses statuses response)
    (hasContent : HasContent response content) (typed : HasMediaSchema content schema) :
    Asks document operation item schema

/-- A type mentions what a schema mentions that may be missing. -/
theorem typeOf_mentions {schema : Option Value} {type : Expr} (typed : typeOf document schema = .ok type) (s : String) :
    s ∈ type.forwardRefs ↔ ∃ v, schema = some v ∧ NamesOf document (none, v) s := by
  cases schema with
  | none =>
    cases typed
    exact ⟨nofun, nofun⟩
  | some v =>
    rw [SchemaType.forwardRefs_iff (SchemaType.converts_of_ofSchema typed)]
    constructor
    · exact fun names => ⟨v, rfl, names⟩
    · rintro ⟨_, ⟨rfl⟩, names⟩
      exact names

/-- What the arguments of a signature mention. -/
def Signature.mentions (signature : Signature) (s : String) : Prop :=
  (∃ a ∈ signature.positional, s ∈ a.type.forwardRefs) ∨ ∃ a ∈ signature.named, s ∈ a.type.forwardRefs

private theorem forwardRefs_namedArgument (name : String) (type : Expr) (required : Bool) :
    (namedArgument name type required).type.forwardRefs = type.forwardRefs := by
  cases required <;> simp [namedArgument, Expr.forwardRefs, Expr.forwardRefsOfAll]

private theorem mentions_push (signature : Signature) (location : Location) (sentAs argument : String) (type : Expr)
    (required : Bool) (s : String) :
    (signature.push location sentAs argument type required).mentions s ↔
      signature.mentions s ∨ s ∈ type.forwardRefs := by
  unfold Signature.mentions Signature.push
  by_cases inPath : location = .path
  · simpa [inPath, or_and_right, exists_or] using or_right_comm
  · simpa [inPath, forwardRefs_namedArgument, or_and_right, exists_or] using or_assoc.symm

private theorem mentions_pushBody (signature : Signature) (argument : String) (type : Expr) (required : Bool)
    (s : String) :
    (signature.pushBody argument type required).mentions s ↔ signature.mentions s ∨ s ∈ type.forwardRefs := by
  unfold Signature.mentions Signature.pushBody
  simpa [forwardRefs_namedArgument, or_and_right, exists_or] using or_assoc.symm

/-- The schema of a parameter that is sent. -/
def HasSentSchema (parameter schema : Value) : Prop :=
  (∃ location, (locationOf parameter : Except Fault (Option Location)) = .ok (some location)) ∧
    parameter.field? "schema" = some schema

theorem addParameter_mentions {signature result : Signature} {parameter : Value}
    (added : addParameter (typeOf document) signature parameter = (.ok result : Except Fault Signature)) (s : String) :
    result.mentions s ↔ signature.mentions s ∨
      ∃ schema, HasSentSchema parameter schema ∧ NamesOf document (none, schema) s := by
  simp only [addParameter, bind_eq_ok] at added
  obtain ⟨location, isLocation, added⟩ := added
  cases location with
  | none =>
    simp only [bind_eq_ok] at added
    obtain ⟨_, -, _, -, _, -, _, -, _, -, ended⟩ := added
    cases ended
    rw [iff_self_or]
    rintro ⟨schema, ⟨⟨location, isLocation'⟩, -⟩, -⟩
    rw [isLocation] at isLocation'
    cases isLocation'
  | some location =>
    simp only [bind_eq_ok] at added
    obtain ⟨_, -, _, -, schema, hasSchema, type, typed, _, -, _, -, _, -, ended⟩ := added
    cases ended
    obtain rfl := fieldOf_ok hasSchema
    rw [mentions_push, typeOf_mentions typed]
    refine or_congr_right ⟨?_, ?_⟩
    · rintro ⟨v, isSchema, names⟩
      exact ⟨v, ⟨⟨location, isLocation⟩, isSchema⟩, names⟩
    · rintro ⟨v, ⟨-, isSchema⟩, names⟩
      exact ⟨v, isSchema, names⟩

theorem addParameters_mentions {signature result : Signature} {nodes : List Value}
    (added : addParameters (typeOf document) signature nodes = (.ok result : Except Fault Signature)) (s : String) :
    result.mentions s ↔ signature.mentions s ∨
      ∃ parameter ∈ nodes, ∃ schema, HasSentSchema parameter schema ∧ NamesOf document (none, schema) s := by
  induction nodes generalizing signature with
  | nil =>
    cases added
    simp
  | cons parameter rest ih =>
    obtain ⟨next, first, others⟩ := bind_eq_ok.mp added
    rw [ih others, addParameter_mentions first]
    simp [or_assoc]

theorem mediaSchema_mentions {content media : Value} {mediaType : String} {schema : Option Value} {type : Expr}
    (picked : (pickMedia content : Except Fault (String × Value)) = .ok (mediaType, media))
    (isSchema : (mediaSchema media : Except Fault (Option Value)) = .ok schema)
    (typed : typeOf document schema = .ok type) (s : String) :
    s ∈ type.forwardRefs ↔ ∃ v, HasMediaSchema content v ∧ NamesOf document (none, v) s := by
  rw [typeOf_mentions typed]
  constructor
  · rintro ⟨v, rfl, names⟩
    exact ⟨v, ⟨mediaType, media, picked, isSchema⟩, names⟩
  · rintro ⟨v, ⟨_, _, picked', isSchema'⟩, names⟩
    rw [picked] at picked'
    cases picked'
    rw [isSchema] at isSchema'
    cases isSchema'
    exact ⟨v, rfl, names⟩

theorem addBody_mentions {operation : Value} {signature result : Signature} {sent : Option (String × String)}
    (added : addBody (typeOf document) document operation signature =
      (.ok (result, sent) : Except Fault (Signature × Option (String × String)))) (s : String) :
    result.mentions s ↔ signature.mentions s ∨ ∃ body content schema, bodyOf document operation = .ok (some body) ∧
      HasContent body content ∧ HasMediaSchema content schema ∧ NamesOf document (none, schema) s := by
  simp only [addBody, bind_eq_ok] at added
  obtain ⟨stated, hasField, followed, isFollowed, body, isBody, added⟩ := added
  have found : bodyOf document operation = .ok body := by
    rw [bodyOf, hasField, except_bind_ok, isFollowed, except_bind_ok, isBody]
  cases body with
  | none =>
    cases added
    rw [iff_self_or]
    rintro ⟨_, _, _, found', -⟩
    rw [found] at found'
    cases found'
  | some body =>
    simp only [bind_eq_ok] at added
    obtain ⟨stated, hasField, content, isContent, added⟩ := added
    have hasContent : ∀ v, HasContent body v ↔ content = some v := fun v => hasContent_iff hasField isContent
    cases content with
    | none =>
      cases added
      rw [iff_self_or]
      rintro ⟨body', content, _, found', hasContent', -⟩
      rw [found] at found'
      cases found'
      exact nomatch (hasContent content).mp hasContent'
    | some content =>
      simp only [bind_eq_ok] at added
      obtain ⟨⟨mediaType, media⟩, picked, schema, isSchema, type, typed, _, -, _, -, ended⟩ := added
      cases ended
      rw [mentions_pushBody, mediaSchema_mentions picked isSchema typed]
      refine or_congr_right ⟨?_, ?_⟩
      · rintro ⟨v, hasSchema, names⟩
        exact ⟨body, content, v, found, (hasContent content).mpr rfl, hasSchema, names⟩
      · rintro ⟨body', content', v, found', hasContent', hasSchema, names⟩
        rw [found] at found'
        cases found'
        cases (hasContent content').mp hasContent'
        exact ⟨v, hasSchema, names⟩

theorem returnTypeFrom_mentions {responses : Value} {statuses : List String} {type : Expr}
    (typed : returnTypeFrom (typeOf document) document responses statuses = (.ok type : Except Fault Expr))
    (s : String) :
    s ∈ type.forwardRefs ↔ ∃ response content schema, Settles document responses statuses response ∧
      HasContent response content ∧ HasMediaSchema content schema ∧ NamesOf document (none, schema) s := by
  induction statuses with
  | nil =>
    cases typed
    refine ⟨nofun, ?_⟩
    rintro ⟨_, _, _, ⟨⟩, -⟩
  | cons status rest ih =>
    simp only [returnTypeFrom, bind_eq_ok] at typed
    obtain ⟨stated, isStated, followed, isFollowed, response, isResponse, typed⟩ := typed
    have found : responseOf document responses status = .ok response := by
      rw [responseOf, isStated, except_bind_ok, isFollowed, except_bind_ok, isResponse]
    cases response with
    | none =>
      rw [ih typed]
      simp only [settles_later found]
    | some response =>
      simp only [bind_eq_ok] at typed
      obtain ⟨stated, hasField, content, isContent, typed⟩ := typed
      have hasContent : ∀ v, HasContent response v ↔ content = some v := fun v => hasContent_iff hasField isContent
      cases content with
      | none =>
        cases typed
        refine ⟨nofun, ?_⟩
        rintro ⟨other, content, _, settles, hasContent', -⟩
        rw [(settles_here found).mp settles] at hasContent'
        exact nomatch (hasContent content).mp hasContent'
      | some content =>
        simp only [bind_eq_ok] at typed
        obtain ⟨⟨mediaType, media⟩, picked, schema, isSchema, typed⟩ := typed
        rw [mediaSchema_mentions picked isSchema typed]
        constructor
        · rintro ⟨v, hasSchema, names⟩
          exact ⟨response, content, v, .here found, (hasContent content).mpr rfl, hasSchema, names⟩
        · rintro ⟨other, content', v, settles, hasContent', hasSchema, names⟩
          rw [(settles_here found).mp settles] at hasContent'
          cases (hasContent content').mp hasContent'
          exact ⟨v, hasSchema, names⟩

theorem returnType_mentions {operation : Value} {type : Expr}
    (typed : returnType (typeOf document) document operation = (.ok type : Except Fault Expr)) (s : String) :
    s ∈ type.forwardRefs ↔ ∃ responses statuses response content schema, responsesOf operation = .ok (some responses) ∧
      (successStatuses responses : Except Fault (List String)) = .ok statuses ∧
      Settles document responses statuses response ∧ HasContent response content ∧ HasMediaSchema content schema ∧
      NamesOf document (none, schema) s := by
  simp only [returnType, bind_eq_ok] at typed
  obtain ⟨stated, hasField, responses, isResponses, typed⟩ := typed
  have found : responsesOf operation = .ok responses := by
    rw [responsesOf, hasField, except_bind_ok, isResponses]
  cases responses with
  | none =>
    cases typed
    refine ⟨nofun, ?_⟩
    rintro ⟨_, _, _, _, _, found', -⟩
    rw [found] at found'
    cases found'
  | some responses =>
    obtain ⟨statuses, listed, typed⟩ := bind_eq_ok.mp typed
    rw [returnTypeFrom_mentions typed]
    constructor
    · rintro ⟨response, content, schema, more⟩
      exact ⟨responses, statuses, response, content, schema, found, listed, more⟩
    · rintro ⟨_, _, response, content, schema, found', listed', more⟩
      rw [found] at found'
      cases found'
      rw [listed] at listed'
      cases listed'
      exact ⟨response, content, schema, more⟩

/-- The annotations of a function mention exactly the components that the schemas mention which its operation asks
for. -/
theorem annotations_mention {method path : String} {operation item : Value} {taken : Option (List String)}
    {function : Function} (converted : convert (typeOf document) document method path operation (some item) taken =
      (.ok function : Except Fault Function)) (s : String) :
    (∃ type ∈ function.annotations, s ∈ type.forwardRefs) ↔
      ∃ schema, Asks document operation item schema ∧ NamesOf document (none, schema) s := by
  simp only [convert, bind_eq_ok] at converted
  obtain ⟨_, -, nodes, listed, signature, isSignature, ⟨full, sent⟩, hasBody, type, returns, _, -, ended⟩ := converted
  cases ended
  have split : (∃ type' ∈ (full.positional.map (·.type) ++ full.named.map (·.type) ++ [type]), s ∈ type'.forwardRefs) ↔
      full.mentions s ∨ s ∈ type.forwardRefs := by
    unfold Signature.mentions
    simp [or_and_right, exists_or, or_assoc]
  have empty : ¬ ({} : Signature).mentions s := by simp [Signature.mentions]
  refine split.trans ?_
  rw [addBody_mentions hasBody, addParameters_mentions isSignature, returnType_mentions returns]
  constructor
  · rintro (((inEmpty | ⟨parameter, member, schema, ⟨⟨location, isLocation⟩, isSchema⟩, names⟩) |
      ⟨body, content, schema, found, hasContent, isSchema, names⟩) |
      ⟨responses, statuses, response, content, schema, found, isListed, settles, hasContent, isSchema, names⟩)
    · exact absurd inEmpty empty
    · exact ⟨schema, .parameter listed member isLocation isSchema, names⟩
    · exact ⟨schema, .body found hasContent isSchema, names⟩
    · exact ⟨schema, .response found isListed settles hasContent isSchema, names⟩
  · rintro ⟨schema, asks, names⟩
    cases asks with
    | parameter listed' member isLocation isSchema =>
      rw [listed] at listed'
      cases listed'
      exact .inl (.inl (.inr ⟨_, member, schema, ⟨⟨_, isLocation⟩, isSchema⟩, names⟩))
    | body found hasContent isSchema => exact .inl (.inr ⟨_, _, schema, found, hasContent, isSchema, names⟩)
    | response found isListed settles hasContent isSchema =>
      exact .inr ⟨_, _, _, _, schema, found, isListed, settles, hasContent, isSchema, names⟩

end Operation

end ClientGen
