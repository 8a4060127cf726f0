import ClientGen.Proofs.Operation.Annotations
import ClientGen.Proofs.Operation.ReturnType

/-!
How request bodies are sent. One media type of those that a body offers decides: the first that shows JSON, or else the
first of all (`deciding`). The schema of this media type is the type of the argument. Whether the argument is passed as
JSON, as a form, as files or as it is should follow the same media type (`intendedArgument`), and does so exactly if a
media type that shows JSON is one of those that are sent as JSON (`body_passed_iff`).
-/

namespace ClientGen

namespace Text

theorem occursIn_iff {part text : List Char} : occursIn part text = true ↔ part <:+: text := by
  induction text with
  | nil => rw [occursIn, List.isEmpty_iff, List.infix_nil]
  | cons c rest ih =>
    have leads : (dropLeading? part (c :: rest)).isSome = true ↔ part <+: c :: rest := by
      rw [Option.isSome_iff_exists]
      exact exists_congr fun tail => dropLeading?_eq_some.trans eq_comm
    rw [occursIn, Bool.or_eq_true, leads, ih, List.infix_cons_iff]

/-- A text that holds another holds what that one holds. -/
theorem contains_trans {text part smaller : String} (holds : contains text part = true)
    (within : contains part smaller = true) : contains text smaller = true :=
  occursIn_iff.mpr ((occursIn_iff.mp within).trans (occursIn_iff.mp holds))

end Text

namespace Operation

/-- Whether a media type shows JSON. -/
def showsJson (mediaType : String) : Bool := Text.contains mediaType "json"

/-- Whether a media type is one of those that are sent as JSON. -/
def isSentAsJson (mediaType : String) : Bool :=
  Text.contains mediaType "application/json" || Text.contains mediaType "+json"

/-- The media type that decides about a body, with what is said about it: the first that shows JSON, or else the first
of all. -/
def deciding (first : String × Value) (rest : List (String × Value)) : String × Value :=
  ((first :: rest).find? fun offered => showsJson offered.1).getD first

/-- The argument of the helper by which a body of a media type is meant to be passed. -/
def intendedArgument (mediaType : String) : String :=
  if showsJson mediaType then "json"
  else if Text.contains mediaType "application/x-www-form-urlencoded" then "data"
  else if Text.contains mediaType "multipart/form-data" then "files"
  else "content"

/-- The function takes a body of a type as its last argument, and its call passes this on by an argument of the
helper. -/
def PassesBody (f : Function) (keyword : String) (type : Expr) : Prop :=
  ∃ named argument required fixed arguments,
    f.named = named ++ [namedArgument argument type required] ∧
    f.call = .call "_request" fixed (arguments ++ [(keyword, .name argument)])

theorem PassesBody.keyword_unique {f : Function} {keyword other : String} {type otherType : Expr}
    (passes : PassesBody f keyword type)
    (passesOther : PassesBody f other otherType) : keyword = other := by
  obtain ⟨_, _, _, _, arguments, -, call⟩ := passes
  obtain ⟨_, _, _, _, otherArguments, -, otherCall⟩ := passesOther
  rw [call] at otherCall
  have last := congrArg List.getLast? (Expr.call.inj otherCall).2.2
  simp only [List.getLast?_append, List.getLast?_singleton, Option.some_or, Option.some.injEq, Prod.mk.injEq] at last
  exact last.1

/-! ### Media types -/

/-- Whatever is sent as JSON shows JSON. -/
theorem showsJson_of_isSentAsJson {mediaType : String} (sent : isSentAsJson mediaType = true) :
    showsJson mediaType = true := by
  rcases Bool.or_eq_true_iff.mp sent with plain | structured
  · exact Text.contains_trans plain (by decide)
  · exact Text.contains_trans structured (by decide)

/-- The first entry of a table that asks for a media type decides. -/
private theorem argument_cons (mediaType marker argument : String) (entries : List (String × String)) :
    ((((marker, argument) :: entries).find? fun entry => Text.contains mediaType entry.1).map (·.2)).getD "content" =
      if Text.contains mediaType marker then argument
      else ((entries.find? fun entry => Text.contains mediaType entry.1).map (·.2)).getD "content" := by
  rw [List.find?_cons]
  cases Text.contains mediaType marker <;> rfl

theorem bodyArgument_eq (mediaType : String) :
    bodyArgument mediaType =
      if isSentAsJson mediaType then "json"
      else if Text.contains mediaType "application/x-www-form-urlencoded" then "data"
      else if Text.contains mediaType "multipart/form-data" then "files"
      else "content" := by
  rw [bodyArgument, bodyArguments, argument_cons, argument_cons, argument_cons, argument_cons, isSentAsJson]
  cases Text.contains mediaType "application/json" <;> cases Text.contains mediaType "+json" <;> rfl

theorem bodyArgument_eq_json_iff {mediaType : String} :
    bodyArgument mediaType = "json" ↔ isSentAsJson mediaType = true := by
  rw [bodyArgument_eq]
  by_cases sent : isSentAsJson mediaType = true
  · simp [sent]
  · rw [if_neg sent]
    simp only [sent]
    split
    · simp
    · split <;> simp

/-- A body is passed as it is meant to be unless its media type shows JSON without being sent as JSON. -/
theorem bodyArgument_intended_iff {mediaType : String} :
    bodyArgument mediaType = intendedArgument mediaType ↔
      (showsJson mediaType = true → isSentAsJson mediaType = true) := by
  by_cases shows : showsJson mediaType = true
  · rw [intendedArgument, if_pos shows, bodyArgument_eq_json_iff]
    simp [shows]
  · have unsent : ¬ isSentAsJson mediaType = true := fun sent => shows (showsJson_of_isSentAsJson sent)
    rw [intendedArgument, if_neg shows, bodyArgument_eq, if_neg unsent]
    simp [shows]

/-- Among texts the deciding media type is picked. -/
theorem pickMedia_ofFields (first : String × Value) (rest : List (String × Value)) :
    (pickMedia (Value.ofFields (first :: rest)) : Except Fault (String × Value)) = .ok (deciding first rest) := by
  have picked : ∀ offered : List (String × Value),
      pickFrom (.text first.1, first.2) (offered.map fun field => (.text field.1, field.2)) =
        .ok (.text ((offered.find? fun o => showsJson o.1).getD first).1,
          ((offered.find? fun o => showsJson o.1).getD first).2) := by
    intro offered
    induction offered with
    | nil => rfl
    | cons next more ih =>
      rw [List.map_cons, pickFrom, namesJson, except_bind_ok, List.find?_cons]
      change (if showsJson next.1 then _ else _) = _
      cases showsJson next.1
      · exact ih
      · rfl
  have opened := picked (first :: rest)
  rw [List.map_cons] at opened
  simp only [pickMedia, Value.ofFields, List.map_cons, shape_except, Value.shape_map, except_bind_ok, Shape.entries?,
    lift_except, opened]
  rfl

/-! ### Bodies -/

variable {document operation body : Value} {first : String × Value} {rest : List (String × Value)}

/-- The deciding media type gives both the type of the argument and the way in which it is passed. Nothing but its
schema can make this fail. -/
theorem addBody_eq {typing : Option Value → Except Fault Expr} (found : bodyOf document operation = .ok (some body))
    (stated : body.field? "content" = some (.ofFields (first :: rest))) (signature : Signature) :
    addBody typing document operation signature = (do
      let type ← typing (← mediaSchema (deciding first rest).2)
      let argument := argumentName signature.taken "body" "request"
      let required := ((body.field? "required").map Value.truthy).getD false
      return (signature.pushBody argument type required, some (bodyArgument (deciding first rest).1, argument))) := by
  obtain ⟨requested, hasRequest, followed, isFollowed, isBody⟩ : ∃ requested,
      (fieldOf operation "requestBody" : Except Fault (Option Value)) = .ok requested ∧ ∃ followed,
        (Reference.derefOf requested document : Except Fault (Option Value)) = .ok followed ∧
          (mapping? followed : Except Fault (Option Value)) = .ok (some body) := by
    simpa only [bodyOf, bind_eq_ok] using found
  have isMap : body.shape.isMap = true := by
    cases body with
    | map fields => rfl
    | _ => cases stated
  have isContent : (ifTrue (some (Value.ofFields (first :: rest))) : Except Fault (Option Value)) =
      .ok (some (.ofFields (first :: rest))) := ifTrue_except _
  rw [addBody, hasRequest, except_bind_ok, isFollowed, except_bind_ok, isBody, except_bind_ok]
  simp only [fieldOf_of_isMap isMap, stated, except_bind_ok, isContent, pickMedia_ofFields, isTrue_except]

/-- A function that is made of an operation with a body passes it as the deciding media type says. -/
theorem passesBody_of_convert {method path : String} {item : Option Value} {taken : Option (List String)} {f : Function}
    (found : bodyOf document operation = .ok (some body))
    (stated : body.field? "content" = some (.ofFields (first :: rest)))
    (converted : convert (typeOf document) document method path operation item taken =
      (.ok f : Except Fault Function)) :
    ∃ type, (mediaSchema (deciding first rest).2 >>= typeOf document) = .ok type ∧
      PassesBody f (bodyArgument (deciding first rest).1) type := by
  simp only [convert, bind_eq_ok] at converted
  obtain ⟨_, -, _, -, signature, -, ⟨full, passed⟩, hasBody, _, -, _, -, ended⟩ := converted
  rw [addBody_eq found stated] at hasBody
  simp only [bind_eq_ok] at hasBody
  obtain ⟨schema, isSchema, type, typed, pushed⟩ := hasBody
  cases pushed
  cases ended
  exact ⟨type, bind_eq_ok.mpr ⟨schema, isSchema, typed⟩, _, _, _, _, _, rfl, rfl⟩

/-- The first media type that shows JSON, or else the first of all, decides about a request body: its schema is the type
of the argument, and it says how the argument is passed. This is the way in which it is meant to be passed exactly if
the media type does not show JSON or is one of those that are sent as JSON. -/
theorem body_passed_iff (found : bodyOf document operation = .ok (some body))
    (stated : body.field? "content" = some (.ofFields (first :: rest))) {method path : String} {item : Option Value}
    {taken : Option (List String)} {log later : List LogRecord} {f : Function}
    (converted : (toFunction document method path operation item taken).run.run log = (.ok f, later)) :
    ∃ type, (mediaSchema (deciding first rest).2 >>= typeOf document) = .ok type ∧
      PassesBody f (bodyArgument (deciding first rest).1) type ∧
      (PassesBody f (intendedArgument (deciding first rest).1) type ↔
        (showsJson (deciding first rest).1 = true → isSentAsJson (deciding first rest).1 = true)) := by
  obtain ⟨_, reads⟩ := toFunction_reads document method path operation item taken log
  rw [reads, Prod.mk.injEq] at converted
  obtain ⟨type, typed, passes⟩ := passesBody_of_convert found stated converted.1
  refine ⟨type, typed, passes, ?_⟩
  rw [← bodyArgument_intended_iff]
  constructor
  · exact passes.keyword_unique
  · intro same
    rwa [← same]

/-- An operation that says nothing but which media types its request body can have. -/
def posting (offered : List (String × Value)) : Value :=
  .ofFields [("requestBody", .ofFields [("content", .ofFields offered)])]

/-- A media type whose content is a text. -/
def textual : Value := .ofFields [("schema", .ofFields [("type", .text "string")])]

/-- A media type whose content is a whole number. -/
def numeral : Value := .ofFields [("schema", .ofFields [("type", .text "integer")])]

theorem body_passed_structured : ∃ (f : Function) (later : List LogRecord),
    (toFunction (.map []) "post" "/notes"
      (posting [("text/plain", textual), ("application/problem+json", numeral), ("application/json", textual)])
      none none).run.run [] = (.ok f, later) ∧ PassesBody f "json" (.name "int") := by
  have deciding_offered : deciding ("text/plain", textual) [("application/problem+json", numeral),
      ("application/json", textual)] = ("application/problem+json", numeral) := rfl
  obtain ⟨f, later, converted⟩ : ∃ (f : Function) (later : List LogRecord),
      (toFunction (.map []) "post" "/notes"
        (posting [("text/plain", textual), ("application/problem+json", numeral), ("application/json", textual)])
        none none).run.run [] = (.ok f, later) := ⟨_, _, rfl⟩
  obtain ⟨type, typed, -, intended⟩ := body_passed_iff rfl rfl converted
  rw [deciding_offered] at typed intended
  cases typed
  exact ⟨f, later, converted, intended.mpr fun _ => by decide⟩

/-- A media type that shows JSON can be one whose body is passed as it is. -/
theorem json_passed_unencoded : showsJson "text/json" = true ∧ ∃ (f : Function) (later : List LogRecord),
    (toFunction (.map []) "post" "/notes" (posting [("text/json", textual)]) none none).run.run [] = (.ok f, later) ∧
      PassesBody f "content" (.name "str") ∧ ∀ type, ¬ PassesBody f "json" type := by
  obtain ⟨f, later, converted⟩ : ∃ (f : Function) (later : List LogRecord),
      (toFunction (.map []) "post" "/notes" (posting [("text/json", textual)]) none none).run.run [] =
        (.ok f, later) := ⟨_, _, rfl⟩
  obtain ⟨_, reads⟩ := toFunction_reads (.map []) "post" "/notes" (posting [("text/json", textual)]) none none []
  have result := (Prod.mk.inj (reads.symm.trans converted)).1
  obtain ⟨type, typed, passes⟩ := passesBody_of_convert rfl rfl result
  cases typed
  have unencoded : bodyArgument "text/json" = "content" := by decide
  refine ⟨by decide, f, later, converted, unencoded ▸ passes, fun type passesJson => ?_⟩
  have same : bodyArgument "text/json" = "json" := passes.keyword_unique passesJson
  rw [unencoded] at same
  exact absurd same (by decide)

end Operation

end ClientGen
