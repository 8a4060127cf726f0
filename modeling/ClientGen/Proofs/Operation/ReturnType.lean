import ClientGen.Proofs.Number.Digits
import ClientGen.Proofs.PlainReading
import ClientGen.Proofs.Sameness

/-!
What the function of an operation returns. The responses of success, ordered by the texts of their codes, should say
so together: the first of them that has content (`documentedType`). In fact the first of them decides alone, and if it
has no content the others are not looked at (`decidedType`). So the two agree exactly if the first one has content, if
none has, or if the content asked for stands for null as well (`returnType_documented_iff`).
-/

namespace ClientGen

namespace Operation

/-! ### Responses -/

/-- A code of success begins with a two. -/
def isSuccess (code : String) : Bool := code.toList.head? = some '2'

/-- A code under which a response can be listed: a text of ASCII or a whole number. A number must not have too many
digits to be written, nor may a text that is read as a number because it is a code of success. -/
def IsCode : Atom → Prop
  | .text s => (∀ c ∈ s.toList, Text.isAscii c = true) ∧
    (isSuccess s = true → (∀ c ∈ s.toList, Text.isAsciiDigit c = true) → s.toList.length ≤ Number.digitLimit)
  | .int n => (Atom.int n).isWritable = true
  | _ => False

/-- Responses are listed under codes, no code is there both as a text and as a number, and what is listed can be
followed to where it stands. -/
structure Coded (document : Value) (entries : List (Atom × Value)) : Prop where
  codes : ∀ entry ∈ entries, IsCode entry.1
  distinct : (entries.map (·.1.displayed)).Nodup
  resolve : ∀ entry ∈ entries, ∃ response, (Reference.deref entry.2 document : Except Fault Value) = .ok response

/-- The response that an entry lists, if it is a mapping. -/
def listedResponse (document : Value) (entry : Atom × Value) : Option Value :=
  match (Reference.deref entry.2 document : Except Fault Value) with
  | .ok response => if response.shape.isMap then some response else none
  | .error _ => none

/-- What is listed under codes of success, in the order of the codes as texts. -/
def successEntries (entries : List (Atom × Value)) : List (Atom × Value) :=
  (entries.mergeSort fun a b => a.1.displayed ≤ b.1.displayed).filter fun entry => isSuccess entry.1.displayed

/-- The responses of success in the order of their codes. -/
def successes (document : Value) (entries : List (Atom × Value)) : List Value :=
  (successEntries entries).filterMap (listedResponse document)

/-- The content of a response, if it has some. -/
def contentOf (response : Value) : Option Value := (response.field? "content").filter Value.truthy

section

variable (typing : Option Value → Except Fault Expr)

/-- The type of the schema of the media type that is used of some content. -/
def contentType (content : Value) : Except Fault Expr := do
  let (_, media) ← (pickMedia content : Except Fault (String × Value))
  typing (← mediaSchema media)

/-- The return type as it is meant to be: that of the first response with content, null if no response has content, and
anything if there are no responses. -/
def documentedType (responses : List Value) : Except Fault Expr :=
  match responses.findSome? contentOf with
  | some content => contentType typing content
  | none => .ok (if responses.isEmpty then .anything else .constant .null)

/-- The return type by the first response alone. -/
def decidedType : List Value → Except Fault Expr
  | [] => .ok .anything
  | response :: _ => (contentOf response).elim (.ok (.constant .null)) (contentType typing)

end

variable {document operation : Value} {entries : List (Atom × Value)} {typing : Option Value → Except Fault Expr}

/-! ### Codes and their texts -/

theorem ne_nil_of_isSuccess {code : String} (success : isSuccess code = true) : code.toList ≠ [] := by
  intro none
  rw [isSuccess, none] at success
  cases success

/-- The number of a code of success has no sign. -/
theorem natural_of_isSuccess {n : Int} (success : isSuccess (toString n) = true) : ∃ k : Nat, n = k := by
  cases n with
  | ofNat k => exact ⟨k, rfl⟩
  | negSucc k =>
    have signed : (toString (Int.negSucc k)).toList = '-' :: (toString (k + 1)).toList := String.toList_append
    rw [isSuccess, signed] at success
    simp at success

/-- A text of digits is looked up as the number that it spells, if they can be read. -/
theorem numericKey_digits {code : String} (digits : ∀ c ∈ code.toList, Text.isAsciiDigit c = true)
    (some : code.toList ≠ []) :
    numericKey code = (Number.limitedWhole? code.toList).elim (.error .badValue) fun n => .ok (.int n) := by
  have all : code.toList.all Text.isDigit = true := by
    rw [List.all_eq_true]
    intro c member
    have range := (Text.isAsciiDigit_iff c).mp (digits c member)
    have ascii : Text.isAscii c = true := by
      rw [Text.isAscii, decide_eq_true_eq]
      omega
    rw [Text.isDigit, if_pos ascii, digits c member]
  have isNumber : (!code.toList.isEmpty && code.toList.all Text.isDigit) = true := by simpa [all] using some
  simp only [numericKey, isNumber, if_true]
  cases Number.limitedWhole? code.toList <;> rfl

theorem numericKey_text {code : String} (isCode : IsCode (.text code)) (success : isSuccess code = true) :
    ∃ numeric, numericKey code = .ok numeric := by
  obtain ⟨ascii, short⟩ := isCode
  have some := ne_nil_of_isSuccess success
  by_cases digits : ∀ c ∈ code.toList, Text.isAsciiDigit c = true
  · refine ⟨.int (Nat.ofDigitChars 10 code.toList 0 : Nat), ?_⟩
    rw [numericKey_digits digits some, Number.limitedWhole?_digits digits some (short success digits)]
    rfl
  · have noNumber : (!code.toList.isEmpty && code.toList.all Text.isDigit) = false := by
      rw [← Bool.not_eq_true, Bool.and_eq_true, List.all_eq_true]
      rintro ⟨-, all⟩
      refine digits fun c member => ?_
      have digit := all c member
      rwa [Text.isDigit, if_pos (ascii c member)] at digit
    exact ⟨.text code, by simp only [numericKey, noNumber]; rfl⟩

theorem numericKey_int {n : Int} (isCode : IsCode (.int n)) (success : isSuccess (toString n) = true) :
    numericKey (toString n) = .ok (.int n) := by
  obtain ⟨k, rfl⟩ := natural_of_isSuccess success
  have shown : toString (k : Int) = toString k := rfl
  have read : Number.limitedWhole? (toString k).toList = some (k : Int) := Number.limitedWhole?_toString isCode
  rw [shown, numericKey_digits Number.isAsciiDigit_toString (ne_nil_of_isSuccess success), read]
  rfl

/-- Every code of success leads to the entry that it was taken from. -/
theorem responseAt_entry (coded : Coded document entries) {entry : Atom × Value} (member : entry ∈ entries)
    (success : isSuccess entry.1.displayed = true) :
    (responseAt (.map entries) entry.1.displayed : Except Fault (Option Value)) = .ok (some entry.2) := by
  have only : ∀ other ∈ entries, other.1.displayed = entry.1.displayed → other = entry := fun other listed same =>
    List.inj_on_of_nodup_map coded.distinct listed member same
  have opened : ∀ numeric, numericKey entry.1.displayed = .ok numeric →
      (responseAt (.map entries) entry.1.displayed : Except Fault (Option Value)) =
        .ok ((Entries.field? entries entry.1.displayed).or (Entries.get? entries numeric)) := by
    intro numeric isNumeric
    simp only [responseAt, isNumeric]
    rfl
  have isCode := coded.codes entry member
  obtain ⟨code, value⟩ := entry
  cases code with
  | text code =>
    obtain ⟨numeric, isNumeric⟩ := numericKey_text isCode success
    have found : Entries.field? entries code = some value := by
      refine Entries.get?_of_mem member (Atom.same_refl _) fun other listed same => only other listed ?_
      rw [Atom.same_text, decide_eq_true_eq] at same
      rw [same]
    rw [opened numeric isNumeric]
    exact congrArg Except.ok (congrArg (Option.or · _) found)
  | int n =>
    -- The text of a number is asked for first; it is not listed, as no code is there in both forms.
    have absent : Entries.field? entries (toString n) = none := by
      refine Entries.get?_eq_none fun other listed => ?_
      rw [Atom.same_text, decide_eq_false_iff_not]
      intro isText
      have isEntry := only other listed (by rw [isText]; rfl)
      rw [isEntry] at isText
      cases isText
    have found : Entries.get? entries (.int n) = some value := by
      refine Entries.get?_of_mem member (Atom.same_refl _) fun other listed same => only other listed ?_
      have otherCode := coded.codes other listed
      obtain ⟨otherKey, otherValue⟩ := other
      cases otherKey with
      | text s => cases same
      | int m =>
        obtain rfl : m = n := of_decide_eq_true same
        rfl
      | _ => exact otherCode.elim
    rw [opened _ (numericKey_int isCode success)]
    exact congrArg Except.ok ((congrArg (Option.or · _) absent).trans found)
  | _ => exact isCode.elim

theorem shown_code {code : Atom} (isCode : IsCode code) : (Value.atom code).shown = .ok code.displayed := by
  cases code with
  | text s => rfl
  | int n => exact if_pos isCode
  | _ => exact isCode.elim

/-- The codes of success are listed in the order of their texts. -/
theorem successStatuses_shown
    (shown : ∀ entry ∈ entries, (Value.atom entry.1).shown = .ok entry.1.displayed) :
    (successStatuses (Value.map entries) : Except Fault (List String)) =
      .ok ((successEntries entries).map (·.1.displayed)) := by
  have texts : (entries.map fun entry => Value.atom entry.1).mapM Value.shown = .ok (entries.map (·.1.displayed)) := by
    induction entries with
    | nil => rfl
    | cons entry rest ih =>
      rw [List.map_cons, List.mapM_cons, shown entry List.mem_cons_self,
        ih fun other member => shown other (List.mem_cons_of_mem _ member)]
      rfl
  have sorted : (entries.map (·.1.displayed)).mergeSort (fun a b => a ≤ b) =
      (entries.mergeSort fun a b => a.1.displayed ≤ b.1.displayed).map (·.1.displayed) :=
    (List.map_mergeSort (f := fun entry : Atom × Value => entry.1.displayed) fun _ _ _ _ => rfl).symm
  simp only [successStatuses, whole_except, except_bind_ok, Value.members?, lift_except, texts, sorted, List.filter_map,
    except_pure]
  rfl

/-! ### The response that decides -/

theorem mapping?_except (v : Value) :
    (mapping? (some v) : Except Fault (Option Value)) = .ok (if v.shape.isMap then some v else none) := by
  cases isMap : v.shape.isMap <;> simp [mapping?, isMap]

/-- The first response decides what is returned, whether or not it has content. -/
theorem returnTypeFrom_coded (coded : Coded document entries) (listed : List (Atom × Value))
    (within : ∀ entry ∈ listed, entry ∈ entries ∧ isSuccess entry.1.displayed = true) :
    returnTypeFrom typing document (.map entries) (listed.map (·.1.displayed)) =
      decidedType typing (listed.filterMap (listedResponse document)) := by
  -- Only a response that is no mapping lets the next one be looked at.
  induction listed with
  | nil => rfl
  | cons entry rest ih =>
    obtain ⟨member, success⟩ := within entry List.mem_cons_self
    have later := ih fun other listed => within other (List.mem_cons_of_mem entry listed)
    obtain ⟨response, resolved⟩ := coded.resolve entry member
    have found : Reference.derefOf (some entry.2) document = (.ok (some response) : Except Fault (Option Value)) := by
      rw [Reference.derefOf, resolved]
      rfl
    rw [List.map_cons, returnTypeFrom, responseAt_entry coded member success, except_bind_ok, found, except_bind_ok,
      mapping?_except, except_bind_ok]
    by_cases isMap : response.shape.isMap = true
    · have isListed : listedResponse document entry = some response := by simp [listedResponse, resolved, isMap]
      rw [List.filterMap_cons_some isListed, decidedType, if_pos isMap, contentOf]
      simp only [fieldOf_of_isMap isMap, except_bind_ok, ifTrue_except]
      cases (response.field? "content").filter Value.truthy <;> rfl
    · have notListed : listedResponse document entry = none := by simp [listedResponse, resolved, isMap]
      rw [List.filterMap_cons_none notListed, if_neg isMap]
      exact later

/-- Responses are looked at in the order of their codes, if there are any. -/
theorem returnType_responses {responses : Value} (stated : operation.field? "responses" = some responses) :
    returnType typing document operation =
      if responses.truthy then successStatuses responses >>= returnTypeFrom typing document responses
      else .ok .anything := by
  have isMap : operation.shape.isMap = true := by
    cases operation with
    | map fields => rfl
    | _ => cases stated
  rw [returnType, fieldOf_of_isMap isMap, stated, except_bind_ok, ifTrue_except, except_bind_ok]
  cases truthy : responses.truthy <;> simp [Option.filter, truthy]

/-- The responses of success decide what is returned through the first of them. -/
theorem returnType_coded (stated : operation.field? "responses" = some (.map entries))
    (coded : Coded document entries) :
    returnType typing document operation = decidedType typing (successes document entries) := by
  rw [returnType_responses stated]
  cases entries with
  | nil =>
    have none : successes document [] = [] := by simp [successes, successEntries]
    rw [none]
    rfl
  | cons first rest =>
    have truthy : (Value.map (first :: rest)).truthy = true := rfl
    rw [if_pos truthy, successStatuses_shown fun entry member => shown_code (coded.codes entry member), except_bind_ok]
    refine returnTypeFrom_coded coded _ fun entry listed => ?_
    obtain ⟨sorted, success⟩ := List.mem_filter.mp listed
    exact ⟨List.mem_mergeSort.mp sorted, success⟩

/-- If the first response has no content, no response has. -/
def FirstSpeaks (responses : List Value) : Prop :=
  ∀ first ∈ responses.head?, contentOf first = none → ∀ response ∈ responses, contentOf response = none

theorem decidedType_eq_documentedType_iff {responses : List Value} :
    decidedType typing responses = documentedType typing responses ↔
      FirstSpeaks responses ∨ documentedType typing responses = .ok (.constant .null) := by
  cases responses with
  | nil => simp [decidedType, documentedType, FirstSpeaks]
  | cons first rest =>
    cases found : contentOf first with
    | some content =>
      have speaks : FirstSpeaks (first :: rest) := by
        rintro _ ⟨⟩ none
        rw [found] at none
        cases none
      simp [decidedType, documentedType, found, speaks]
    | none =>
      have decided : decidedType typing (first :: rest) = .ok (.constant .null) := by
        rw [decidedType, found]
        rfl
      rw [decided]
      constructor
      · intro same
        exact .inr same.symm
      · rintro (silent | same)
        · have without : (first :: rest).findSome? contentOf = none :=
            List.findSome?_eq_none_iff.mpr (silent first rfl found)
          rw [documentedType, without]
          rfl
        · exact same.symm

/-- The return type is that of the first response of success. It is the documented one exactly if this response speaks
for the others, or if the content that it keeps from being used stands for null as well. A function states it
whenever there is one. -/
theorem returnType_documented_iff (stated : operation.field? "responses" = some (.map entries))
    (coded : Coded document entries) :
    returnType (typeOf document) document operation = decidedType (typeOf document) (successes document entries) ∧
      (returnType (typeOf document) document operation =
          documentedType (typeOf document) (successes document entries) ↔
        FirstSpeaks (successes document entries) ∨
          documentedType (typeOf document) (successes document entries) = .ok (.constant .null)) ∧
      ∀ method path item taken log later f,
        (toFunction document method path operation item taken).run.run log = (.ok f, later) →
        ∃ type, f.returns = some type ∧ returnType (typeOf document) document operation = .ok type := by
  have decided : returnType (typeOf document) document operation =
      decidedType (typeOf document) (successes document entries) := returnType_coded stated coded
  refine ⟨decided, ?_, ?_⟩
  · rw [decided]
    exact decidedType_eq_documentedType_iff
  · intro method path item taken log later f converted
    obtain ⟨_, reads⟩ := toFunction_reads document method path operation item taken log
    rw [reads, Prod.mk.injEq] at converted
    replace converted := converted.1
    simp only [convert, bind_eq_ok] at converted
    obtain ⟨_, -, _, -, _, -, _, -, type, isType, _, -, ended⟩ := converted
    cases ended
    exact ⟨type, rfl, isType⟩

/-- An operation that says nothing but its responses. -/
def responding (entries : List (Atom × Value)) : Value := .ofFields [("responses", .map entries)]

private theorem toFunction_responding {type : Expr}
    (isReturn : returnType (typeOf document) document (responding entries) = .ok type) :
    ∃ (f : Function) (later : List LogRecord),
      (toFunction document "get" "/pets" (responding entries) none none).run.run [] = (.ok f, later) ∧
        f.returns = some type := by
  obtain ⟨records, reads⟩ := toFunction_reads document "get" "/pets" (responding entries) none none []
  have converts : ∃ f, convert (typeOf document) document "get" "/pets" (responding entries) none none =
      (.ok f : Except Fault Function) ∧ f.returns = some type := by
    simp only [convert, isReturn, except_bind_ok]
    exact ⟨_, rfl, rfl⟩
  obtain ⟨f, converts, returns⟩ := converts
  rw [converts] at reads
  exact ⟨f, _, reads, returns⟩

/-- A response with a text as its content. -/
def told : Value :=
  .ofFields [("content", .ofFields [("application/json", .ofFields
    [("schema", .ofFields [("type", .text "string")])])])]

/-- A response without content. -/
def silent : Value := .ofFields [("description", .text "done")]

/-- A document with a response to refer to. -/
def toldDocument : Value := .ofFields [("components", .ofFields [("responses", .ofFields [("Told", told)])])]

/-- Codes as texts and as a number, the latter with a reference. -/
def mixedCodes : List (Atom × Value) :=
  [(.text "404", told), (.text "204", silent), (.int 200, .ofFields [("$ref", .text "#/components/responses/Told")])]

private theorem coded_mixedCodes : Coded toldDocument mixedCodes where
  codes := by
    have isNumber : (Atom.int 200).isWritable = true := by decide +kernel
    simp only [mixedCodes, List.forall_mem_cons]
    exact ⟨⟨List.all_eq_true.mp (by decide), fun _ _ => by decide⟩, ⟨List.all_eq_true.mp (by decide), fun _ _ => by decide⟩, isNumber, nofun⟩
  distinct := by decide +kernel
  resolve := by
    simp only [mixedCodes, List.forall_mem_cons]
    exact ⟨⟨_, rfl⟩, ⟨_, rfl⟩, ⟨_, rfl⟩, nofun⟩

private theorem successes_mixedCodes : successes toldDocument mixedCodes = [told, silent] := by
  have first : ¬ (Atom.text "404").displayed ≤ (Atom.text "204").displayed := by decide +kernel
  have second : ¬ (Atom.text "204").displayed ≤ (Atom.int 200).displayed := by decide +kernel
  simp [successes, successEntries, mixedCodes, List.mergeSort, first, second]
  rfl

theorem returnType_documented_mixedCodes : Coded toldDocument mixedCodes ∧
    returnType (typeOf toldDocument) toldDocument (responding mixedCodes) = .ok (.name "str") ∧
    ∃ (f : Function) (later : List LogRecord),
      (toFunction toldDocument "get" "/pets" (responding mixedCodes) none none).run.run [] = (.ok f, later) ∧
        f.returns = some (.name "str") := by
  have stated : (responding mixedCodes).field? "responses" = some (.map mixedCodes) := rfl
  obtain ⟨-, documented, states⟩ := returnType_documented_iff stated coded_mixedCodes
  rw [successes_mixedCodes] at documented
  have speaks : FirstSpeaks [told, silent] := by
    rintro _ ⟨⟩ none
    cases none
  have isType : returnType (typeOf toldDocument) toldDocument (responding mixedCodes) = .ok (.name "str") :=
    documented.mpr (.inl speaks)
  obtain ⟨f, later, converted, -⟩ := toFunction_responding isType
  obtain ⟨type, returns, isReturn⟩ := states _ _ _ _ _ _ _ converted
  obtain rfl := Except.ok.inj (isReturn.symm.trans isType)
  exact ⟨coded_mixedCodes, isType, f, later, converted, returns⟩

/-- Two responses of success, of which the second has content. -/
def silentFirst : List (Atom × Value) := [(.text "200", silent), (.text "201", told)]

private theorem coded_silentFirst : Coded (.map []) silentFirst where
  codes := by
    simp only [silentFirst, List.forall_mem_cons]
    exact ⟨⟨List.all_eq_true.mp (by decide), fun _ _ => by decide⟩, ⟨List.all_eq_true.mp (by decide), fun _ _ => by decide⟩, nofun⟩
  distinct := by decide +kernel
  resolve := by
    simp only [silentFirst, List.forall_mem_cons]
    exact ⟨⟨_, rfl⟩, ⟨_, rfl⟩, nofun⟩

private theorem successes_silentFirst : successes (.map []) silentFirst = [silent, told] := by
  have order : (Atom.text "200").displayed ≤ (Atom.text "201").displayed := by decide +kernel
  simp [successes, successEntries, silentFirst, List.mergeSort, order]
  rfl

/-- A code of success with too many digits. -/
def longCode : String := String.ofList (List.replicate (Number.digitLimit + 1) '2')

theorem numericKey_longCode : numericKey longCode = .error .badValue := by
  have digits : ∀ c ∈ longCode.toList, Text.isAsciiDigit c = true := by
    intro c member
    rw [longCode, String.toList_ofList] at member
    rw [List.eq_of_mem_replicate member]
    rfl
  have length : longCode.toList.length = Number.digitLimit + 1 := by
    rw [longCode, String.toList_ofList, List.length_replicate]
  have long : Number.digitLimit < longCode.toList.length := by omega
  rw [numericKey_digits digits (List.ne_nil_of_length_eq_add_one length), Number.limitedWhole?_long digits long]
  rfl

private theorem successEntries_single {code : String} {response : Value} (success : isSuccess code = true) :
    successEntries [(.text code, response)] = [(.text code, response)] := by
  rw [successEntries, List.mergeSort_singleton]
  exact List.filter_cons_of_pos success

/-- The only response of success is looked up in any case. -/
private theorem returnType_unreadable {code : String} {response : Value} {fault : Fault}
    (success : isSuccess code = true) (unreadable : numericKey code = .error fault) :
    returnType typing document (responding [(.text code, response)]) = .error fault := by
  have shown : ∀ entry ∈ [(Atom.text code, response)], (Value.atom entry.1).shown = .ok entry.1.displayed := by
    simp only [List.forall_mem_singleton]
    rfl
  have refused : (responseAt (Value.map [(.text code, response)]) code : Except Fault (Option Value)) =
      .error fault := by
    simp only [responseAt, unreadable]
    rfl
  have stated : (responding [(.text code, response)]).field? "responses" = some (.map [(.text code, response)]) := rfl
  have truthy : (Value.map [(.text code, response)]).truthy = true := rfl
  rw [returnType_responses stated, if_pos truthy, successStatuses_shown shown, successEntries_single success,
    except_bind_ok]
  exact congrArg (· >>= _) refused

/-- Content is ignored if it is not that of the first response of success. A code with too many digits cannot be looked
up. -/
theorem returnType_undocumented :
    (Coded (.map []) silentFirst ∧
      documentedType (typeOf (.map [])) (successes (.map []) silentFirst) = .ok (.name "str") ∧
      ∃ (f : Function) (later : List LogRecord),
        (toFunction (.map []) "get" "/pets" (responding silentFirst) none none).run.run [] = (.ok f, later) ∧
          f.returns = some (.constant .null)) ∧
    documentedType (typeOf (.map [])) (successes (.map []) [(.text longCode, silent)]) = .ok (.constant .null) ∧
      returnType (typeOf (.map [])) (.map []) (responding [(.text longCode, silent)]) =
        (.error .badValue : Except Fault Expr) := by
  have success : isSuccess longCode = true := by
    rw [isSuccess, longCode, String.toList_ofList, List.replicate_succ]
    rfl
  refine ⟨⟨coded_silentFirst, ?_, ?_⟩, ?_, returnType_unreadable success numericKey_longCode⟩
  · rw [successes_silentFirst]
    rfl
  · refine toFunction_responding ?_
    rw [returnType_coded rfl coded_silentFirst, successes_silentFirst]
    rfl
  · rw [successes, successEntries_single success]
    rfl

end Operation

end ClientGen
