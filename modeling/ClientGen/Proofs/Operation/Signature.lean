import ClientGen.Proofs.Operation.Annotations
import ClientGen.Proofs.Operation.ArgumentNames
import ClientGen.Proofs.Operation.Parameters

/-!
The signature of a function and the call that it makes. Every parameter in the path, in the query or in a header
has an argument of its own, and so has the request body. The call refers to each argument exactly once, and passes
it under the name and in the place of what it carries (`signature_matches_call`).
-/

namespace ClientGen

namespace Expr

mutual

/-- The names that an expression refers to, each as often as it does. -/
def names : Expr → List String
  | name id => [id]
  | constant _ => []
  | index base arguments => base :: namesOfAll arguments
  | tuple items => namesOfAll items
  | list items => namesOfAll items
  | set items => namesOfAll items
  | dict entries => namesOfEntries entries
  | call function arguments named => function :: (namesOfAll arguments ++ namesOfNamed named)
  | negative operand => names operand

def namesOfAll : List Expr → List String
  | [] => []
  | e :: rest => names e ++ namesOfAll rest

def namesOfEntries : List (Expr × Expr) → List String
  | [] => []
  | (k, v) :: rest => names k ++ (names v ++ namesOfEntries rest)

def namesOfNamed : List (String × Expr) → List String
  | [] => []
  | (_, v) :: rest => names v ++ namesOfNamed rest

end

theorem namesOfNamed_append (first rest : List (String × Expr)) :
    namesOfNamed (first ++ rest) = namesOfNamed first ++ namesOfNamed rest := by
  induction first with
  | nil => rfl
  | cons entry more ih => rw [List.cons_append, namesOfNamed, ih, namesOfNamed, List.append_assoc]

/-- What a named argument of a call hands over: the argument's name, the key if the value stands in a mapping, and
the value. -/
def handed : String × Expr → List (String × Option Expr × Expr)
  | (argument, dict entries) => entries.map fun entry => (argument, some entry.1, entry.2)
  | (argument, value) => [(argument, none, value)]

end Expr

/-- The names of the arguments of a function. -/
def Function.argumentNames (f : Function) : List String := f.positional.map (·.name) ++ f.named.map (·.name)

/-- The default of an argument that is passed by name. -/
def NamedArgument.default? (a : NamedArgument) : Option Expr := if a.required then none else some (.constant .null)

/-- The defaults of the arguments that are passed by name, in their order. -/
def Function.defaults (f : Function) : List (Option Expr) := f.named.map NamedArgument.default?

namespace Operation

open Naming (IsArgumentName IsSnake)

/-- A parameter that is sent, with the argument that carries it. -/
structure Carried extends Sent where
  type : Expr
  required : Bool

/-- A request body that is sent, with the argument of the helper that takes it and the argument that carries it. -/
structure CarriedBody where
  keyword : String
  argument : String
  type : Expr
  required : Bool

namespace Carried

def isPositional (c : Carried) : Bool := c.location = .path

def positional (c : Carried) : Argument := ⟨c.argument, c.type⟩

/-- An argument that may be left out admits null. -/
def named (c : Carried) : NamedArgument :=
  ⟨c.argument, if c.required then c.type else .optional c.type, c.required⟩

/-- What the call hands over for a parameter: the argument, under the name that the document gives it. -/
def handed (c : Carried) : String × Option Expr × Expr := (c.location.group, some (.text c.sentAs), .name c.argument)

end Carried

namespace CarriedBody

def named (b : CarriedBody) : NamedArgument :=
  ⟨b.argument, if b.required then b.type else .optional b.type, b.required⟩

def handed (b : CarriedBody) : String × Option Expr × Expr := (b.keyword, none, .name b.argument)

end CarriedBody

/-- Where a parameter is sent, if it is sent at all. -/
def sentTo? (parameter : Value) : Option Location :=
  match parameter.field? "in" with
  | some (.text s) => locations.find? fun location => location.label = s
  | _ => none

/-- An argument carries a parameter. Parameters in the path are always required. -/
structure Carries (document parameter : Value) (c : Carried) : Prop where
  location : parameter.field? "in" = some (.text c.location.label)
  sentAs : ∃ name, parameter.field? "name" = some name ∧ name.shown = .ok c.sentAs
  type : typeOf document (parameter.field? "schema") = .ok c.type
  required : c.required = true ↔
    c.location = .path ∨ ∃ stated, parameter.field? "required" = some stated ∧ stated.truthy = true

/-- There is an argument for the request body of an operation exactly if the body has content. -/
def CarriesBody (document operation : Value) : Option CarriedBody → Prop
  | none => ∀ body content, bodyOf document operation = .ok (some body) → ¬ HasContent body content
  | some b => ∃ body content mediaType media schema, bodyOf document operation = .ok (some body) ∧
      HasContent body content ∧ (pickMedia content : Except Fault (String × Value)) = .ok (mediaType, media) ∧
      (mediaSchema media : Except Fault (Option Value)) = .ok schema ∧ typeOf document schema = .ok b.type ∧
      b.keyword = bodyArgument mediaType ∧
      (b.required = true ↔ ∃ stated, body.field? "required" = some stated ∧ stated.truthy = true)

/-- A function and the call that it makes agree about what is carried. -/
structure Agrees (method path : String) (sent : List Carried) (body : Option CarriedBody) (f : Function) : Prop where
  positional : f.positional = (sent.filter Carried.isPositional).map Carried.positional
  named : f.named = (sent.filter fun c => !c.isPositional).map Carried.named ++ body.toList.map CarriedBody.named
  defaults : f.defaults.length = f.named.length
  distinct : f.argumentNames.Nodup
  valid : ∀ name ∈ f.argumentNames,
    Naming.isIdentifier name.toList = true ∧ Naming.isKeyword name.toList = false ∧ name ≠ "_request"
  used : f.call.names.Perm ("_request" :: f.argumentNames)
  call : ∃ arguments, f.call =
      .call "_request" [.text (String.ofList (method.toList.flatMap Text.upper)), .text path] arguments ∧
    (arguments.map (·.1)).Nodup ∧
    (∀ keyword entries, (keyword, .dict entries) ∈ arguments → (entries.map (·.1)).Nodup) ∧
    (arguments.flatMap Expr.handed).Perm (sent.map Carried.handed ++ body.toList.map CarriedBody.handed)

/-! ### Signatures -/

/-- The signature that carries parameters. -/
def signatureOf (sent : List Carried) : Signature where
  positional := (sent.filter Carried.isPositional).map Carried.positional
  named := (sent.filter fun c => !c.isPositional).map Carried.named
  sent := sent.map Carried.toSent
  taken := sent.map (·.argument)

/-- Whether a parameter in the path is said to be required makes no difference. -/
theorem push_signatureOf (sent : List Carried) (c : Carried) {required : Bool}
    (same : c.location ≠ .path → required = c.required) :
    (signatureOf sent).push c.location c.sentAs c.argument c.type required = signatureOf (sent ++ [c]) := by
  obtain ⟨⟨location, sentAs, argument⟩, type, _⟩ := c
  by_cases inPath : location = .path
  · simp [signatureOf, Signature.push, Carried.isPositional, Carried.positional, inPath]
  · obtain rfl := same inPath
    simp [signatureOf, Signature.push, Carried.isPositional, Carried.named, namedArgument, inPath]

/-- Arguments that differ, and are named like arguments. -/
structure WellNamed (arguments : List String) : Prop where
  distinct : arguments.Nodup
  valid : ∀ name ∈ arguments, IsArgumentName name

theorem WellNamed.snoc {arguments : List String} (wellNamed : WellNamed arguments) {wanted suffix : String}
    (isName : IsArgumentName wanted) (snake : ∀ c ∈ suffix.toList, IsSnake c) :
    WellNamed (arguments ++ [argumentName arguments wanted suffix]) := by
  constructor
  · rw [List.nodup_append]
    refine ⟨wellNamed.distinct, List.nodup_singleton _, ?_⟩
    rintro name before _ last rfl
    exact argumentName_not_mem arguments wanted suffix (List.mem_singleton.mp last ▸ before)
  · intro name member
    rcases List.mem_append.mp member with before | last
    · exact wellNamed.valid name before
    · rw [List.mem_singleton.mp last]
      exact isArgumentName_argumentName isName snake

/-- A parameter is sent where its entry says, if it is sent at all. -/
theorem locationOf_ok {parameter : Value} {location : Option Location}
    (done : (locationOf parameter : Except Fault (Option Location)) = .ok location) : location = sentTo? parameter := by
  obtain ⟨stated, hasField, done⟩ := bind_eq_ok.mp done
  obtain rfl := fieldOf_ok hasField
  cases stated : parameter.field? "in" with
  | none =>
    rw [stated] at done
    cases done
    rw [sentTo?, stated]
  | some node =>
    rw [stated] at done
    simp only [shape_except, except_bind_ok] at done
    split at done
    · rename_i s isText
      obtain rfl : node = .text s := by
        cases node <;> simp_all
      cases done
      rw [sentTo?, stated]
    · rename_i a noText isAtom
      obtain rfl : node = .atom a := by
        cases node <;> simp_all
      cases done
      rw [sentTo?, stated]
      split
      · rename_i s equal
        cases equal
        exact absurd rfl (noText s)
      · rfl
    · rename_i items isTuple
      obtain rfl : node = .tuple items := by
        cases node <;> simp_all
      cases done
      rw [sentTo?, stated]
    · cases done

theorem sentTo?_eq_some {parameter : Value} {location : Location} (sent : sentTo? parameter = some location) :
    parameter.field? "in" = some (.text location.label) := by
  unfold sentTo? at sent
  split at sent
  · rename_i s stated
    have label : location.label = s := by simpa using List.find?_some sent
    rw [stated, label]
  · cases sent

theorem parameterName_ok {parameter : Value} {text : String}
    (done : (parameterName parameter : Except Fault String) = .ok text) :
    ∃ name, parameter.field? "name" = some name ∧ name.shown = .ok text := by
  obtain ⟨stated, hasField, done⟩ := bind_eq_ok.mp done
  obtain rfl := fieldOf_ok hasField
  cases stated : parameter.field? "name" with
  | none =>
    rw [stated] at done
    cases done
  | some name =>
    rw [stated] at done
    exact ⟨name, rfl, by simpa using done⟩

private theorem isStatedTrue_iff {stated : Option Value} :
    (stated.map Value.truthy).getD false = true ↔ ∃ v, stated = some v ∧ v.truthy = true := by
  cases stated <;> simp

private theorem isSnake_of_lower {text : String} (lower : text.toList.all Text.isAsciiLower = true) :
    ∀ c ∈ text.toList, IsSnake c := fun c member => .inl (List.all_eq_true.mp lower c member)

theorem isSnake_label (location : Location) : ∀ c ∈ location.label.toList, IsSnake c :=
  isSnake_of_lower (by cases location <;> rfl)

private theorem isSnake_param : ∀ c ∈ "param".toList, IsSnake c := isSnake_of_lower rfl

/-- Adding a parameter adds the argument that carries it, if it is sent. -/
theorem addParameter_ok {document parameter : Value} {sent : List Carried} {result : Signature}
    (added : addParameter (typeOf document) (signatureOf sent) parameter = (.ok result : Except Fault Signature))
    (wellNamed : WellNamed (sent.map (·.argument))) :
    ∃ more, result = signatureOf (sent ++ more) ∧ WellNamed ((sent ++ more).map (·.argument)) ∧
      List.Forall₂ (Carries document) ([parameter].filter fun p => (sentTo? p).isSome) more := by
  obtain ⟨location, isLocation, added⟩ := bind_eq_ok.mp added
  have found := locationOf_ok isLocation
  cases location with
  | none =>
    simp only [bind_eq_ok] at added
    obtain ⟨_, -, _, -, _, -, _, -, _, -, ended⟩ := added
    cases ended
    exact ⟨[], by simp, by simpa using wellNamed, by simp [← found]⟩
  | some location =>
    simp only [bind_eq_ok] at added
    obtain ⟨_, -, wanted, isWanted, schema, hasSchema, type, typed, stated, isStated, required, isRequired,
      sentAs, isSentAs, ended⟩ := added
    cases ended
    obtain rfl := fieldOf_ok hasSchema
    obtain rfl := fieldOf_ok isStated
    rw [lift_except] at isWanted
    have isArgument : IsArgumentName wanted :=
      Naming.isArgumentName_snakeCase isSnake_param ⟨'p', _, rfl, by decide⟩ isWanted
    let c : Carried := ⟨⟨location, sentAs, argumentName (sent.map (·.argument)) wanted location.label⟩, type,
      location = .path || required⟩
    refine ⟨[c], ?_, ?_, ?_⟩
    · refine push_signatureOf sent c fun notPath => ?_
      simp [c, show location ≠ .path from notPath]
    · rw [List.map_append]
      exact wellNamed.snoc isArgument (isSnake_label location)
    · have isSent : (sentTo? parameter).isSome = true := by rw [← found]; rfl
      have carries : Carries document parameter c := by
        refine ⟨sentTo?_eq_some found.symm, parameterName_ok isSentAs, typed, ?_⟩
        simp only [isTrue_except, Except.ok.injEq] at isRequired
        rw [Bool.or_eq_true, decide_eq_true_eq, ← isRequired, isStatedTrue_iff]
      simpa [isSent] using carries

/-- Adding parameters adds the arguments that carry those of them that are sent. -/
theorem addParameters_ok {document : Value} {nodes : List Value} {sent : List Carried} {result : Signature}
    (added : addParameters (typeOf document) (signatureOf sent) nodes = (.ok result : Except Fault Signature))
    (wellNamed : WellNamed (sent.map (·.argument))) :
    ∃ more, result = signatureOf (sent ++ more) ∧ WellNamed ((sent ++ more).map (·.argument)) ∧
      List.Forall₂ (Carries document) (nodes.filter fun p => (sentTo? p).isSome) more := by
  induction nodes generalizing sent with
  | nil =>
    cases added
    exact ⟨[], by simp, by simpa using wellNamed, .nil⟩
  | cons parameter rest ih =>
    obtain ⟨next, first, others⟩ := bind_eq_ok.mp added
    obtain ⟨here, rfl, wellNamed, carries⟩ := addParameter_ok first wellNamed
    obtain ⟨later, rfl, wellNamed, carried⟩ := ih others wellNamed
    refine ⟨here ++ later, by rw [List.append_assoc], by rwa [← List.append_assoc], ?_⟩
    rw [← List.singleton_append, List.filter_append]
    exact List.rel_append carries carried

/-- A signature with the argument that carries a request body, if one does. -/
def withBody (signature : Signature) : Option CarriedBody → Signature
  | none => signature
  | some b => signature.pushBody b.argument b.type b.required

/-- Adding the request body adds the argument that carries it, if it has content. -/
theorem addBody_ok {document operation : Value} {signature result : Signature} {passed : Option (String × String)}
    (added : addBody (typeOf document) document operation signature =
      (.ok (result, passed) : Except Fault (Signature × Option (String × String))))
    (wellNamed : WellNamed signature.taken) :
    ∃ body, CarriesBody document operation body ∧ result = withBody signature body ∧
      passed = body.map (fun b => (b.keyword, b.argument)) ∧
      WellNamed (signature.taken ++ body.toList.map (·.argument)) := by
  simp only [addBody, bind_eq_ok] at added
  obtain ⟨stated, hasField, followed, isFollowed, body, isBody, added⟩ := added
  have found : bodyOf document operation = .ok body := by
    rw [bodyOf, hasField, except_bind_ok, isFollowed, except_bind_ok, isBody]
  cases body with
  | none =>
    cases added
    refine ⟨none, fun body content found' => ?_, rfl, rfl, by simpa using wellNamed⟩
    rw [found] at found'
    cases found'
  | some body =>
    simp only [bind_eq_ok] at added
    obtain ⟨stated, hasField, content, isContent, added⟩ := added
    have hasContent : ∀ v, HasContent body v ↔ content = some v := fun v => hasContent_iff hasField isContent
    cases content with
    | none =>
      cases added
      refine ⟨none, fun other content found' hasContent' => ?_, rfl, rfl, by simpa using wellNamed⟩
      rw [found] at found'
      cases found'
      cases (hasContent content).mp hasContent'
    | some content =>
      simp only [bind_eq_ok] at added
      obtain ⟨⟨mediaType, media⟩, picked, schema, isSchema, type, typed, stated, isStated, required, isRequired,
        ended⟩ := added
      cases ended
      obtain rfl := fieldOf_ok isStated
      simp only [isTrue_except, Except.ok.injEq] at isRequired
      have isName : IsArgumentName "body" := ⟨isSnake_of_lower rfl, rfl, by decide +kernel⟩
      have snake : ∀ c ∈ "request".toList, IsSnake c := isSnake_of_lower rfl
      refine ⟨some ⟨bodyArgument mediaType, argumentName signature.taken "body" "request", type, required⟩, ?_, rfl,
        rfl, wellNamed.snoc isName snake⟩
      refine ⟨body, content, mediaType, media, schema, found, (hasContent content).mpr rfl, picked, isSchema, typed,
        rfl, ?_⟩
      rw [← isRequired, isStatedTrue_iff]

/-! ### What is sent under which name -/

/-- What a parameter that is carried is merged under. -/
def Carried.pair (c : Carried) : String × String := (c.sentAs, c.location.label)

theorem Carries.pair_eq {document : Value} {p : Merged Value} {c : Carried} (carries : Carries document p.node c)
    (read : p.IsRead) : c.pair = p.pair := by
  obtain ⟨name, hasName, isName⟩ := read.name
  obtain ⟨name', hasName', isName'⟩ := carries.sentAs
  rw [hasName, Option.some.injEq] at hasName'
  rw [← hasName', isName, Except.ok.injEq] at isName'
  have isLocation := read.location
  rw [carries.location, Option.getD_some] at isLocation
  have label : c.location.label = p.location := Except.ok.inj isLocation
  rw [Carried.pair, ← isName', label, Merged.pair]

/-- No two parameters are sent to one place under one name. -/
theorem nodup_pairs {document : Value} {merged : List (Merged Value)} {sent : List Carried} (isMerged : IsMerged merged)
    (carries : List.Forall₂ (Carries document) ((merged.map (·.node)).filter fun p => (sentTo? p).isSome) sent) :
    (sent.map Carried.pair).Nodup := by
  rw [List.filter_map, List.forall₂_map_left_iff] at carries
  have read : ∀ p ∈ merged.filter ((fun p => (sentTo? p).isSome) ∘ (·.node)), p.IsRead :=
    fun p member => isMerged.read p (List.mem_of_mem_filter member)
  have pairs : sent.map Carried.pair = (merged.filter ((fun p => (sentTo? p).isSome) ∘ (·.node))).map Merged.pair := by
    generalize merged.filter ((fun p => (sentTo? p).isSome) ∘ (·.node)) = kept at carries read
    induction carries with
    | nil => rfl
    | cons first _ ih =>
      rw [List.map_cons, List.map_cons, ih fun p member => read p (List.mem_cons_of_mem _ member),
        first.pair_eq (read _ List.mem_cons_self)]
  rw [pairs]
  exact isMerged.distinct.sublist (List.filter_sublist.map _)

/-! ### The call -/

/-- What is carried, by location. -/
private theorem perm_locations (sent : List Carried) :
    (locations.flatMap fun location => sent.filter fun c => c.location = location).Perm sent := by
  simp only [locations, List.flatMap_cons, List.flatMap_nil, List.append_nil]
  induction sent with
  | nil => exact .refl _
  | cons c rest ih =>
    cases isLocation : c.location with
    | path => simpa [isLocation] using ih
    | query => simpa [isLocation] using List.perm_middle.trans (ih.cons c)
    | header =>
      simp only [List.filter_cons, isLocation, reduceCtorEq, decide_false, decide_true, Bool.false_eq_true, ↓reduceIte]
      rw [← List.append_assoc] at ih ⊢
      exact List.perm_middle.trans (ih.cons c)

/-- The argument of the helper that takes the parameters of a location, if there are some. -/
def groupOf (sent : List Carried) (location : Location) : List (String × Expr) :=
  let here := sent.filter fun c => c.location = location
  if here.isEmpty then [] else [(location.group, .dict (here.map fun c => (.text c.sentAs, .name c.argument)))]

/-- The arguments of the helper for what is carried. -/
def argumentsOf (sent : List Carried) (body : Option CarriedBody) : List (String × Expr) :=
  locations.flatMap (groupOf sent) ++ body.toList.map fun b => (b.keyword, .name b.argument)

theorem requestCall_eq (method path : String) (sent : List Carried) (body : Option CarriedBody) :
    requestCall method path (withBody (signatureOf sent) body) (body.map fun b => (b.keyword, b.argument)) =
      .call "_request" [.text (String.ofList (method.toList.flatMap Text.upper)), .text path]
        (argumentsOf sent body) := by
  have kept : (withBody (signatureOf sent) body).sent = sent.map Carried.toSent := by cases body <;> rfl
  have groups : ∀ location, (if ((sent.map Carried.toSent).filter (·.location = location)).isEmpty then []
      else [(location.group, Expr.dict (((sent.map Carried.toSent).filter (·.location = location)).map
        fun s => (Expr.text s.sentAs, Expr.name s.argument)))]) = groupOf sent location := by
    intro location
    simp only [groupOf, List.filter_map, List.isEmpty_map, List.map_map, Function.comp_def]
  simp only [requestCall, kept, groups, argumentsOf]
  cases body <;> rfl

section

variable {sent : List Carried} {body : Option CarriedBody}

private theorem handed_groupOf (location : Location) :
    (groupOf sent location).flatMap Expr.handed = (sent.filter fun c => c.location = location).map Carried.handed := by
  unfold groupOf
  extract_lets here
  split
  · rename_i none
    rw [show sent.filter _ = [] from List.isEmpty_iff.mp none]
    rfl
  · rw [List.flatMap_singleton, Expr.handed, List.map_map]
    refine List.map_congr_left fun c member => ?_
    have isHere : c.location = location := by simpa using (List.mem_filter.mp member).2
    simp [Carried.handed, isHere]

/-- The call hands over everything that is carried, and nothing else. -/
theorem handed_argumentsOf : ((argumentsOf sent body).flatMap Expr.handed).Perm
    (sent.map Carried.handed ++ body.toList.map CarriedBody.handed) := by
  have bodies : (body.toList.map fun b => (b.keyword, Expr.name b.argument)).flatMap Expr.handed =
      body.toList.map CarriedBody.handed := by cases body <;> rfl
  rw [argumentsOf, List.flatMap_append, bodies, List.flatMap_assoc]
  refine List.Perm.append_right _ ?_
  simp only [handed_groupOf]
  rw [← List.map_flatMap]
  exact (perm_locations sent).map _

private theorem names_entries (here : List Carried) :
    Expr.namesOfEntries (here.map fun c => (.text c.sentAs, .name c.argument)) = here.map (·.argument) := by
  induction here with
  | nil => rfl
  | cons c rest ih => simp [Expr.namesOfEntries, Expr.names, ih]

private theorem names_groupOf (location : Location) :
    Expr.namesOfNamed (groupOf sent location) = (sent.filter fun c => c.location = location).map (·.argument) := by
  unfold groupOf
  extract_lets here
  split
  · rename_i none
    rw [show sent.filter _ = [] from List.isEmpty_iff.mp none]
    rfl
  · rw [Expr.namesOfNamed, Expr.names, names_entries, Expr.namesOfNamed, List.append_nil]

/-- The call refers to every argument once, and to nothing else. -/
theorem names_argumentsOf : (Expr.namesOfNamed (argumentsOf sent body)).Perm
    (sent.map (·.argument) ++ body.toList.map (·.argument)) := by
  have bodies : Expr.namesOfNamed (body.toList.map fun b => (b.keyword, Expr.name b.argument)) =
      body.toList.map (·.argument) := by cases body <;> rfl
  have groups : ∀ places : List Location, Expr.namesOfNamed (places.flatMap (groupOf sent)) =
      (places.flatMap fun location => sent.filter fun c => c.location = location).map (·.argument) := by
    intro places
    induction places with
    | nil => rfl
    | cons location rest ih =>
      rw [List.flatMap_cons, List.flatMap_cons, Expr.namesOfNamed_append, ih, names_groupOf, List.map_append]
  rw [argumentsOf, Expr.namesOfNamed_append, bodies, groups]
  exact ((perm_locations sent).map _).append_right _

private theorem bodyArgument_mem (mediaType : String) :
    bodyArgument mediaType ∈ ["json", "data", "files", "content"] := by
  unfold bodyArgument
  cases found : bodyArguments.find? fun entry => Text.contains mediaType entry.1 with
  | none => simp
  | some entry =>
    have listed : ∀ entry ∈ bodyArguments, entry.2 ∈ ["json", "data", "files", "content"] := by decide
    exact listed entry (List.mem_of_find?_eq_some found)

/-- No argument of the helper is given twice. -/
theorem nodup_keywords (isKeyword : ∀ b ∈ body, b.keyword ∈ ["json", "data", "files", "content"]) :
    ((argumentsOf sent body).map (·.1)).Nodup := by
  have groups : ((locations.flatMap (groupOf sent)).map (·.1)).Sublist (locations.map Location.group) := by
    induction locations with
    | nil => exact .slnil
    | cons location rest ih =>
      rw [List.flatMap_cons, List.map_append, List.map_cons, ← List.singleton_append]
      refine List.Sublist.append ?_ ih
      unfold groupOf
      extract_lets here
      split
      · exact List.nil_sublist _
      · exact .refl _
  have bodies : (body.toList.map (·.keyword)).Nodup := by cases body <;> simp
  have keywords : ((argumentsOf sent body).map (·.1)) =
      (locations.flatMap (groupOf sent)).map (·.1) ++ body.toList.map (·.keyword) := by
    simp [argumentsOf]
  rw [keywords, List.nodup_append]
  refine ⟨groups.nodup (by decide), bodies, ?_⟩
  rintro keyword isGroup _ isBody rfl
  obtain ⟨b, member, rfl⟩ := List.mem_map.mp isBody
  have apart : ∀ keyword ∈ ["json", "data", "files", "content"], keyword ∉ locations.map Location.group := by decide
  exact apart _ (isKeyword b (Option.mem_toList.mp member)) (groups.subset isGroup)

/-- No mapping has a key twice. -/
theorem nodup_keys (pairs : (sent.map Carried.pair).Nodup) {keyword : String} {entries : List (Expr × Expr)}
    (member : (keyword, .dict entries) ∈ argumentsOf sent body) : (entries.map (·.1)).Nodup := by
  rw [argumentsOf, List.mem_append] at member
  rcases member with group | isBody
  · obtain ⟨location, -, inGroup⟩ := List.mem_flatMap.mp group
    unfold groupOf at inGroup
    extract_lets here at inGroup
    split at inGroup
    · cases inGroup
    · simp only [List.mem_singleton, Prod.mk.injEq, Expr.dict.injEq] at inGroup
      obtain ⟨-, rfl⟩ := inGroup
      have apart : here.Pairwise fun c d => c.sentAs ≠ d.sentAs := by
        have distinct :=
          (List.pairwise_map.mp pairs).sublist (List.filter_sublist (p := fun c => c.location = location))
        refine distinct.imp_of_mem fun {c d} isHere isHere' different same => different ?_
        simp only [here, List.mem_filter, decide_eq_true_eq] at isHere isHere'
        rw [Carried.pair, Carried.pair, same, isHere.2, isHere'.2]
      rw [List.map_map]
      refine List.pairwise_map.mpr (apart.imp fun different same => different ?_)
      simpa using same
  · obtain ⟨b, -, equal⟩ := List.mem_map.mp isBody
    cases equal

/-- The function that carries parameters and a body has their arguments. -/
theorem argumentNames_perm {f : Function} (positional : f.positional = (signatureOf sent).positional)
    (named : f.named = (signatureOf sent).named ++ body.toList.map CarriedBody.named) :
    f.argumentNames.Perm (sent.map (·.argument) ++ body.toList.map (·.argument)) := by
  have byPlace : f.argumentNames = (sent.filter Carried.isPositional ++ sent.filter fun c => !c.isPositional).map
      (·.argument) ++ body.toList.map (·.argument) := by
    rw [Function.argumentNames, positional, named]
    simp [signatureOf, Carried.positional, Carried.named, CarriedBody.named, Function.comp_def]
  rw [byPlace]
  exact ((List.filter_append_perm _ sent).map _).append_right _

end

/-- A function whose arguments and whose call are those of what is carried agrees with its call. -/
theorem agrees_of_carried {f : Function} {method path : String} {sent : List Carried} {body : Option CarriedBody}
    (positional : f.positional = (withBody (signatureOf sent) body).positional)
    (named : f.named = (withBody (signatureOf sent) body).named)
    (call : f.call = requestCall method path (withBody (signatureOf sent) body)
      (body.map fun b => (b.keyword, b.argument)))
    (wellNamed : WellNamed (sent.map (·.argument) ++ body.toList.map (·.argument)))
    (pairs : (sent.map Carried.pair).Nodup) (keyword : ∀ b ∈ body, b.keyword ∈ ["json", "data", "files", "content"]) :
    Agrees method path sent body f := by
  have pushed : (withBody (signatureOf sent) body).positional = (signatureOf sent).positional ∧
      (withBody (signatureOf sent) body).named = (signatureOf sent).named ++ body.toList.map CarriedBody.named := by
    cases body <;> simp [withBody, Signature.pushBody, CarriedBody.named, namedArgument]
  have positional := positional.trans pushed.1
  have named := named.trans pushed.2
  have names := argumentNames_perm positional named
  have call := call.trans (requestCall_eq method path sent body)
  constructor
  · exact positional
  · exact named
  · simp [Function.defaults]
  · exact names.nodup_iff.mpr wellNamed.distinct
  · intro name member
    have isName := wellNamed.valid name (names.subset member)
    exact ⟨isName.isIdentifier, isName.unreserved, isName.ne_request⟩
  · rw [call]
    exact (names_argumentsOf.trans names.symm).cons "_request"
  · exact ⟨_, call, nodup_keywords keyword, fun _ _ => nodup_keys pairs, handed_argumentsOf⟩

/-- Without plugins the function of an operation has one argument for every parameter that is sent and one for a
request body with content. Its call agrees with its signature: it refers to every argument once, and hands each over
in the place and under the name of what it carries. -/
theorem signature_matches_call {document operation : Value} {item : Option Value} {method path : String}
    {taken : Option (List String)} {log later : List LogRecord} {f : Function}
    (converted : (toFunction document method path operation item taken).run.run log = (.ok f, later)) :
    ∃ nodes sent body, (parameters document operation item : Except Fault (List Value)) = .ok nodes ∧
      List.Forall₂ (Carries document) (nodes.filter fun p => (sentTo? p).isSome) sent ∧
      CarriesBody document operation body ∧ Agrees method path sent body f := by
  obtain ⟨_, reads⟩ := Logged.reads.of_function (fun schema => lift (typeOf document schema)) (typeOf document)
    (fun schema => by simpa using Logged.reads.of_lift (typeOf document schema)) document method path operation item
    taken log
  rw [toFunction, reads, Prod.mk.injEq] at converted
  replace converted := converted.1
  simp only [convert, bind_eq_ok] at converted
  obtain ⟨_, -, nodes, listed, signature, isSignature, ⟨full, passed⟩, hasBody, returns, -, _, -, ended⟩ := converted
  cases ended
  obtain ⟨merged, isMerged, rfl⟩ := parameters_ok listed
  obtain ⟨sent, rfl, wellNamed, carries⟩ := @addParameters_ok _ _ [] _ isSignature ⟨.nil, by simp⟩
  rw [List.nil_append] at hasBody wellNamed
  obtain ⟨body, carriesBody, rfl, rfl, wellNamed⟩ := addBody_ok hasBody wellNamed
  refine ⟨_, sent, body, listed, carries, carriesBody, agrees_of_carried rfl rfl rfl wellNamed
    (nodup_pairs isMerged carries) ?_⟩
  rintro b rfl
  obtain ⟨_, _, mediaType, _, _, -, -, -, -, -, keyword, -⟩ := carriesBody
  exact keyword ▸ bodyArgument_mem mediaType

/-- An operation whose parameters and body want one name, shared by all three places and by a parameter that is
called like the name of another with its place. -/
def crowded : Value :=
  .ofFields
    [("parameters", .list
      [.ofFields [("name", .text "id"), ("in", .text "query"), ("schema", .ofFields [("type", .text "integer")])],
       .ofFields [("name", .text "ID"), ("in", .text "query"), ("required", .bool true)],
       .ofFields [("name", .text "id_header"), ("in", .text "header")],
       .ofFields [("name", .text "id"), ("in", .text "header")],
       .ofFields [("name", .text "id"), ("in", .text "cookie")],
       .ofFields [("name", .text "body"), ("in", .text "query")]]),
     ("requestBody", .ofFields
      [("content", .ofFields [("application/json", .ofFields [("schema", .ofFields [("type", .text "string")])])])])]

/-- The path item of the operation, with a parameter of the path. -/
def crowdedItem : Value :=
  .ofFields [("parameters", .list [.ofFields [("name", .text "id"), ("in", .text "path")]])]

theorem signature_matches_call_crowded : ∃ (f : Function) (later : List LogRecord) (sent : List Carried)
    (body : Option CarriedBody),
    (toFunction (.map []) "post" "/x" crowded (some crowdedItem) none).run.run [] = (.ok f, later) ∧
      CarriesBody (.map []) crowded body ∧ Agrees "post" "/x" sent body f ∧
      f.argumentNames = ["id", "id_query", "id_query_", "id_header", "id_header_", "body", "body_request"] ∧
      f.call.names =
        ["_request", "id", "id_query", "id_query_", "body", "id_header", "id_header_", "body_request"] := by
  have evaluated : (((toFunction (.map []) "post" "/x" crowded (some crowdedItem) none).run.run []).1.toOption.map
      fun f => (f.argumentNames, f.call.names)) =
      some (["id", "id_query", "id_query_", "id_header", "id_header_", "body", "body_request"],
        ["_request", "id", "id_query", "id_query_", "body", "id_header", "id_header_", "body_request"]) := by
    decide +kernel
  rcases done : (toFunction (.map []) "post" "/x" crowded (some crowdedItem) none).run.run [] with ⟨fault | f, later⟩
  · rw [done] at evaluated
    cases evaluated
  · rw [done] at evaluated
    obtain ⟨_, sent, body, -, -, carriesBody, agrees⟩ := signature_matches_call done
    obtain ⟨names, called⟩ := Prod.mk.inj (Option.some.inj evaluated)
    exact ⟨f, later, sent, body, rfl, carriesBody, agrees, names, called⟩

end Operation

end ClientGen
