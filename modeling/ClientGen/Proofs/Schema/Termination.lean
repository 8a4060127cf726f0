import ClientGen.Proofs.Schema.CallGraph

/-!
Termination of conversion. Conversion of a schema comes to its end exactly if no schema that it comes to comes back to
itself, and then there is a measure that decreases with every call (`terminates_iff`).

A reference is followed to the end of its chain, even where the chain goes on by a reference to a component, although a
reference to a component is otherwise left alone. Components may refer to each other as they like, but not by way of
such a chain (`recursion_by_way_of_component`).
-/

namespace ClientGen.SchemaType

open Entries Relation

/-- No reference that conversion comes to, and that names no component, leads to one that names a component. -/
def Straight (document : Value) (visit : Visit) : Prop :=
  ∀ v, ReflTransGen (Calls document (PointsTo document)) visit v → ∀ found, PointsTo document v.2 found →
    ∀ ref, found.field? "$ref" = some (.text ref) → Reference.componentName? ref = none

/-- A measure decreases with every call that is made on the way of a conversion. -/
def Decreases (document : Value) (visit : Visit) (measure : Visit → Nat) : Prop :=
  ∀ v, ReflTransGen (Calls document (FollowedTo document)) visit v →
    ∀ w, Calls document (FollowedTo document) v w → measure w < measure v

variable {document schema : Value} {entries : List (Atom × Value)} {name : Option String}
  {follows : Value → Value → Prop} {visit next : Visit}

/-! ### Steps and measures -/

/-- A run has steps enough if any number of steps is enough. -/
theorem ofSchema_ne_tooDeep :
    ofSchema document name schema ≠ .error tooDeep ↔ ∃ fuel, Halts document fuel (name, schema) := by
  constructor
  · exact fun ended => ⟨budget document schema, ended⟩
  · rintro ⟨fuel, halts⟩
    rw [ofSchema, (convert_of_settled fuel name (Nat.le_refl _)).eq halts]
    exact halts

theorem decreases_stepsOf (ended : ofSchema document name schema ≠ .error tooDeep) :
    Decreases document (name, schema) (stepsOf document) := by
  intro v reached w calls
  exact stepsOf_lt_of_calls calls (halts_of_reached (ofSchema_ne_tooDeep.mp ended) reached)

theorem Decreases.acyclic {measure : Visit → Nat} (decreases : Decreases document visit measure) :
    Acyclic document (FollowedTo document) visit :=
  acyclic_of_acc (acc_of_measure fun v w reached calls => decreases v reached w calls)

theorem ofSchema_of_acyclic (acyclic : Acyclic document (FollowedTo document) (name, schema)) :
    ofSchema document name schema ≠ .error tooDeep :=
  ofSchema_ne_tooDeep.mpr (halts_of_acc (acc_of_acyclic acyclic))

/-! ### Straight references -/

/-- Where no reference leads to one that names a component, a chain of references is followed one by one. -/
theorem Straight.chain {start last : Value} {refs : List String} (straight : Straight document visit)
    (chain : Reference.Chain document start refs last)
    (reached : ReflTransGen (Calls document (PointsTo document)) visit (name, start))
    (unnamed : ∀ ref, start.field? "$ref" = some (.text ref) → Reference.componentName? ref = none) :
    ReflTransGen (Calls document (PointsTo document)) (name, start) (name, last) := by
  induction chain with
  | none => exact .refl
  | @more v found _ ref _ refers leads _ ih =>
    have points : PointsTo document v found := ⟨ref, refers, unnamed ref refers, leads⟩
    have calls : Calls document (PointsTo document) (name, v) (name, found) := by
      cases v with
      | map entries => exact .reference points
      | _ => cases refers
    exact .head calls (ih (reached.tail calls) (straight (name, v) reached found points))

theorem Straight.calls {v : Visit} (straight : Straight document visit)
    (reached : ReflTransGen (Calls document (PointsTo document)) visit v)
    (calls : Calls document (FollowedTo document) v next) : TransGen (Calls document (PointsTo document)) v next := by
  cases calls with
  | @reference name entries found leads =>
    obtain ⟨ref, refers, unnamed, followed⟩ := leads
    obtain ⟨⟨refs, chain⟩, noReference⟩ := Reference.deref_eq_ok_iff.mp followed
    cases chain with
    | none => cases refers.symm.trans noReference
    | @more _ between _ first _ refersBy leads rest =>
      cases refers.symm.trans refersBy
      have points : PointsTo document (.map entries) between := ⟨ref, refers, unnamed, leads⟩
      have first : Calls document (PointsTo document) (name, .map entries) (name, between) := .reference points
      exact .head' first (straight.chain rest (reached.tail first) (straight (name, .map entries) reached between points))
  | part noReference typed formed comesUp => exact .single (.part noReference typed formed comesUp)

/-- Where no reference leads to one that names a component, it makes no difference that chains are followed to the end. -/
theorem Straight.acyclic (straight : Straight document visit) (acyclic : Acyclic document (PointsTo document) visit) :
    Acyclic document (FollowedTo document) visit := by
  have lifted : ∀ {v w : Visit}, ReflTransGen (Calls document (PointsTo document)) visit v →
      ReflTransGen (Calls document (FollowedTo document)) v w →
      ReflTransGen (Calls document (PointsTo document)) v w := by
    intro v w reached further
    induction further with
    | refl => exact .refl
    | tail _ calls ih => exact ih.trans (straight.calls (reached.trans ih) calls).to_reflTransGen
  intro v reached circle
  have reachedToo := lifted .refl reached
  obtain ⟨next, calls, back⟩ := TransGen.head'_iff.mp circle
  have first := straight.calls reachedToo calls
  have rest := lifted (reachedToo.trans first.to_reflTransGen) back
  exact acyclic v reachedToo (first.trans_left rest)

/-! ### A component by way of another place -/

/-- A reference. -/
def pointing (ref : String) : Value := .ofFields [("$ref", .text ref)]

/-- A document with a component that is a list of what stands in another place. -/
def withTree (place : Value) : Value :=
  .ofFields [("components", .ofFields [("schemas", .ofFields [("Tree", listing (pointing "#/x-tree"))])]),
    ("x-tree", place)]

/-- A schema that is no reference calls for parts of its form. -/
theorem Calls.mem_parts {nullable : Bool} {types : List Value} {form : Form}
    (calls : Calls document (PointsTo document) (name, .map entries) next)
    (noReference : field? entries "$ref" = none) (typed : typesOf entries = .types nullable types)
    (formed : formOf name entries types = .ok form) : next.2 ∈ form.parts := by
  cases calls with
  | reference leads =>
    obtain ⟨ref, refers, -⟩ := leads
    cases refers.symm.trans noReference
  | part _ typedToo formedToo comesUp =>
    cases typed.symm.trans typedToo
    cases formed.symm.trans formedToo
    exact comesUp.mem

/-- A reference calls for what it points to, if it names no component. -/
theorem Calls.pointed {ref : String} (calls : Calls document (PointsTo document) (name, pointing ref) next) :
    Reference.componentName? ref = none ∧ (Reference.resolve ref document : Except Fault Value) = .ok next.2 := by
  cases calls with
  | reference leads =>
    obtain ⟨ref, refers, unnamed, leads⟩ := leads
    cases refers
    exact ⟨unnamed, leads⟩
  | part noReference => cases noReference

/-- A schema whose type takes no other schema calls for nothing. -/
theorem idle_of_simple {nullable : Bool} {types : List Value} {type : Expr} (noReference : field? entries "$ref" = none)
    (typed : typesOf entries = .types nullable types) (formed : ∀ name, formOf name entries types = .ok (.simple type))
    (name : Option String) (next : Visit) : ¬ Calls document (PointsTo document) (name, .map entries) next := by
  intro calls
  cases calls.mem_parts noReference typed (formed name)

/-- A document in which the place that the component lists refers to the component. -/
def looping : Value := withTree (pointing "#/components/schemas/Tree")

/-- One reference after the other, the values of this document only call for later ones. -/
theorem ordered_looping : Ordered looping (PointsTo looping) looping.contents := by
  have tree : ∀ name next, Calls looping (PointsTo looping) (name, listing (pointing "#/x-tree")) next →
      next.2 = pointing "#/x-tree" := by
    intro name next calls
    exact List.mem_singleton.mp (calls.mem_parts rfl rfl rfl)
  have hop : ∀ name next, Calls looping (PointsTo looping) (name, pointing "#/x-tree") next →
      next.2 = pointing "#/components/schemas/Tree" := by
    intro name next calls
    exact (Except.ok.inj calls.pointed.2).symm
  have component : ∀ name next,
      ¬ Calls looping (PointsTo looping) (name, pointing "#/components/schemas/Tree") next := by
    intro name next calls
    cases calls.pointed.1
  -- the document, its components and their schemas, all of which say nothing as schemas
  refine .idle (idle_of_simple rfl rfl fun _ => rfl) ?_
  refine .idle (idle_of_simple rfl rfl fun _ => rfl) ?_
  refine .idle (idle_of_simple rfl rfl fun _ => rfl) ?_
  refine .cons (fun name next calls => ?_) (.idle (not_calls_of_not_map rfl) ?_)
  · rw [tree name next calls]
    exact List.mem_cons_of_mem _ List.mem_cons_self
  refine .cons (fun name next calls => ?_) (.idle (not_calls_of_not_map rfl) ?_)
  · rw [hop name next calls]
    exact List.mem_cons_of_mem _ List.mem_cons_self
  exact .idle component (.idle (not_calls_of_not_map rfl) .nil)

/-- What stands in the other place, if that is a type list in a type list and a list of the component. -/
def branch : List (Atom × Value) :=
  [(.text "type", .list [.list [.text "string", .text "integer"], .text "array"]),
    (.text "items", pointing "#/components/schemas/Tree")]

/-- What conversion of the component then comes to, in the order of the calls. -/
def branchingSchemas : List Value :=
  [listing (pointing "#/x-tree"), pointing "#/x-tree", .map branch,
    retypedTo branch (.list [.text "string", .text "integer"]), retypedTo branch (.text "string"),
    retypedTo branch (.text "integer"), retypedTo branch (.text "array"), pointing "#/components/schemas/Tree"]

theorem ordered_branching : Ordered (withTree (.map branch)) (PointsTo (withTree (.map branch))) branchingSchemas := by
  refine .cons (fun name next calls => ?_) (.cons (fun name next calls => ?_) ?_)
  · rw [List.mem_singleton.mp (calls.mem_parts rfl rfl rfl)]
    exact List.mem_cons_self
  · rw [← Except.ok.inj calls.pointed.2]
    exact List.mem_cons_self
  refine .cons (fun name next calls => ?_) (.cons (fun name next calls => ?_) ?_)
  · rcases List.mem_pair.mp (calls.mem_parts rfl rfl rfl) with isList | isArray
    · simp [isList]
    · simp [isArray]
  · rcases List.mem_pair.mp (calls.mem_parts rfl rfl rfl) with isText | isInteger
    · simp [isText, retypedTo_retyped]
    · simp [isInteger, retypedTo_retyped]
  refine .idle (idle_of_simple rfl rfl fun _ => rfl) (.idle (idle_of_simple rfl rfl fun _ => rfl) ?_)
  refine .cons (fun name next calls => ?_) (.idle (fun name next calls => ?_) .nil)
  · exact calls.mem_parts rfl rfl rfl
  · cases calls.pointed.1

/-- The only reference on the way that does not name a component leads to a schema that is no reference. -/
theorem straight_branching (name : Option String) :
    Straight (withTree (.map branch)) (name, listing (pointing "#/x-tree")) := by
  intro v reached found points ref refers
  have walked := ordered_branching.mem_of_reached List.mem_cons_self reached
  obtain ⟨own, isOwn, unnamed, leads⟩ := points
  simp only [branchingSchemas, List.mem_cons, List.not_mem_nil, or_false] at walked
  rcases walked with same | same | same | same | same | same | same | same <;> rw [same] at isOwn <;> cases isOwn
  · cases leads
    cases refers
  · cases unnamed

/-! ### Runs that come to their end -/

/-- The conversion of a schema comes to its end within the steps of a run exactly if no schema that it comes to comes back
to itself, where a reference that names no component is followed to the end of its chain. It does so exactly if there is
a measure that decreases with every call on the way. In particular it does so if no schema comes back to itself through
references that name no component, as long as none of these leads to a reference that names one: references to components
are not followed by themselves, whatever circles the components form. -/
theorem terminates_iff (document schema : Value) (name : Option String) :
    (ofSchema document name schema ≠ .error tooDeep ↔ Acyclic document (FollowedTo document) (name, schema)) ∧
    (ofSchema document name schema ≠ .error tooDeep ↔ ∃ measure, Decreases document (name, schema) measure) ∧
    (Acyclic document (PointsTo document) (name, schema) → Straight document (name, schema) →
      ofSchema document name schema ≠ .error tooDeep) := by
  refine ⟨⟨fun ended => (decreases_stepsOf ended).acyclic, ofSchema_of_acyclic⟩, ⟨fun ended => ?_, ?_⟩, ?_⟩
  · exact ⟨stepsOf document, decreases_stepsOf ended⟩
  · rintro ⟨measure, decreases⟩
    exact ofSchema_of_acyclic decreases.acyclic
  · intro acyclic straight
    exact ofSchema_of_acyclic (straight.acyclic acyclic)

theorem terminates_iff_branching :
    Acyclic (withTree (.map branch)) (PointsTo (withTree (.map branch))) (none, listing (pointing "#/x-tree")) ∧
    Straight (withTree (.map branch)) (none, listing (pointing "#/x-tree")) ∧
    ofSchema (withTree (.map branch)) none (listing (pointing "#/x-tree")) ≠ .error tooDeep := by
  have acyclic := ordered_branching.acyclic List.mem_cons_self none
  exact ⟨acyclic, straight_branching none, (terminates_iff _ _ none).2.2 acyclic (straight_branching none)⟩

/-- Conversion of a component does not come to its end where the component lists a place that refers to the component
again. No schema of the document comes back to itself through references that name no component: the last reference of
the circle names one, and is followed at the end of a chain. -/
theorem recursion_by_way_of_component :
    (∀ v ∈ looping.contents, ∀ name, Acyclic looping (PointsTo looping) (name, v)) ∧
    (Reference.resolve "#/components/schemas/Tree" looping : Except Fault Value) = .ok (listing (pointing "#/x-tree")) ∧
    ∀ name, ofSchema looping name (listing (pointing "#/x-tree")) = .error tooDeep := by
  refine ⟨fun v inside name => ordered_looping.acyclic inside name, rfl, fun name => ?_⟩
  have down : ∀ name,
      Calls looping (FollowedTo looping) (name, listing (pointing "#/x-tree")) (none, pointing "#/x-tree") :=
    fun name => .part rfl rfl rfl .first
  have back : Calls looping (FollowedTo looping) (none, pointing "#/x-tree") (none, listing (pointing "#/x-tree")) :=
    .reference ⟨"#/x-tree", rfl, rfl, rfl⟩
  by_contra ended
  exact (decreases_stepsOf ended).acyclic _ (.head (down name) (.single back)) (.head (down none) (.single back))

end ClientGen.SchemaType
