import ClientGen.Proofs.Schema.Rules

/-!
Forward references. The type of a schema names other types by text: exactly those of the component schemas
that its references name, at whatever depth they stand (`forwardRefs_iff`).
-/

namespace ClientGen

namespace Expr

mutual

/-- The names of types that a type mentions as text. The values of a literal type are no names. -/
def forwardRefs : Expr → List String
  | .constant (.atom (.text s)) => [s]
  | .index base arguments => if base = "Literal" then [] else forwardRefsOfAll arguments
  | .call _ arguments _ => forwardRefsOfFields arguments
  | _ => []

def forwardRefsOfAll : List Expr → List String
  | [] => []
  | e :: rest => forwardRefs e ++ forwardRefsOfAll rest

/-- The names that the fields of a typed mapping mention. -/
def forwardRefsOfFields : List Expr → List String
  | [] => []
  | e :: rest => forwardRefsOfDict e ++ forwardRefsOfFields rest

def forwardRefsOfDict : Expr → List String
  | .dict entries => forwardRefsOfEntries entries
  | _ => []

def forwardRefsOfEntries : List (Expr × Expr) → List String
  | [] => []
  | (_, type) :: rest => forwardRefs type ++ forwardRefsOfEntries rest

end

end Expr

namespace SchemaType

/-- The parts of a form whose types go into its type. Nothing is left of the parts that several schemas have in
common. -/
def Form.shown : Form → List Value
  | conjunction [single] => [single]
  | conjunction _ => []
  | form => form.parts

/-- The next schema that the type of a schema is made from, each with the name of the type that it becomes. -/
inductive Part (document : Value) : Option String × Value → Option String × Value → Prop
  /-- What a reference to anything but a component leads to. -/
  | target {name entries ref inner} (refers : Entries.field? entries "$ref" = some ref)
    (other : component? ref.shape = .ok none)
    (leads : (Reference.deref (.map entries) document : Except Fault Value) = .ok (.map inner)) :
    Part document (name, .map entries) (name, .map inner)
  | member {name entries nullable types form schema} (plain : Entries.field? entries "$ref" = none)
    (typed : typesOf entries = .types nullable types) (formed : formOf name entries types = .ok form)
    (shown : schema ∈ form.shown) : Part document (name, .map entries) (none, schema)

/-- A schema is made from another one, over any number of steps. -/
def Reaches (document : Value) : Option String × Value → Option String × Value → Prop :=
  Relation.ReflTransGen (Part document)

/-- A schema is a reference to a component. -/
def RefersTo (schema : Value) (ref component : String) : Prop :=
  ∃ entries, schema = .map entries ∧ Entries.field? entries "$ref" = some (.text ref) ∧
    Reference.componentName? ref = some component

/-- A schema is made from a reference to a component. -/
def Mentions (document : Value) (place : Option String × Value) (ref component : String) : Prop :=
  ∃ reached, Reaches document place reached ∧ RefersTo reached.2 ref component

theorem mentions_iff {document : Value} {place : Option String × Value} {ref component : String} :
    Mentions document place ref component ↔
      RefersTo place.2 ref component ∨ ∃ next, Part document place next ∧ Mentions document next ref component := by
  constructor
  · rintro ⟨reached, path, refers⟩
    rcases Relation.ReflTransGen.cases_head path with rfl | ⟨next, step, rest⟩
    · exact .inl refers
    · exact .inr ⟨next, step, reached, rest, refers⟩
  · rintro (refers | ⟨next, step, reached, rest, refers⟩)
    · exact ⟨place, .refl, refers⟩
    · exact ⟨reached, .head step rest, refers⟩

theorem component?_ok {target : Value} {component : String} :
    component? target.shape = .ok (some component) ↔
      ∃ ref, target = .text ref ∧ Reference.componentName? ref = some component := by
  constructor
  · intro named
    cases target with
    | atom a =>
      cases a with
      | text ref => exact ⟨ref, rfl, Except.ok.inj named⟩
      | _ => cases named
    | _ => cases named
  · rintro ⟨ref, rfl, named⟩
    exact congrArg Except.ok named

/-- The names of the components that a schema mentions. -/
def NamesOf (document : Value) (place : Option String × Value) (s : String) : Prop :=
  ∃ ref component, Mentions document place ref component ∧ s = Naming.typeName component

/-- A type mentions exactly the components that its schema mentions. -/
def Agrees (document : Value) (name : Option String) (schema : Value) (type : Expr) : Prop :=
  ∀ s, s ∈ type.forwardRefs ↔ NamesOf document (name, schema) s

private theorem forwardRefsOfAll_iff {document : Value} {schemas : List Value} {types : List Expr}
    (agree : List.Forall₂ (Agrees document none) schemas types) (s : String) :
    s ∈ Expr.forwardRefsOfAll types ↔ ∃ schema ∈ schemas, NamesOf document (none, schema) s := by
  induction agree with
  | nil => simp [Expr.forwardRefsOfAll]
  | cons first _ ih => simp [Expr.forwardRefsOfAll, ih, first s]

private theorem forwardRefsOfEntries_iff {document : Value} {required : List Value} {properties : List (Atom × Value)}
    {types : List Expr}
    (agree : List.Forall₂ (fun property type => Agrees document none property.2 type) properties types) (s : String) :
    s ∈ Expr.forwardRefsOfEntries
        (List.zipWith (fun property type => recordEntry required property.1 type) properties types) ↔
      ∃ schema ∈ properties.map (·.2), NamesOf document (none, schema) s := by
  induction agree with
  | nil => simp [Expr.forwardRefsOfEntries]
  | @cons property type properties types first _ ih =>
    have marked : (recordEntry required property.1 type).2.forwardRefs = type.forwardRefs := by
      unfold recordEntry
      split <;> simp [Expr.forwardRefs, Expr.forwardRefsOfAll]
    rw [List.zipWith_cons_cons, Expr.forwardRefsOfEntries, marked]
    simp [ih, first s]

theorem forwardRefs_unionType (types : List Expr) : (unionType types).forwardRefs = Expr.forwardRefsOfAll types := by
  unfold unionType
  split
  · simp [Expr.forwardRefsOfAll]
  · simp [Expr.forwardRefs]

theorem forwardRefs_admitNull (nullable : Bool) (type : Expr) :
    (admitNull nullable type).forwardRefs = type.forwardRefs := by
  cases nullable <;> simp [admitNull, Expr.forwardRefs, Expr.forwardRefsOfAll]

theorem forwardRefs_primitiveIn (entries : List (Atom × Value)) (type : String) :
    (primitiveIn entries type).forwardRefs = [] := by
  unfold primitiveIn
  split
  · rfl
  · cases primitive? type <;> rfl

/-- The type of a form mentions what the parts mention that go into it. -/
theorem forwardRefs_built {document : Value} {name : Option String} {entries : List (Atom × Value)}
    {types : List Value} {form : Form} (formed : formOf name entries types = .ok form) {type : Expr}
    (built : form.Built name (Agrees document none) type) (s : String) :
    s ∈ type.forwardRefs ↔ ∃ schema ∈ form.shown, NamesOf document (none, schema) s := by
  cases built with
  | literals => simp [literalType, Expr.forwardRefs, Form.shown, Form.parts]
  | union parts => rw [forwardRefs_unionType, forwardRefsOfAll_iff parts]; rfl
  | conjunction parts =>
    cases parts with
    | nil => simp [intersectionType, Expr.forwardRefs, Expr.forwardRefsOfAll, Form.shown]
    | cons first rest =>
      cases rest with
      | nil => simp [intersectionType, Form.shown, first s]
      | cons second rest => simp [intersectionType, Expr.forwardRefs, Expr.forwardRefsOfAll, Form.shown]
  | copies parts => rw [forwardRefs_unionType, forwardRefsOfAll_iff parts]; rfl
  | arrayOfAny => simp [Expr.forwardRefs, Expr.forwardRefsOfAll, Form.shown, Form.parts]
  | array part => simp [Expr.forwardRefs, Expr.forwardRefsOfAll, Form.shown, Form.parts, part s]
  | record parts =>
    rw [typedMapping, Expr.forwardRefs, Expr.forwardRefsOfFields, Expr.forwardRefsOfFields, Expr.forwardRefsOfFields]
    simp only [Expr.forwardRefsOfDict, List.nil_append, List.append_nil]
    exact forwardRefsOfEntries_iff parts s
  | mappingToAny => simp [Expr.forwardRefs, Expr.forwardRefsOfAll, Form.shown, Form.parts]
  | mapping part => simp [Expr.forwardRefs, Expr.forwardRefsOfAll, Form.shown, Form.parts, part s]
  | @simple type =>
    have none : type.forwardRefs = [] := by
      have isFormed := formed_of_formOf formed
      cases isFormed with
      | primitive => exact forwardRefs_primitiveIn entries _
      | anything => rfl
    simp [none, Form.shown, Form.parts]

private theorem mentions_of_not_map {document : Value} {name : Option String} {schema : Value} {ref component : String}
    (noMap : schema.shape.isMap = false) : ¬ Mentions document (name, schema) ref component := by
  rw [mentions_iff]
  rintro (⟨entries, isMap, -⟩ | ⟨_, step, -⟩)
  · rw [show schema = .map entries from isMap] at noMap
    cases noMap
  · cases step <;> cases noMap

/-- A reference to a component mentions this component alone. -/
theorem mentions_component {document : Value} {name : Option String} {entries : List (Atom × Value)} {target : Value}
    {found : String} (refers : Entries.field? entries "$ref" = some target)
    (named : component? target.shape = .ok (some found)) {ref component : String} :
    Mentions document (name, .map entries) ref component ↔ target = .text ref ∧ component = found := by
  obtain ⟨stated, rfl, isName⟩ := component?_ok.mp named
  rw [mentions_iff]
  constructor
  · rintro (⟨_, ⟨rfl⟩, refers', named'⟩ | ⟨_, step, -⟩)
    · obtain ⟨rfl⟩ := Option.some.inj (refers.symm.trans refers')
      exact ⟨rfl, Option.some.inj (named'.symm.trans isName)⟩
    · cases step with
      | target refers' other =>
        obtain rfl := Option.some.inj (refers.symm.trans refers')
        rw [named] at other
        cases other
      | member plain => rw [plain] at refers; cases refers
  · rintro ⟨⟨rfl⟩, rfl⟩
    exact .inl ⟨entries, rfl, refers, isName⟩

/-- Any other reference mentions what the schema mentions that it leads to. -/
theorem mentions_target {document : Value} {name : Option String} {entries inner : List (Atom × Value)} {target : Value}
    (refers : Entries.field? entries "$ref" = some target) (other : component? target.shape = .ok none)
    (leads : (Reference.deref (.map entries) document : Except Fault Value) = .ok (.map inner))
    {ref component : String} :
    Mentions document (name, .map entries) ref component ↔ Mentions document (name, .map inner) ref component := by
  rw [mentions_iff]
  constructor
  · rintro (⟨_, ⟨rfl⟩, refers', named⟩ | ⟨_, step, mentions⟩)
    · obtain rfl := Option.some.inj (refers.symm.trans refers')
      rw [component?_ok.mpr ⟨ref, rfl, named⟩] at other
      cases other
    · cases step with
      | target refers' other' leads' =>
        rw [leads] at leads'
        cases leads'
        exact mentions
      | member plain => rw [plain] at refers; cases refers
  · exact fun mentions => .inr ⟨_, .target refers other leads, mentions⟩

/-- What a schema that is no reference mentions is what the parts of its form mention. -/
theorem mentions_plain {document : Value} {name : Option String} {entries : List (Atom × Value)}
    (plain : Entries.field? entries "$ref" = none) {ref component : String} :
    Mentions document (name, .map entries) ref component ↔ ∃ nullable types form,
      typesOf entries = .types nullable types ∧ formOf name entries types = .ok form ∧
        ∃ schema ∈ form.shown, Mentions document (none, schema) ref component := by
  rw [mentions_iff]
  constructor
  · rintro (⟨_, ⟨rfl⟩, refers, -⟩ | ⟨_, step, mentions⟩)
    · rw [plain] at refers
      cases refers
    · cases step with
      | target refers => rw [plain] at refers; cases refers
      | member _ typed formed shown => exact ⟨_, _, _, typed, formed, _, shown, mentions⟩
  · rintro ⟨_, _, _, typed, formed, _, shown, mentions⟩
    exact .inr ⟨_, .member plain typed formed shown, mentions⟩

/-- The same with the types and the form of the schema given. -/
theorem mentions_formed {document : Value} {name : Option String} {entries : List (Atom × Value)} {nullable : Bool}
    {types : List Value} {form : Form} (plain : Entries.field? entries "$ref" = none)
    (typed : typesOf entries = .types nullable types) (formed : formOf name entries types = .ok form)
    {ref component : String} : Mentions document (name, .map entries) ref component ↔
      ∃ schema ∈ form.shown, Mentions document (none, schema) ref component := by
  rw [mentions_plain plain]
  constructor
  · rintro ⟨_, _, _, typed', formed', mentioned⟩
    rw [typed] at typed'
    cases typed'
    rw [formed] at formed'
    cases formed'
    exact mentioned
  · exact fun mentioned => ⟨_, _, _, typed, formed, mentioned⟩

/-- The type of a schema mentions by text exactly the identifiers of the components that it refers to. -/
theorem forwardRefs_iff {document : Value} {name : Option String} {schema : Value} {type : Expr}
    (converted : Converts document name schema type) (s : String) :
    s ∈ type.forwardRefs ↔ NamesOf document (name, schema) s := by
  have agrees : Agrees document name schema type := by
    refine converts_induction (P := Agrees document) ?_ ?_ ?_ ?_ ?_ converted
    · intro name schema noMap s
      exact ⟨nofun, fun ⟨_, _, mentions, _⟩ => absurd mentions (mentions_of_not_map noMap)⟩
    · intro name entries target component refers named s
      obtain ⟨ref, rfl, -⟩ := component?_ok.mp named
      simp [NamesOf, mentions_component refers named, Expr.forwardRefs]
    · intro name entries target inner type refers other leads agrees s
      simpa only [NamesOf, mentions_target refers other leads] using agrees s
    · intro name entries plain nullOnly s
      refine ⟨nofun, ?_⟩
      rintro ⟨_, _, mentions, -⟩
      obtain ⟨_, _, _, typed, -⟩ := (mentions_plain plain).mp mentions
      rw [nullOnly] at typed
      cases typed
    · intro name entries nullable types form type plain typed formed built s
      rw [forwardRefs_admitNull, forwardRefs_built formed (built.mono fun _ _ => And.right)]
      simp only [NamesOf, mentions_formed plain typed formed]
      constructor
      · rintro ⟨schema, shown, ref, component, mentions, named⟩
        exact ⟨ref, component, ⟨schema, shown, mentions⟩, named⟩
      · rintro ⟨ref, component, ⟨schema, shown, mentions⟩, named⟩
        exact ⟨schema, shown, ref, component, mentions, named⟩
  exact agrees s

end SchemaType

end ClientGen
