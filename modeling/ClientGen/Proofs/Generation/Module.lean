import ClientGen.Proofs.Generation.Selection
import Mathlib.Data.List.Forall2

/-!
The module of a run without plugins. A run that succeeds appends statements and nothing else to the module:
the head, an assignment for each component schema, and a function for each selected operation
(`plain_generated`).
-/

namespace ClientGen

open Run

namespace Draft

/-- Every statement of the module is there. -/
def Sound (draft : Draft) : Prop := ∀ id ∈ draft.order, id < draft.statements.size

theorem sound_empty : ({} : Draft).Sound := fun _ member => nomatch member

theorem get_append_last (draft : Draft) (s : Statement) : (draft.append s).2.get (draft.append s).1 = s := by
  simp [append, get]

private theorem sound_append {draft : Draft} (sound : draft.Sound) (s : Statement) : (draft.append s).2.Sound := by
  intro id member
  have bound : id < draft.statements.size + 1 := by
    rcases List.mem_append.mp member with before | last
    · exact Nat.lt_succ_of_lt (sound id before)
    · rw [List.mem_singleton.mp last]
      exact Nat.lt_succ_self _
  simpa [append] using bound

theorem toList_append {draft : Draft} (sound : draft.Sound) (s : Statement) :
    (draft.append s).2.toList = draft.toList ++ [s] := by
  have kept : ∀ id ∈ draft.order, (draft.append s).2.get id = draft.get id := by
    intro id member
    simp [append, get, Array.getElem?_push, Nat.ne_of_lt (sound id member)]
  have last := draft.get_append_last s
  simp only [toList]
  have order : (draft.append s).2.order = draft.order ++ [(draft.append s).1] := rfl
  rw [order, List.map_append, List.map_singleton, last, List.map_congr_left kept]

theorem appendAll_append (draft : Draft) (first second : List Statement) :
    draft.appendAll (first ++ second) = (draft.appendAll first).appendAll second := List.foldl_append

theorem toList_appendAll {draft : Draft} (sound : draft.Sound) (statements : List Statement) :
    (draft.appendAll statements).toList = draft.toList ++ statements := by
  induction statements generalizing draft with
  | nil => exact (List.append_nil _).symm
  | cons s rest ih =>
    have appended : draft.appendAll (s :: rest) = (draft.append s).2.appendAll rest := rfl
    rw [appended, ih (sound_append sound s), toList_append sound, List.append_assoc, List.singleton_append]

end Draft

namespace Generation

/-- A world goes on from another one with more statements and the same settings. -/
structure Extends (before after : World) (statements : List Statement) : Prop where
  draft : after.draft = before.draft.appendAll statements
  settings : after.settings = before.settings

theorem Extends.trans {first second third : World} {some more : List Statement} (left : Extends first second some)
    (right : Extends second third more) : Extends first third (some ++ more) :=
  ⟨by rw [right.draft, left.draft, Draft.appendAll_append], by rw [right.settings, left.settings]⟩

/-- The module that a run begins is what the run appends. -/
theorem Extends.toList {world later : World} {statements : List Statement}
    (extended : Extends { world with draft := {} } later statements) : later.draft.toList = statements := by
  rw [extended.draft, Draft.toList_appendAll Draft.sound_empty]
  rfl

variable {α : Type} {world later : World}

theorem extends_of_reads {step : Run α} {result : Except Fault α} (reads : Reads step result) {a : α}
    (done : on step world = (.ok a, later)) : result = .ok a ∧ Extends world later [] := by
  obtain ⟨equal, records, rfl⟩ := reads.eq_ok done
  exact ⟨equal, rfl, rfl⟩

/-- How a run without plugins converts the schemas of a document. -/
def plainServices (document : Value) : Services Value Run :=
  ⟨fun _ => pure (), fun name schema => lift (SchemaType.ofSchema document name schema)⟩

/-- The type of a component schema under its identifier. -/
def IsComponentType (document : Value) (entry : Atom × Value) (part : String × Expr) : Prop :=
  ∃ name, (Value.atom entry.1).shown = .ok name ∧ part.1 = Naming.typeName name ∧
    SchemaType.ofSchema document (some name) entry.2 = .ok part.2

theorem addTypes_ok {document : Value} {entries : List (Atom × Value)} {types : List String}
    (done : on (addTypes (plainServices document) entries) world = (.ok types, later)) :
    ∃ parts, List.Forall₂ (IsComponentType document) entries parts ∧ types = parts.map (·.1) ∧
      Extends world later (parts.map fun part => .assign part.1 part.2) := by
  induction entries generalizing world types with
  | nil =>
    cases done
    exact ⟨[], .nil, rfl, rfl, rfl⟩
  | cons entry rest ih =>
    obtain ⟨key, schema⟩ := entry
    simp only [addTypes, on_bind_ok] at done
    obtain ⟨name, w₁, shown, type, w₂, typed, id, w₃, placed, _, w₄, reported, names, w₅, others, ended⟩ := done
    obtain ⟨isShown, first⟩ := extends_of_reads (reads.of_lift _) shown
    obtain ⟨isTyped, second⟩ := extends_of_reads (reads.of_lift _) typed
    have third : Extends w₂ w₃ [.assign (Naming.typeName name) type] := by
      cases placed
      exact ⟨rfl, rfl⟩
    obtain ⟨-, fourth⟩ := extends_of_reads (reads.of_note _) reported
    cases ended
    obtain ⟨parts, converted, rfl, fifth⟩ := ih others
    rw [lift_except] at isShown isTyped
    refine ⟨(Naming.typeName name, type) :: parts, .cons ⟨name, isShown, rfl, isTyped⟩ converted, rfl, ?_⟩
    exact first.trans (second.trans (third.trans (fourth.trans fifth)))

/-- What the settings alone decide of a step that reads. -/
def Settled (step : Run α) : Prop :=
  ∃ result : Settings → Except Fault α,
    ∀ world, ∃ records, on step world = (result world.settings, { world with log := world.log ++ records })

theorem settled_of_reads {step : Run α} {result : Except Fault α} (reads : Reads step result) : Settled step :=
  ⟨fun _ => result, reads⟩

theorem settled_setting (name : String) : Settled (setting name : Run Value) :=
  ⟨fun settings => .ok (settings.get name), fun _ => ⟨[], by simp; rfl⟩⟩

theorem settled_bind {β : Type} {step : Run α} {next : α → Run β} (first : Settled step)
    (rest : ∀ a, Settled (next a)) : Settled (step >>= next) := by
  obtain ⟨result, done⟩ := first
  choose then' finished using rest
  refine ⟨fun settings => result settings >>= fun a => then' a settings, fun world => ?_⟩
  obtain ⟨records, equal⟩ := done world
  rw [on_bind, equal]
  cases chosen : result world.settings with
  | error fault => exact ⟨records, by simp [chosen]⟩
  | ok a =>
    obtain ⟨more, equal⟩ := finished a { world with log := world.log ++ records }
    exact ⟨records ++ more, by simp [chosen, equal]⟩

/-- Whether an operation is selected is up to the settings. -/
theorem settled_selected (operation : Value) : Settled (selected operation : Run Bool) := by
  refine settled_bind (settled_of_reads (reads.of_fieldOf operation "tags")) fun stated =>
    settled_bind (settled_of_reads (reads.of_wholeOf stated)) fun tags =>
      settled_bind (settled_of_reads (reads.of_lift _)) fun tags =>
        settled_bind (settled_setting "include_tags") fun wanted => ?_
  extract_lets decide
  have decided : ∀ unwanted : Bool, Settled (decide unwanted) := by
    intro unwanted
    dsimp only [decide]
    split
    · exact settled_of_reads (reads.of_pure false)
    · refine settled_bind (settled_setting "exclude_tags") fun stated =>
        settled_bind (settled_of_reads (reads.of_lift _)) fun excluded => ?_
      split
      · exact settled_of_reads (reads.of_pure false)
      · refine settled_bind (settled_of_reads (reads.of_fieldOf operation "deprecated")) fun stated =>
          settled_bind (settled_of_reads (reads.of_isTrue stated)) fun deprecated => ?_
        split
        · exact settled_bind (settled_setting "include_deprecated") fun _ => settled_of_reads (reads.of_pure _)
        · exact settled_of_reads (reads.of_pure true)
  split
  · exact settled_bind (settled_of_reads (reads.of_lift _)) fun _ =>
      settled_bind (settled_of_reads (reads.of_pure _)) decided
  · exact settled_bind (settled_of_reads (reads.of_pure false)) decided

/-- The settings select an operation. -/
def Selects (settings : Settings) (operation : Value) : Prop :=
  ∃ later, on (selected operation) { settings } = (.ok true, later)

theorem selected_ok {operation : Value} {chosen : Bool}
    (done : on (selected operation) world = (.ok chosen, later)) :
    (chosen = true ↔ Selects world.settings operation) ∧ Extends world later [] := by
  obtain ⟨result, settled⟩ := settled_selected operation
  obtain ⟨records, equal⟩ := settled world
  obtain ⟨more, alone⟩ := settled { settings := world.settings }
  rw [equal] at done
  obtain ⟨isResult, rfl⟩ := Prod.mk.inj done
  refine ⟨?_, rfl, rfl⟩
  simp only [Selects, alone, isResult]
  constructor
  · rintro rfl
    exact ⟨_, rfl⟩
  · rintro ⟨_, same⟩
    exact Except.ok.inj (Prod.mk.inj same).1

/-- The functions of operations, one after the other; the names of earlier ones are taken. -/
inductive Converted (document : Value) : List String → List Visit → List Function → Prop
  | nil {taken} : Converted document taken [] []
  | cons {taken visit function visits functions}
    (first : (Operation.convert (Operation.typeOf document) document visit.method visit.path visit.operation
      (some visit.item) (some taken) : Except Fault Function) = .ok function)
    (rest : Converted document (taken ++ [function.name]) visits functions) :
    Converted document taken (visit :: visits) (function :: functions)

theorem Converted.append {document : Value} {taken : List String} {visits more : List Visit}
    {functions others : List Function} (first : Converted document taken visits functions)
    (second : Converted document (taken ++ functions.map (·.name)) more others) :
    Converted document taken (visits ++ more) (functions ++ others) := by
  induction first with
  | nil => simpa using second
  | cons one _ ih => exact .cons one (ih (by simpa using second))

/-- What visits of operations have added to a run. -/
def Adds (document : Value) (visits : List Visit) (before after : World) (made made' : Made) : Prop :=
  ∃ functions, Converted document made.taken visits functions ∧
    made'.taken = made.taken ++ functions.map (·.name) ∧ made'.names = made.names ++ functions.map (·.name) ∧
    Extends before after (functions.map .define)

theorem Adds.none {document : Value} {before after : World} (extends' : Extends before after []) (made : Made) :
    Adds document [] before after made made :=
  ⟨[], .nil, by simp, by simp, extends'⟩

theorem Adds.trans {document : Value} {visits more : List Visit} {first second third : World} {a b c : Made}
    (left : Adds document visits first second a b) (right : Adds document more second third b c) :
    Adds document (visits ++ more) first third a c := by
  obtain ⟨functions, converted, taken, names, extended⟩ := left
  obtain ⟨others, converted', taken', names', extended'⟩ := right
  rw [taken] at converted' taken'
  rw [names] at names'
  refine ⟨functions ++ others, converted.append converted', by simp [taken'], by simp [names'], ?_⟩
  rw [List.map_append]
  exact extended.trans extended'

theorem mapping?_ok {node found : Option Value}
    (done : (Operation.mapping? node : Except Fault (Option Value)) = .ok found) :
    ∀ v, found = some v ↔ node = some v ∧ v.shape.isMap = true := by
  intro v
  cases node with
  | none =>
    cases done
    exact ⟨nofun, fun absent => nomatch absent.1⟩
  | some n =>
    simp only [Operation.mapping?, shape_except, except_bind_ok] at done
    split at done <;> cases done
    · rename_i isMap
      constructor
      · rintro ⟨rfl⟩
        exact ⟨rfl, isMap⟩
      · exact And.left
    · rename_i noMap
      constructor
      · exact nofun
      · rintro ⟨⟨rfl⟩, isMap⟩
        exact absurd isMap noMap

/-- Without plugins, announcing an occasion changes nothing. -/
theorem on_announce_bind {document : Value} {occasion : Occasion Value} {next : Unit → Run α} :
    on ((plainServices document).announce occasion >>= next) world = on (next ()) world := rfl

theorem place_ok {s : Statement} {id : Nat} (done : on (place s) world = (.ok id, later)) :
    id = (world.draft.append s).1 ∧ later = { world with draft := (world.draft.append s).2 } :=
  ⟨(Except.ok.inj (Prod.mk.inj done).1).symm, (Prod.mk.inj done).2.symm⟩

theorem statementAt_ok {id : Nat} {s : Statement} (done : on (statementAt id) world = (.ok s, later)) :
    s = world.draft.get id ∧ later = world :=
  ⟨(Except.ok.inj (Prod.mk.inj done).1).symm, (Prod.mk.inj done).2.symm⟩

theorem functionOf_ok {document operation : Value} {method path : String} {item : Option Value}
    {taken : Option (List String)} {function : Function}
    (done : on (functionOf (plainServices document) document method path operation item taken) world =
      (.ok function, later)) :
    Operation.convert (Operation.typeOf document) document method path operation item taken =
      (.ok function : Except Fault Function) ∧ Extends world later [] := by
  rw [functionOf, on_announce_bind] at done
  refine (fun made => extends_of_reads made done)
    (reads.of_function _ _ (fun schema => ?_) document method path operation item taken)
  cases schema with
  | none => exact reads.of_pure _
  | some schema =>
    have lifted := reads.of_lift (SchemaType.ofSchema document none schema)
    rwa [lift_except] at lifted

theorem addFunction_ok {document operation item : Value} {method path : String} {made made' : Made}
    (done : on (addFunction (plainServices document) document method path operation item made) world =
      (.ok made', later)) : Adds document [⟨path, method, operation, item⟩] world later made made' := by
  rw [addFunction, on_bind_ok] at done
  obtain ⟨function, w₁, isFunction, done⟩ := done
  obtain ⟨converted, first⟩ := functionOf_ok isFunction
  rw [on_bind_ok] at done
  obtain ⟨id, w₂, placed, done⟩ := done
  obtain ⟨rfl, isNext⟩ := place_ok placed
  rw [on_announce_bind, on_bind_ok] at done
  obtain ⟨statement, w₃, found, done⟩ := done
  obtain ⟨isStatement, rfl⟩ := statementAt_ok found
  rw [isNext, Draft.get_append_last] at isStatement
  subst isStatement
  rw [on_bind_ok] at done
  obtain ⟨_, w₄, reported, ended⟩ := done
  obtain ⟨-, third⟩ := extends_of_reads (reads.of_note _) reported
  cases ended
  have second : Extends w₁ w₃ [.define function] := by
    rw [isNext]
    exact ⟨rfl, rfl⟩
  exact ⟨[function], .cons converted .nil, rfl, rfl, first.trans (second.trans third)⟩

theorem displayed_of_shown {v : Value} {text : String} (shown : v.shown = .ok text) : v.displayed = text := by
  unfold Value.shown at shown
  split at shown
  · exact Except.ok.inj shown
  · cases shown

/-- A visit of an operation under one of the methods of a path item. -/
structure IsVisit (settings : Settings) (path : Atom) (item : Value) (methods : List String) (visit : Visit) : Prop where
  path : (Value.atom path).shown = .ok visit.path
  sameItem : visit.item = item
  method : visit.method ∈ methods
  operation : item.field? visit.method = some visit.operation
  isMap : visit.operation.shape.isMap = true
  selected : Selects settings visit.operation

private theorem isVisit_cons {settings : Settings} {path : Atom} {item : Value} {method : String} {rest : List String}
    {visit : Visit} : IsVisit settings path item (method :: rest) visit ↔
      IsVisit settings path item [method] visit ∨ IsVisit settings path item rest visit := by
  constructor
  · intro isVisit
    rcases List.mem_cons.mp isVisit.method with this | later
    · exact .inl { isVisit with method := by simp [this] }
    · exact .inr { isVisit with method := later }
  · rintro (isVisit | isVisit)
    · exact { isVisit with method := List.mem_cons.mpr (.inl (List.mem_singleton.mp isVisit.method)) }
    · exact { isVisit with method := List.mem_cons_of_mem _ isVisit.method }

theorem IsVisit.stated {settings : Settings} {path : Atom} {item : Value} {method : String} {visit : Visit}
    (isVisit : IsVisit settings path item [method] visit) : item.field? method = some visit.operation :=
  List.mem_singleton.mp isVisit.method ▸ isVisit.operation

/-- Under one method there is at most one visit. -/
theorem isVisit_single {settings : Settings} {path : Atom} {item : Value} {method : String} {visit one : Visit}
    (isOne : IsVisit settings path item [method] one) : IsVisit settings path item [method] visit ↔ visit = one := by
  constructor
  · intro isVisit
    have samePath := Except.ok.inj (isVisit.path.symm.trans isOne.path)
    have sameMethod := (List.mem_singleton.mp isVisit.method).trans (List.mem_singleton.mp isOne.method).symm
    have sameOperation := Option.some.inj (isVisit.stated.symm.trans isOne.stated)
    have sameItem := isVisit.sameItem.trans isOne.sameItem.symm
    cases visit
    cases one
    simp_all only
  · rintro rfl
    exact isOne

theorem visitMethods_ok {document item : Value} {path : Atom} {methods : List String} {made made' : Made}
    (done : on (visitMethods (plainServices document) document path item methods made) world = (.ok made', later)) :
    (∀ visit, visit ∈ visitsUnder world.settings path item methods ↔ IsVisit world.settings path item methods visit) ∧
      Adds document (visitsUnder world.settings path item methods) world later made made' := by
  induction methods generalizing world made with
  | nil =>
    cases done
    exact ⟨fun visit => ⟨nofun, fun isVisit => nomatch isVisit.method⟩, .none ⟨rfl, rfl⟩ _⟩
  | cons method rest ih =>
    simp only [visitMethods, on_bind_ok] at done
    obtain ⟨stated, w₁, hasField, operation, w₂, isOperation, done⟩ := done
    obtain ⟨isField, first⟩ := extends_of_reads (reads.of_fieldOf item method) hasField
    obtain ⟨isMapping, second⟩ := extends_of_reads (reads.of_mapping? stated) isOperation
    obtain rfl := fieldOf_ok isField
    have here := mapping?_ok isMapping
    have before := first.trans second
    have settings : w₂.settings = world.settings := before.settings
    cases operation with
    | none =>
      obtain ⟨members, added⟩ := ih done
      have passed : ∀ operation, item.field? method = some operation → operation.shape.isMap = true →
          ¬ Chosen world.settings operation :=
        fun operation found isMap => nomatch (here operation).mpr ⟨found, isMap⟩
      rw [settings] at members added
      rw [visitsUnder_cons_of_not_chosen passed]
      refine ⟨fun visit => ?_, (Adds.none before made).trans added⟩
      rw [members, isVisit_cons, iff_or_self]
      exact fun isVisit => nomatch (here visit.operation).mpr ⟨isVisit.stated, isVisit.isMap⟩
    | some operation =>
      obtain ⟨isField, isMap⟩ := (here operation).mp rfl
      simp only [on_bind_ok] at done
      obtain ⟨chosen, w₃, selects, done⟩ := done
      obtain ⟨isSelected, third⟩ := selected_ok selects
      have isChosen := selected_chosen selects
      have settings' : w₃.settings = world.settings := third.settings.trans settings
      rw [settings] at isSelected isChosen
      cases chosen with
      | false =>
        obtain ⟨members, added⟩ := ih done
        have passed : ∀ other, item.field? method = some other → other.shape.isMap = true →
            ¬ Chosen world.settings other := by
          intro other found _ chosen
          obtain rfl : other = operation := Option.some.inj (found.symm.trans isField)
          exact nomatch isChosen.mpr chosen
        rw [settings'] at members added
        rw [visitsUnder_cons_of_not_chosen passed]
        refine ⟨fun visit => ?_, (Adds.none (before.trans third) made).trans added⟩
        rw [members, isVisit_cons, iff_or_self]
        intro isVisit
        have same : visit.operation = operation := Option.some.inj (isVisit.stated.symm.trans isField)
        exact nomatch isSelected.mpr (same ▸ isVisit.selected)
      | true =>
        simp only [↓reduceIte, on_bind_ok] at done
        obtain ⟨shownPath, w₄, isShown, made₁, w₅, isAdded, done⟩ := done
        obtain ⟨isShown, fourth⟩ := extends_of_reads (reads.of_lift _) isShown
        rw [lift_except] at isShown
        obtain rfl := displayed_of_shown isShown
        have one := addFunction_ok isAdded
        obtain ⟨members, added⟩ := ih done
        have settings'' : w₅.settings = world.settings := by
          obtain ⟨_, -, -, -, extended⟩ := one
          rw [extended.settings, fourth.settings, settings']
        rw [settings''] at members added
        rw [visitsUnder_cons_of_chosen isField isMap (isChosen.mp rfl)]
        refine ⟨fun visit => ?_, (Adds.none ((before.trans third).trans fourth) made).trans (one.trans added)⟩
        rw [List.mem_cons, members, isVisit_cons]
        have isOne : IsVisit world.settings path item [method]
            ⟨(Value.atom path).displayed, method, operation, item⟩ :=
          ⟨isShown, rfl, List.mem_singleton_self method, isField, isMap, isSelected.mp rfl⟩
        exact or_congr_left (isVisit_single isOne).symm

/-- A visit of an operation of the document that the settings select. -/
def IsSelected (document : Value) (settings : Settings) (entries : List (Atom × Value)) (visit : Visit) : Prop :=
  ∃ path raw item, (path, raw) ∈ entries ∧ (Reference.deref raw document : Except Fault Value) = .ok item ∧
    item.shape.isMap = true ∧ IsVisit settings path item methods visit

private theorem isSelected_cons {document raw : Value} {settings : Settings} {path : Atom} {rest : List (Atom × Value)}
    {visit : Visit} : IsSelected document settings ((path, raw) :: rest) visit ↔
      IsSelected document settings [(path, raw)] visit ∨ IsSelected document settings rest visit := by
  constructor
  · rintro ⟨path', raw', item, member, followed⟩
    rcases List.mem_cons.mp member with this | later
    · exact .inl ⟨path', raw', item, by simp [this], followed⟩
    · exact .inr ⟨path', raw', item, later, followed⟩
  · rintro (⟨path', raw', item, member, followed⟩ | ⟨path', raw', item, member, followed⟩)
    · exact ⟨path', raw', item, List.mem_cons.mpr (.inl (List.mem_singleton.mp member)), followed⟩
    · exact ⟨path', raw', item, List.mem_cons_of_mem _ member, followed⟩

theorem visitPaths_ok {document : Value} {entries : List (Atom × Value)} {made made' : Made}
    (done : on (visitPaths (plainServices document) document entries made) world = (.ok made', later)) :
    (∀ visit, visit ∈ visitsIn document world.settings entries ↔ IsSelected document world.settings entries visit) ∧
      Adds document (visitsIn document world.settings entries) world later made made' := by
  induction entries generalizing world made with
  | nil =>
    cases done
    refine ⟨fun visit => ⟨nofun, ?_⟩, .none ⟨rfl, rfl⟩ _⟩
    rintro ⟨_, _, _, ⟨⟩, -⟩
  | cons entry rest ih =>
    obtain ⟨path, raw⟩ := entry
    simp only [visitPaths, on_bind_ok] at done
    obtain ⟨node, w₁, followed, item, w₂, isItem, done⟩ := done
    obtain ⟨isNode, first⟩ := extends_of_reads (reads.of_deref raw document) followed
    obtain ⟨isMapping, second⟩ := extends_of_reads (reads.of_mapping? (some node)) isItem
    have here := mapping?_ok isMapping
    have before := first.trans second
    have settings : w₂.settings = world.settings := before.settings
    have single : ∀ visit, IsSelected document world.settings [(path, raw)] visit ↔
        ∃ v, item = some v ∧ IsVisit world.settings path v methods visit := by
      intro visit
      constructor
      · rintro ⟨path', raw', v, member, followed', isMap, isVisit⟩
        obtain ⟨rfl, rfl⟩ := Prod.mk.inj (List.mem_singleton.mp member)
        have same : v = node := Except.ok.inj (followed'.symm.trans isNode)
        exact ⟨v, (here v).mpr ⟨by rw [same], isMap⟩, isVisit⟩
      · rintro ⟨v, isItem, isVisit⟩
        obtain ⟨isNode', isMap⟩ := (here v).mp isItem
        exact ⟨path, raw, v, List.mem_singleton_self _, by rw [isNode, Option.some.inj isNode'], isMap, isVisit⟩
    rw [visitsIn_cons isNode]
    cases item with
    | none =>
      obtain ⟨members, added⟩ := ih done
      have noMap : ¬ node.shape.isMap = true := fun isMap => nomatch (here node).mpr ⟨rfl, isMap⟩
      rw [settings] at members added
      rw [if_neg noMap, List.nil_append]
      refine ⟨fun visit => ?_, (Adds.none before made).trans added⟩
      rw [members, isSelected_cons, iff_or_self, single]
      exact fun ⟨_, absent, _⟩ => nomatch absent
    | some item =>
      obtain ⟨isNode', isMap⟩ := (here item).mp rfl
      obtain rfl := Option.some.inj isNode'
      simp only [on_bind_ok] at done
      obtain ⟨made₁, w₃, visited, done⟩ := done
      obtain ⟨members, added⟩ := visitMethods_ok visited
      obtain ⟨members', added'⟩ := ih done
      have settings' : w₃.settings = world.settings := by
        obtain ⟨_, -, -, -, extended⟩ := added
        rw [extended.settings, settings]
      rw [settings] at members added
      rw [settings'] at members' added'
      rw [if_pos isMap]
      refine ⟨fun visit => ?_, (Adds.none before made).trans (added.trans added')⟩
      rw [List.mem_append, members, members', isSelected_cons, single]
      simp

/-- The entries of a mapping; anything else has none. -/
def entriesIn : Option Value → List (Atom × Value)
  | some (.map entries) => entries
  | _ => []

/-- What stands in the place of the component schemas. -/
def schemasOf (document : Value) : Option Value := (document.field? "components").bind (·.field? "schemas")

/-- The component schemas of a document under their keys. -/
def componentsOf (document : Value) : List (Atom × Value) := entriesIn (schemasOf document)

/-- The path items of a document under their paths. -/
def pathsOf (document : Value) : List (Atom × Value) := entriesIn (document.field? "paths")

theorem ifTrue_ok {node found : Option Value} (done : (ifTrue node : Except Fault (Option Value)) = .ok found) :
    (∀ v, found = some v → node = some v) ∧ (found = none → ∀ v, node = some v → v.truthy = false) := by
  obtain rfl := Except.ok.inj ((ifTrue_except node).symm.trans done)
  refine ⟨fun v equal => (Option.filter_eq_some_iff.mp equal).1, ?_⟩
  rintro none v rfl
  simpa [Option.filter] using none

private theorem entriesIn_of_falsy {v : Value} (falsy : v.truthy = false) : entriesIn (some v) = [] := by
  cases v with
  | map entries =>
    cases entries with
    | nil => rfl
    | cons => cases falsy
  | _ => rfl

theorem items?_ok {v : Value} {entries : List (Atom × Value)} (done : v.shape.items? = .ok entries) :
    entries = entriesIn (some v) ∧ v.shape.isMap = true := by
  cases v with
  | map inner => exact ⟨(Except.ok.inj done).symm, rfl⟩
  | _ => cases done

private theorem entriesIn_of_none {node : Option Value} (falsy : ∀ v, node = some v → v.truthy = false) :
    entriesIn node = [] := by
  cases node with
  | none => rfl
  | some v => exact entriesIn_of_falsy (falsy v rfl)

theorem pathItems_ok {document : Value} {entries : List (Atom × Value)}
    (done : on (pathItems document) world = (.ok entries, later)) :
    entries = pathsOf document ∧ Extends world later [] := by
  simp only [pathItems, on_bind_ok] at done
  obtain ⟨stated, w₁, hasField, paths, w₂, isPaths, done⟩ := done
  obtain ⟨isField, first⟩ := extends_of_reads (reads.of_fieldOf document "paths") hasField
  obtain ⟨isTrue, second⟩ := extends_of_reads (reads.of_ifTrue stated) isPaths
  obtain rfl := fieldOf_ok isField
  obtain ⟨present, absent⟩ := ifTrue_ok isTrue
  cases paths with
  | none =>
    cases done
    exact ⟨(entriesIn_of_none (absent rfl)).symm, first.trans second⟩
  | some paths =>
    simp only [on_bind_ok] at done
    obtain ⟨layer, w₃, hasShape, isItems⟩ := done
    obtain ⟨isShape, third⟩ := extends_of_reads (reads.of_shape paths) hasShape
    obtain ⟨isItems, fourth⟩ := extends_of_reads (reads.of_lift _) isItems
    cases isShape
    rw [lift_except] at isItems
    rw [pathsOf, present paths rfl]
    exact ⟨(items?_ok isItems).1, (first.trans second).trans (third.trans fourth)⟩

theorem componentSchemas_ok {document : Value} {entries : List (Atom × Value)}
    (done : on (componentSchemas document) world = (.ok entries, later)) :
    entries = componentsOf document ∧ (∀ v, schemasOf document = some v → v.truthy = true → v.shape.isMap = true) ∧
      Extends world later [] := by
  simp only [componentSchemas, on_bind_ok] at done
  obtain ⟨stated, w₁, hasField, components, w₂, isComponents, done⟩ := done
  obtain ⟨isField, first⟩ := extends_of_reads (reads.of_fieldOf document "components") hasField
  obtain ⟨isTrue, second⟩ := extends_of_reads (reads.of_ifTrue stated) isComponents
  obtain rfl := fieldOf_ok isField
  obtain ⟨present, absent⟩ := ifTrue_ok isTrue
  cases components with
  | none =>
    cases done
    have nothing : ∀ v, schemasOf document ≠ some v := by
      intro v found
      obtain ⟨inner, isInner, found⟩ := Option.bind_eq_some_iff.mp found
      rw [field?_of_falsy (absent rfl inner isInner)] at found
      cases found
    refine ⟨?_, fun v found => absurd found (nothing v), first.trans second⟩
    rw [componentsOf, entriesIn_of_none fun v found => absurd found (nothing v)]
  | some components =>
    simp only [on_bind_ok] at done
    obtain ⟨stated, w₃, hasField, schemas, w₄, isSchemas, done⟩ := done
    obtain ⟨isField, third⟩ := extends_of_reads (reads.of_fieldOf components "schemas") hasField
    obtain ⟨isTrue, fourth⟩ := extends_of_reads (reads.of_ifTrue stated) isSchemas
    obtain rfl := fieldOf_ok isField
    obtain ⟨present', absent'⟩ := ifTrue_ok isTrue
    have inside : schemasOf document = components.field? "schemas" := by
      rw [schemasOf, present components rfl, Option.bind_some]
    have before := (first.trans second).trans (third.trans fourth)
    rw [componentsOf, inside]
    cases schemas with
    | none =>
      cases done
      refine ⟨(entriesIn_of_none (absent' rfl)).symm, fun v found holds => ?_, before⟩
      rw [absent' rfl v found] at holds
      cases holds
    | some schemas =>
      simp only [on_bind_ok] at done
      obtain ⟨layer, w₅, hasShape, isItems⟩ := done
      obtain ⟨isShape, fifth⟩ := extends_of_reads (reads.of_shape schemas) hasShape
      obtain ⟨isItems, sixth⟩ := extends_of_reads (reads.of_lift _) isItems
      cases isShape
      rw [lift_except] at isItems
      obtain ⟨rfl, isMap⟩ := items?_ok isItems
      rw [present' schemas rfl]
      refine ⟨rfl, fun v found _ => ?_, before.trans (fifth.trans sixth)⟩
      rwa [← Option.some.inj found]

theorem infoText_ok {info : Option Value} {name default text : String}
    (done : on (infoText info name default) world = (.ok text, later)) : Extends world later [] := by
  cases info with
  | none =>
    cases done
    exact ⟨rfl, rfl⟩
  | some info =>
    simp only [infoText, on_bind_ok] at done
    obtain ⟨stated, w₁, hasField, done⟩ := done
    obtain ⟨-, first⟩ := extends_of_reads (reads.of_fieldOf info name) hasField
    cases stated with
    | none =>
      cases done
      exact first
    | some node =>
      simp only [on_bind_ok] at done
      obtain ⟨whole, w₂, hasWhole, isShown⟩ := done
      exact first.trans ((extends_of_reads (reads.of_whole node) hasWhole).2.trans
        (extends_of_reads (reads.of_lift _) isShown).2)

theorem render_ok {document : Value} {contents : String} (done : on (render document) world = (.ok contents, later)) :
    Extends world later [] := by
  rw [render, on_bind_ok] at done
  obtain ⟨statements, w₁, seen, done⟩ := done
  obtain rfl : world = w₁ := (Prod.mk.inj seen).2
  split at done
  · simp only [on_bind_ok] at done
    obtain ⟨_, _, rendered, stated, w₂, hasField, info, w₃, isInfo, title, w₄, isTitle, version, w₅, isVersion,
      ended⟩ := done
    obtain ⟨-, rfl⟩ := on_pure_ok.mp rendered
    obtain ⟨-, rfl⟩ := on_pure_ok.mp ended
    exact (extends_of_reads (reads.of_fieldOf document "info") hasField).2.trans
      ((extends_of_reads (reads.of_ifTrue stated) isInfo).2.trans ((infoText_ok isTitle).trans (infoText_ok isVersion)))
  · simp only [on_bind_ok] at done
    obtain ⟨_, _, failed, -⟩ := done
    cases failed

theorem save_ok {file contents : String} (done : on (save file contents) world = (.ok (), later)) :
    Extends world later [] := by
  rw [save, on_bind_ok] at done
  obtain ⟨before, w₁, seen, done⟩ := done
  cases seen
  dsimp only at done
  split at done
  · cases done
    exact ⟨rfl, rfl⟩
  · rw [on_bind_ok] at done
    obtain ⟨_, _, -, failed⟩ := done
    cases failed

theorem write_ok {file : Value} {contents : String} (done : on (write file contents) world = (.ok (), later)) :
    Extends world later [] := by
  unfold write at done
  split at done
  · split at done
    · cases done
      exact ⟨rfl, rfl⟩
    · rw [on_bind_ok] at done
      obtain ⟨_, w₁, saved, noted⟩ := done
      exact (save_ok saved).trans (extends_of_reads (reads.of_note _) noted).2
  · cases done

/-- The head of a module with given entries of its settings. -/
def headOf (defaults servers : List (Expr × Expr)) : List Statement := Head.statements (.dict defaults) (.dict servers)

theorem build_ok {document baseUrl : Value} {statements : List Statement}
    (built : (Head.build document baseUrl : Except Fault (List Statement)) = .ok statements) :
    ∃ defaults servers, statements = headOf defaults servers := by
  simp only [Head.build, bind_eq_ok, lift_except, except_pure, Except.ok.injEq] at built
  obtain ⟨entries, -, expression, written, rfl⟩ := built
  unfold Expr.ofValue at written
  split at written
  · cases written
    exact ⟨_, _, rfl⟩
  · cases written

/-- A run without plugins that succeeds has made a module of the head, the types of the component schemas and the
functions of the selected operations, each of them in the order of the document. The component schemas of such a
document are a mapping, unless there are none. -/
theorem plain_module {document : Value} {outcome : Outcome}
    (done : on (plain document) world = (.ok outcome, later)) :
    let visits := visitsIn document world.settings (pathsOf document)
    ∃ head parts functions,
      (Head.build document (world.settings.get "base_url") : Except Fault (List Statement)) = .ok head ∧
      Extends world later (head ++ parts.map (fun part => .assign part.1 part.2) ++ functions.map .define) ∧
      List.Forall₂ (IsComponentType document) (componentsOf document) parts ∧ outcome.types = parts.map (·.1) ∧
      (∀ visit, visit ∈ visits ↔ IsSelected document world.settings (pathsOf document) visit) ∧
      Converted document [] visits functions ∧ outcome.functions = functions.map (·.name) ∧
      ∀ v, schemasOf document = some v → v.truthy = true → v.shape.isMap = true := by
  simp only [plain, ← plainServices.eq_1] at done
  simp only [run, on_announce_bind, on_bind_ok, on_pure_ok] at done
  obtain ⟨baseUrl, w₁, isBase, head, w₂, isHead, base, w₃, isBase', _, w₄, hasHead, entries, w₅, isEntries, types, w₆,
    hasTypes, paths, w₇, isPaths, made, w₈, visited, contents, w₉, rendered, output, w₁₀, isOutput, _, w₁₁, written,
    rfl, rfl⟩ := done
  obtain rfl : world.settings.get "base_url" = baseUrl := Except.ok.inj (Prod.mk.inj isBase).1
  obtain rfl : world = w₁ := (Prod.mk.inj isBase).2
  obtain rfl : w₂ = w₃ := (Prod.mk.inj isBase').2
  obtain rfl : w₉ = w₁₀ := (Prod.mk.inj isOutput).2
  obtain ⟨isHead, first⟩ := extends_of_reads (reads.of_build document _) isHead
  have second : Extends w₂ w₄ head := by
    obtain rfl := (Prod.mk.inj hasHead).2
    exact ⟨rfl, rfl⟩
  obtain ⟨rfl, listed, third⟩ := componentSchemas_ok isEntries
  obtain ⟨parts, converted, rfl, fourth⟩ := addTypes_ok hasTypes
  obtain ⟨rfl, fifth⟩ := pathItems_ok isPaths
  have settings : w₇.settings = world.settings :=
    (first.trans (second.trans (third.trans (fourth.trans fifth)))).settings
  obtain ⟨selects, added⟩ := visitPaths_ok visited
  rw [settings] at selects added
  obtain ⟨functions, isConverted, -, names, sixth⟩ := added
  have all := first.trans (second.trans (third.trans (fourth.trans (fifth.trans (sixth.trans
    ((render_ok rendered).trans (write_ok written)))))))
  exact ⟨head, parts, functions, isHead, by simpa using all, converted, rfl, selects, isConverted, names, listed⟩

/-- The head of a run's module has entries of the two settings, and the visits of a run are those of the selected
operations. -/
theorem plain_generated {document : Value} {outcome : Outcome}
    (done : on (plain document) world = (.ok outcome, later)) :
    ∃ defaults servers parts visits functions,
      Extends world later (headOf defaults servers ++ parts.map (fun part => .assign part.1 part.2) ++
        functions.map .define) ∧
      List.Forall₂ (IsComponentType document) (componentsOf document) parts ∧ outcome.types = parts.map (·.1) ∧
      (∀ visit, visit ∈ visits ↔ IsSelected document world.settings (pathsOf document) visit) ∧
      Converted document [] visits functions ∧ outcome.functions = functions.map (·.name) ∧
      ∀ v, schemasOf document = some v → v.truthy = true → v.shape.isMap = true := by
  obtain ⟨head, parts, functions, built, rest⟩ := plain_module done
  obtain ⟨defaults, servers, rfl⟩ := build_ok built
  exact ⟨defaults, servers, parts, _, functions, rest⟩

/-- The identifier of a component schema. -/
def identifierOf (entry : Atom × Value) : String := Naming.typeName (Value.atom entry.1).displayed

theorem identifiers_of_parts {document : Value} {entries : List (Atom × Value)} {parts : List (String × Expr)}
    (converted : List.Forall₂ (IsComponentType document) entries parts) :
    parts.map (·.1) = entries.map identifierOf := by
  induction converted with
  | nil => rfl
  | cons first _ ih =>
    obtain ⟨name, shown, named, -⟩ := first
    rw [List.map_cons, List.map_cons, ih, named, identifierOf, displayed_of_shown shown]

end Generation

end ClientGen
