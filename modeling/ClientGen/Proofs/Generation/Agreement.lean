import ClientGen.Proofs.Operation.Agreement
import ClientGen.Proofs.Running

/-!
Agreement about runs of generation. Two ways of running that agree about announcements, about the types of
schemas and about the work on the module agree about a whole run (`Generating.of_run`).
-/

namespace ClientGen

/-- A step that works on the module by the settings: it succeeds, and nothing else plays a part in it. -/
def Run.IsDrafting {α : Type} (step : Run α) : Prop :=
  ∃ result : Settings → Draft → α × Draft, ∀ world, step.on world =
    (.ok (result world.settings world.draft).1, { world with draft := (result world.settings world.draft).2 })

open Generation

variable {ν : Type} {m n : Type → Type}
  [Monad m] [MonadExceptOf Fault m] [Reading ν m] [Logging m] [MonadLiftT Run m]
  [Monad n] [MonadExceptOf Fault n] [Reading ν n] [Logging n] [MonadLiftT Run n]
  {related : ∀ {α : Type}, m α → n α → Prop}

namespace Generation

/-- A run up to the point at which the module is about to be written: the file, and the outcome of the run as
long as nothing fails from there on. -/
def prepare (services : Services ν m) (document : ν) : m (Value × Outcome) := do
  services.announce .started
  let head ← Head.build document (← setting "base_url")
  let base ← (do return (← get).draft.statements.size : Run Nat)
  let _ ← (modify fun w => { w with draft := w.draft.appendAll head } : Run Unit)
  services.announce (.defaults (base + Head.defaultsPlace))
  services.announce (.servers (base + Head.serversPlace))
  let types ← addTypes services (← componentSchemas document)
  let made ← visitPaths services document (← pathItems document) {}
  services.announce .moduleBuilt
  let contents ← render document
  let file := fileOf (← setting "output")
  services.announce (.beforeWrite file contents)
  return (file, ⟨file.displayed, contents, made.names, types⟩)

/-- The end of a run: the module is written. -/
def finish (services : Services ν m) (failures : Disk.WriteFailures) (file : Value) (outcome : Outcome) :
    m Outcome := do
  let _ ← (write file outcome.contents failures : Run Unit)
  services.announce (.afterWrite file outcome.contents)
  return outcome

theorem run_eq [LawfulMonad m] (services : Services ν m) (document : ν) (failures : Disk.WriteFailures) :
    run services document failures =
      prepare services document >>= fun prepared => finish services failures prepared.1 prepared.2 := by
  simp only [run, prepare, finish, bind_assoc, pure_bind]

end Generation

/-- An agreement that extends to the work on the module. -/
structure Drafting (ν : Type) (m n : Type → Type)
    [Monad m] [MonadExceptOf Fault m] [Reading ν m] [Logging m] [MonadLiftT Run m]
    [Monad n] [MonadExceptOf Fault n] [Reading ν n] [Logging n] [MonadLiftT Run n]
    (related : ∀ {α : Type}, m α → n α → Prop) : Prop extends Agreement ν m n related where
  of_drafting {α : Type} {step : Run α} (drafting : step.IsDrafting) :
    related (liftM step : m α) (liftM step)

/-- An agreement that extends to the work on the module, to announcements and to the types of schemas. -/
structure Generating (ν : Type) {m n : Type → Type}
    [Monad m] [MonadExceptOf Fault m] [Reading ν m] [Logging m] [MonadLiftT Run m]
    [Monad n] [MonadExceptOf Fault n] [Reading ν n] [Logging n] [MonadLiftT Run n]
    (related : ∀ {α : Type}, m α → n α → Prop) (services : Services ν m) (others : Services ν n) : Prop
    extends Drafting ν m n related where
  of_announce (occasion : Occasion ν) : related (services.announce occasion) (others.announce occasion)
  of_typeOf (name : Option String) (schema : ν) : related (services.typeOf name schema) (others.typeOf name schema)

namespace Drafting

variable (agree : Drafting ν m n related)

include agree

theorem of_setting (name : String) : related (setting name : m Value) (setting name) :=
  agree.of_drafting ⟨fun settings draft => (settings.get name, draft), fun _ => rfl⟩

theorem of_place (s : Statement) : related (place s : m Nat) (place s) :=
  agree.of_drafting ⟨fun _ draft => draft.append s, fun _ => rfl⟩

theorem of_statementAt (id : Nat) : related (statementAt id : m Statement) (statementAt id) :=
  agree.of_drafting ⟨fun _ draft => (draft.get id, draft), fun _ => rfl⟩

theorem of_componentSchemas (document : ν) : related (componentSchemas document) (componentSchemas document) := by
  refine agree.of_bind (agree.of_fieldOf document "components") fun stated =>
    agree.of_bind (agree.of_ifTrue stated) fun components => ?_
  cases components with
  | none => exact agree.of_pure []
  | some components =>
    refine agree.of_bind (agree.of_fieldOf components "schemas") fun stated =>
      agree.of_bind (agree.of_ifTrue stated) fun schemas => ?_
    cases schemas with
    | none => exact agree.of_pure []
    | some schemas => exact agree.of_bind (agree.of_shape schemas) fun _ => agree.of_lift _

theorem of_addTypes (services : Services ν m) (others : Services ν n)
    (typed : ∀ name schema, related (services.typeOf name schema) (others.typeOf name schema))
    (schemas : List (Atom × ν)) : related (addTypes services schemas) (addTypes others schemas) := by
  induction schemas with
  | nil => exact agree.of_pure []
  | cons entry rest ih =>
    exact agree.of_bind (agree.of_lift _) fun name => agree.of_bind (typed (some name) entry.2) fun _ =>
      agree.of_bind (agree.of_place _) fun _ => agree.of_bind (agree.of_note _) fun _ => agree.of_bind ih fun _ =>
        agree.of_pure _

theorem of_selected (operation : ν) : related (selected operation : m Bool) (selected operation) := by
  refine agree.of_bind (agree.of_fieldOf operation "tags") fun stated =>
    agree.of_bind (agree.of_wholeOf stated) fun tags => agree.of_bind (agree.of_lift _) fun tags =>
      agree.of_bind (agree.of_setting "include_tags") fun wanted => ?_
  extract_lets decide otherDecide
  have decided : ∀ unwanted : Bool, related (decide unwanted) (otherDecide unwanted) := by
    intro unwanted
    dsimp only [decide, otherDecide]
    split
    · exact agree.of_pure false
    · refine agree.of_bind (agree.of_setting "exclude_tags") fun stated =>
        agree.of_bind (agree.of_lift _) fun excluded => ?_
      split
      · exact agree.of_pure false
      · refine agree.of_bind (agree.of_fieldOf operation "deprecated") fun stated =>
          agree.of_bind (agree.of_isTrue stated) fun deprecated => ?_
        split
        · exact agree.of_bind (agree.of_setting "include_deprecated") fun _ => agree.of_pure _
        · exact agree.of_pure true
  split
  · exact agree.of_bind (agree.of_lift _) fun _ => agree.of_bind (agree.of_pure _) decided
  · exact agree.of_bind (agree.of_pure false) decided

theorem of_pathItems (document : ν) : related (pathItems document) (pathItems document) := by
  refine agree.of_bind (agree.of_fieldOf document "paths") fun stated =>
    agree.of_bind (agree.of_ifTrue stated) fun paths => ?_
  cases paths with
  | none => exact agree.of_pure []
  | some paths => exact agree.of_bind (agree.of_shape paths) fun _ => agree.of_lift _

theorem of_infoText (info : Option ν) (name default : String) :
    related (infoText info name default) (infoText info name default) := by
  cases info with
  | none => exact agree.of_pure default
  | some info =>
    refine agree.of_bind (agree.of_fieldOf info name) fun stated => ?_
    cases stated with
    | none => exact agree.of_pure default
    | some node => exact agree.of_bind (agree.of_whole node) fun _ => agree.of_lift _

theorem of_render (document : ν) : related (render document : m String) (render document) := by
  have statements : related (liftM (do return (← get).draft.toList : Run (List Statement)) : m (List Statement))
      (liftM (do return (← get).draft.toList : Run (List Statement))) :=
    agree.of_drafting ⟨fun _ draft => (draft.toList, draft), fun _ => rfl⟩
  refine agree.of_bind statements fun statements => ?_
  extract_lets titled otherTitled
  have titles : ∀ source : String, related (titled source) (otherTitled source) := fun source =>
    agree.of_bind (agree.of_fieldOf document "info") fun stated => agree.of_bind (agree.of_ifTrue stated) fun info =>
      agree.of_bind (agree.of_infoText info "title" "API") fun _ =>
        agree.of_bind (agree.of_infoText info "version" "") fun _ => agree.of_pure _
  split
  · exact agree.of_bind (agree.of_pure _) titles
  · exact agree.of_bind (agree.of_throw _) titles

end Drafting

namespace Generating

variable {services : Services ν m} {others : Services ν n} (agree : Generating ν related services others)

include agree

theorem of_functionOf (document : ν) (method path : String) (operation : ν) (item : Option ν)
    (taken : Option (List String)) :
    related (functionOf services document method path operation item taken)
      (functionOf others document method path operation item taken) := by
  refine agree.of_bind (agree.of_announce _) fun _ => agree.of_function _ _ (fun schema => ?_) _ _ _ _ _ _
  cases schema with
  | none => exact agree.of_pure _
  | some schema => exact agree.of_typeOf none schema

theorem of_addFunction (document : ν) (method path : String) (operation item : ν) (made : Made) :
    related (addFunction services document method path operation item made)
      (addFunction others document method path operation item made) :=
  agree.of_bind (agree.of_functionOf document method path operation (some item) (some made.taken)) fun _ =>
    agree.of_bind (agree.of_place _) fun id => agree.of_bind (agree.of_announce _) fun _ =>
      agree.of_bind (agree.of_statementAt id) fun _ => agree.of_bind (agree.of_note _) fun _ => agree.of_pure _

theorem of_visitMethods (document : ν) (path : Atom) (item : ν) (methods : List String) (made : Made) :
    related (visitMethods services document path item methods made)
      (visitMethods others document path item methods made) := by
  induction methods generalizing made with
  | nil => exact agree.of_pure made
  | cons method rest ih =>
    refine agree.of_bind (agree.of_fieldOf item method) fun stated =>
      agree.of_bind (agree.of_mapping? stated) fun operation => ?_
    cases operation with
    | none => exact ih made
    | some operation =>
      refine agree.of_bind (agree.of_selected operation) fun chosen => ?_
      split
      · exact agree.of_bind (agree.of_lift _) fun shownPath =>
          agree.of_bind (agree.of_addFunction document method shownPath operation item made) ih
      · exact ih made

theorem of_visitPaths (document : ν) (paths : List (Atom × ν)) (made : Made) :
    related (visitPaths services document paths made) (visitPaths others document paths made) := by
  induction paths generalizing made with
  | nil => exact agree.of_pure made
  | cons entry rest ih =>
    refine agree.of_bind (agree.of_deref entry.2 document) fun node =>
      agree.of_bind (agree.of_mapping? (some node)) fun item => ?_
    cases item with
    | none => exact ih made
    | some item => exact agree.of_bind (agree.of_visitMethods document entry.1 item methods made) ih

theorem of_prepare (document : ν) : related (prepare services document) (prepare others document) := by
  have size : related (liftM (do return (← get).draft.statements.size : Run Nat) : m Nat)
      (liftM (do return (← get).draft.statements.size : Run Nat)) :=
    agree.of_drafting ⟨fun _ draft => (draft.statements.size, draft), fun _ => rfl⟩
  have headed (head : List Statement) :
      related (liftM (modify fun w => { w with draft := w.draft.appendAll head } : Run Unit) : m Unit)
        (liftM (modify fun w => { w with draft := w.draft.appendAll head } : Run Unit)) :=
    agree.of_drafting ⟨fun _ draft => ((), draft.appendAll head), fun _ => rfl⟩
  refine agree.of_bind (agree.of_announce _) fun _ => ?_
  refine agree.of_bind (agree.of_setting "base_url") fun baseUrl => ?_
  refine agree.of_bind (agree.of_build document baseUrl) fun head => ?_
  refine agree.of_bind size fun base => agree.of_bind (headed head) fun _ => ?_
  refine agree.of_bind (agree.of_announce _) fun _ => agree.of_bind (agree.of_announce _) fun _ => ?_
  refine agree.of_bind (agree.of_componentSchemas document) fun schemas => ?_
  refine agree.of_bind (agree.of_addTypes services others agree.of_typeOf schemas) fun types => ?_
  refine agree.of_bind (agree.of_pathItems document) fun paths => ?_
  refine agree.of_bind (agree.of_visitPaths document paths {}) fun made => ?_
  refine agree.of_bind (agree.of_announce _) fun _ => agree.of_bind (agree.of_render document) fun contents => ?_
  refine agree.of_bind (agree.of_setting "output") fun output => agree.of_bind (agree.of_announce _) fun _ => ?_
  exact agree.of_pure _

/-- Ways of running that agree about everything that a run is made of agree about a run. In the end, from
the writing of the module on, a run may be looked at with less care. -/
theorem of_run [LawfulMonad m] [LawfulMonad n] (document : ν) {failures : Disk.WriteFailures}
    {ends : m Outcome → n Outcome → Prop}
    (of_last : ∀ {α : Type} {step : m α} {other : n α} {next : α → m Outcome} {otherNext : α → n Outcome},
      related step other → (∀ a, ends (next a) (otherNext a)) → ends (step >>= next) (other >>= otherNext))
    (of_finish : ∀ (file : Value) (outcome : Outcome),
      ends (finish services failures file outcome) (finish others failures file outcome)) :
    ends (Generation.run services document failures) (Generation.run others document failures) := by
  rw [run_eq, run_eq]
  exact of_last (agree.of_prepare document) fun prepared => of_finish prepared.1 prepared.2

end Generating

end ClientGen
