import ClientGen.Proofs.Generation.Agreement
import ClientGen.Proofs.Schema.Agreement
import Mathlib.Control.Monad.Writer

/-!
Runs that keep a record. The rules that make a module are followed once more in steps that also record which
checkpoints they enter and which plugins they call (`Traced`). Without its record such a run is the run itself
(`on_withPlugins`), so that whatever the record says is true of the run.
-/

namespace ClientGen

/-- What can be seen of a run: it enters a checkpoint, or it calls a member of the list of plugins. -/
inductive Sight where
  | entered (occasion : Occasion Node)
  | called (member : Nat) (call : Call)

/-- Something that was seen, with the world as it was then. -/
structure Mark where
  sight : Sight
  world : World

/-- A run with a record of what can be seen of it. -/
abbrev Traced := ReaderT Crew (ExceptT Fault (WriterT (List Mark) (StateM World)))

namespace Live

theorem on_bind {α β : Type} (step : Live α) (next : α → Live β) (crew : Crew) (world : World) :
    ((step >>= next) crew).on world =
      match (step crew).on world with
      | (.ok a, later) => (next a crew).on later
      | (.error fault, later) => (.error fault, later) :=
  Run.on_bind world (step crew) fun a => next a crew

theorem on_typeOf (name : Option String) (schema : Node) (crew : Crew) (world : World) :
    (Generation.liveServices.typeOf name schema crew).on world =
      ((SchemaType.convert crew.document SchemaType.liveDepth name schema : Live Expr) crew).on world := by
  have opened : Generation.liveServices.typeOf name schema =
      (read >>= fun crew => SchemaType.convert crew.document SchemaType.liveDepth name schema) := rfl
  have asked : ((read : Live Crew) crew).on world = (.ok crew, world) := rfl
  rw [opened, on_bind, asked]

end Live

namespace Traced

variable {α β : Type}

/-- A step of which nothing is seen. -/
def ofRun (step : Run α) : Traced α := fun _ world =>
  let (outcome, later) := step.on world
  ((outcome, []), later)

/-- Records something. -/
def mark (sight : Sight) : Traced Unit := fun _ world => ((.ok (), [⟨sight, world⟩]), world)

instance : MonadLift Run Traced := ⟨ofRun⟩

instance : Logging Traced where
  note record := ofRun (note record)

instance : Reading Node Traced where
  shape node := ofRun (shape node)
  whole node := ofRun (whole node)
  extent node := ofRun (extent node)

/-- Calls one member of a list of plugins, if it is a genuine plugin that fills the slot. -/
def respond (id : Nat) (call : Call) : Traced Unit := do
  match (← read).registry.responder? call.occasion.checkpoint id with
  | none => pure ()
  | some (p, callback) =>
    ofRun (p.reportCall call.occasion.checkpoint)
    mark (.called id call)
    ofRun (p.invoke callback call)

/-- Calls the members of a list in order. -/
def respondAll : List Nat → Call → Traced Unit
  | [], _ => pure ()
  | id :: rest, call => do
    respond id call
    respondAll rest call

/-- Enters a checkpoint and calls the plugins. -/
def announce (occasion : Occasion Node) : Traced Unit := do
  mark (.entered occasion)
  let crew ← read
  respondAll crew.members ⟨occasion, crew.document⟩

instance : Converting Node Traced where
  retyped schema type := ofRun (Live.retype schema type)
  enter schema := announce (.beforeSchema schema)
  leave schema type := do
    let id ← ofRun (Live.layOut type)
    announce (.afterSchema schema id)
    ofRun (Live.takeBack id)

/-- How a run with a record calls plugins and converts schemas. -/
def services : Generation.Services Node Traced :=
  ⟨announce, fun name schema => do SchemaType.convert (← read).document SchemaType.liveDepth name schema⟩

/-- What a step yields, what was seen, and the world that it leaves behind. -/
def on (step : Traced α) (crew : Crew) (world : World) : (Except Fault α × List Mark) × World := step crew world

variable (crew : Crew) (world : World)

@[simp] theorem on_pure (a : α) : on (pure a) crew world = ((.ok a, []), world) := rfl

@[simp] theorem on_throw (fault : Fault) : on (throw fault : Traced α) crew world = ((.error fault, []), world) := rfl

@[simp] theorem on_read : on read crew world = ((.ok crew, []), world) := rfl

@[simp] theorem on_ofRun (step : Run α) :
    on (ofRun step) crew world = (((step.on world).1, []), (step.on world).2) := rfl

@[simp] theorem on_mark (sight : Sight) : on (mark sight) crew world = ((.ok (), [⟨sight, world⟩]), world) := rfl

theorem on_bind (step : Traced α) (next : α → Traced β) :
    on (step >>= next) crew world =
      match on step crew world with
      | ((.ok a, marks), later) =>
        (((on (next a) crew later).1.1, marks ++ (on (next a) crew later).1.2), (on (next a) crew later).2)
      | ((.error fault, marks), later) => ((.error fault, marks), later) := by
  rcases result : on step crew world with ⟨⟨fault | a, marks⟩, later⟩ <;>
    replace result : WriterT.run (step crew) world = _ := result <;>
    simp only [on, bind, ReaderT.bind, ExceptT.bind, ExceptT.bindCont, ExceptT.mk, StateT.bind, WriterT.mk, result]
  · show ((Except.error fault, marks ++ []), later) = _
    rw [List.append_nil]
  · rfl

theorem on_announce (occasion : Occasion Node) :
    (announce occasion).on crew world =
      let result := (respondAll crew.members ⟨occasion, crew.document⟩).on crew world
      ((result.1.1, ⟨.entered occasion, world⟩ :: result.1.2), result.2) := by
  simp [announce, on_bind]

theorem on_typeOf (name : Option String) (schema : Node) :
    (services.typeOf name schema).on crew world =
      (SchemaType.convert crew.document SchemaType.liveDepth name schema : Traced Expr).on crew world := by
  simp only [services, on_bind, on_read, List.nil_append]

theorem map_eq_bind (f : α → β) (step : Traced α) : f <$> step = step >>= fun a => pure (f a) := by
  funext crew world
  simp only [Functor.map, bind, ReaderT.bind, ExceptT.map, ExceptT.bind, ExceptT.bindCont, ExceptT.mk]
  refine congrFun (congrArg (StateT.bind (step crew).run) ?_) world
  funext ⟨outcome, marks⟩
  cases outcome <;> rfl

private theorem ext_on {step other : Traced α} (same : ∀ crew world, step.on crew world = other.on crew world) :
    step = other :=
  funext fun crew => funext fun world => same crew world

instance : LawfulMonad Traced := by
  refine LawfulMonad.mk' Traced ?_ ?_ ?_ (fun _ _ => rfl) (fun _ _ => rfl) (fun _ _ => rfl)
    (fun f step => (map_eq_bind f step).symm) (fun _ _ => rfl)
  · intro α step
    rw [map_eq_bind]
    refine ext_on fun crew world => ?_
    rw [on_bind]
    rcases step.on crew world with ⟨⟨fault | a, marks⟩, later⟩
    · rfl
    · simp only [id_eq, on_pure, List.append_nil]
  · intro α β a next
    refine ext_on fun crew world => ?_
    simp only [on_bind, on_pure, List.nil_append]
  · intro α β γ step next last
    refine ext_on fun crew world => ?_
    simp only [on_bind]
    rcases step.on crew world with ⟨⟨fault | a, marks⟩, later⟩
    · rfl
    · dsimp only
      rcases (next a).on crew later with ⟨⟨fault | b, more⟩, between⟩
      · rfl
      · simp only [List.append_assoc]

/-- A step without its record is a step of a run. -/
def Erases (step : Traced α) (bare : Live α) : Prop :=
  ∀ crew world, (bare crew).on world = ((step.on crew world).1.1, (step.on crew world).2)

theorem erases_ofRun (step : Run α) : Erases (ofRun step) (Live.ofRun step) := fun _ _ => rfl

private theorem erases_bind {step : Traced α} {bare : Live α} {next : α → Traced β} {bareNext : α → Live β}
    (first : Erases step bare) (rest : ∀ a, Erases (next a) (bareNext a)) :
    Erases (step >>= next) (bare >>= bareNext) := by
  intro crew world
  rw [Live.on_bind, on_bind, first crew world]
  rcases step.on crew world with ⟨⟨fault | a, marks⟩, later⟩
  · rfl
  · exact rest a crew later

theorem erases : Agreement Node Traced Live Erases where
  of_pure _ _ _ := rfl
  of_throw _ _ _ := rfl
  of_bind := erases_bind
  of_map f first := by
    rw [map_eq_bind, ← bind_pure_comp]
    exact erases_bind first fun _ _ _ => rfl
  of_note _ := erases_ofRun _
  of_shape _ := erases_ofRun _
  of_whole _ := erases_ofRun _
  of_extent _ := erases_ofRun _

theorem erases_respond (id : Nat) (call : Call) :
    Erases (respond id call) (fun crew => crew.registry.respond id call) := by
  intro crew world
  show (crew.registry.respond id call).on world = _
  rw [respond, Registry.respond, on_bind, on_read]
  dsimp only
  cases crew.registry.responder? call.occasion.checkpoint id with
  | none => rfl
  | some responder =>
    simp only [on_bind, on_ofRun, on_mark, Run.on_bind]
    rcases (responder.1.reportCall call.occasion.checkpoint).on world with ⟨fault | _, later⟩ <;> rfl

theorem erases_respondAll (members : List Nat) (call : Call) :
    Erases (respondAll members call) (fun crew => crew.registry.respondAll members call) := by
  induction members with
  | nil => exact fun _ _ => rfl
  | cons id rest ih => exact erases_bind (erases_respond id call) fun _ => ih

theorem erases_announce (occasion : Occasion Node) : Erases (announce occasion) (Live.announce occasion) := by
  intro crew world
  rw [on_announce]
  exact erases_respondAll crew.members ⟨occasion, crew.document⟩ crew world

/-- Where schemas are converted a record changes nothing. -/
theorem erases_converting : Announcing Node Traced Live Erases where
  toAgreement := erases
  of_retyped schema type := erases_ofRun (Live.retype schema type)
  of_announced _ _ _ inside :=
    erases_bind (erases_announce _) fun _ => erases_bind inside fun type =>
      erases_bind (erases_ofRun (Live.layOut type)) fun id => erases_bind (erases_announce _) fun _ =>
        erases_ofRun (Live.takeBack id)

/-- Where a module is generated a record changes nothing. -/
theorem erases_generating : Generating Node Erases services Generation.liveServices where
  toAgreement := erases
  of_drafting {_ step} _ := erases_ofRun step
  of_announce := erases_announce
  of_typeOf name schema crew world := by
    rw [on_typeOf, Live.on_typeOf]
    exact erases_converting.of_convert crew.document SchemaType.liveDepth name schema crew world

/-- A run with a record of what can be seen of it. -/
def generation (document : Node) (failures : Disk.WriteFailures := Disk.noFailures) : Traced Generation.Outcome :=
  Generation.run services document failures

/-- Without its record a run with a record is a run. -/
theorem on_withPlugins (crew : Crew) (world : World) (failures : Disk.WriteFailures := Disk.noFailures) :
    (Generation.withPlugins crew.registry crew.members crew.document failures).on world =
      (((generation crew.document failures).on crew world).1.1, ((generation crew.document failures).on crew world).2) :=
  erases_generating.of_run crew.document erases.of_bind
    (fun file outcome => erases_bind (erases_ofRun (Generation.write file outcome.contents failures)) fun _ =>
      erases_bind (erases_announce _) fun _ => erases.of_pure _) crew world

end Traced

end ClientGen
