import ClientGen.Plugin.Manager

/-!
Running steps. A step of a run yields an outcome and leaves a world behind (`Run.on`); a step of managing
plugins leaves a manager behind as well (`Managed.on`). The equations say what the parts that steps are
made of yield and leave behind, failures included.
-/

namespace ClientGen

namespace Run

variable {α β : Type}

/-- What a step yields in a world, and the world that it leaves behind. -/
def on (step : Run α) (world : World) : Except Fault α × World := (step.run.run world)

variable (world : World)

@[simp] theorem on_pure (a : α) : on (pure a) world = (.ok a, world) := rfl

@[simp] theorem on_throw (fault : Fault) : on (throw fault : Run α) world = (.error fault, world) := rfl

@[simp] theorem on_get : on get world = (.ok world, world) := rfl

@[simp] theorem on_modify (edit : World → World) : on (modify edit) world = (.ok (), edit world) := rfl

@[simp] theorem on_note (record : LogRecord) :
    on (note record) world = (.ok (), { world with log := world.log ++ [record] }) := rfl

theorem on_bind (step : Run α) (next : α → Run β) :
    on (step >>= next) world =
      match on step world with
      | (.ok a, later) => on (next a) later
      | (.error fault, later) => (.error fault, later) := by
  simp only [on, bind, ExceptT.bind, ExceptT.bindCont, ExceptT.mk, ExceptT.run, StateT.run, StateT.bind]
  rcases step world with ⟨fault | a, later⟩ <;> rfl

theorem succeeds_of_isSome {step : Run α} {world : World} (some : (on step world).1.toOption.isSome = true) :
    ∃ a later, on step world = (.ok a, later) := by
  rcases result : on step world with ⟨fault | a, later⟩
  · simp [result, Except.toOption] at some
  · exact ⟨a, later, rfl⟩

theorem on_pure_ok {a b : α} {world later : World} : on (pure a) world = (.ok b, later) ↔ b = a ∧ later = world := by
  rw [on_pure, Prod.mk.injEq, Except.ok.injEq, eq_comm, eq_comm (a := world)]

/-- A step that succeeds has succeeded in its first part and in what follows. -/
theorem on_bind_ok {step : Run α} {next : α → Run β} {world final : World} {b : β} :
    on (step >>= next) world = (.ok b, final) ↔
      ∃ a later, on step world = (.ok a, later) ∧ on (next a) later = (.ok b, final) := by
  rw [on_bind]
  rcases on step world with ⟨fault | a, later⟩
  · exact ⟨nofun, nofun⟩
  · constructor
    · exact fun done => ⟨a, later, rfl, done⟩
    · rintro ⟨_, _, equal, done⟩
      cases equal
      exact done

theorem on_tryCatch (step : Run α) (rescue : Fault → Run α) :
    on (tryCatch step rescue) world =
      match on step world with
      | (.ok a, later) => (.ok a, later)
      | (.error fault, later) => on (rescue fault) later := by
  simp only [on, tryCatch, tryCatchThe, MonadExceptOf.tryCatch, ExceptT.tryCatch, ExceptT.mk, ExceptT.run,
    StateT.run, bind, StateT.bind]
  rcases step world with ⟨fault | a, later⟩ <;> rfl

end Run

namespace Managed

variable {α β : Type}

/-- What a step yields, and the manager and the world that it leaves behind. -/
def on (step : Managed α) (manager : Manager) (world : World) : (Except Fault α × Manager) × World :=
  (step.run.run manager).run world

variable (manager : Manager) (world : World)

@[simp] theorem on_pure (a : α) : on (pure a) manager world = ((.ok a, manager), world) := rfl

@[simp] theorem on_throw (fault : Fault) :
    on (throw fault : Managed α) manager world = ((.error fault, manager), world) := rfl

@[simp] theorem on_get : on get manager world = ((.ok manager, manager), world) := rfl

@[simp] theorem on_set (later : Manager) : on (set later) manager world = ((.ok (), later), world) := rfl

@[simp] theorem on_modify (edit : Manager → Manager) :
    on (modify edit) manager world = ((.ok (), edit manager), world) := rfl

@[simp] theorem on_ofRun (step : Run α) :
    on (ofRun step) manager world = (((step.on world).1, manager), (step.on world).2) := rfl

@[simp] theorem on_note (record : LogRecord) :
    on (note record) manager world = ((.ok (), manager), { world with log := world.log ++ [record] }) := rfl

theorem on_bind (step : Managed α) (next : α → Managed β) :
    on (step >>= next) manager world =
      match on step manager world with
      | ((.ok a, manager), world) => on (next a) manager world
      | ((.error fault, manager), world) => ((.error fault, manager), world) := by
  simp only [on, bind, ExceptT.bind, ExceptT.bindCont, ExceptT.mk, ExceptT.run, StateT.run, StateT.bind]
  rcases step manager world with ⟨⟨fault | a, later⟩, after⟩ <;> rfl

theorem on_tryCatch (step : Managed α) (rescue : Fault → Managed α) :
    on (tryCatch step rescue) manager world =
      match on step manager world with
      | ((.ok a, manager), world) => ((.ok a, manager), world)
      | ((.error fault, manager), world) => on (rescue fault) manager world := by
  simp only [on, tryCatch, tryCatchThe, MonadExceptOf.tryCatch, ExceptT.tryCatch, ExceptT.mk, ExceptT.run,
    StateT.run, bind, StateT.bind]
  rcases step manager world with ⟨⟨fault | a, later⟩, after⟩ <;> rfl

end Managed

end ClientGen
