import ClientGen.Proofs.Operation.Agreement
import ClientGen.Proofs.Reading
import ClientGen.Proofs.Running

/-!
Reading trees in a run. Without plugins nothing that a run reads can change, so that every rule yields in a
run what it yields by itself, and leaves nothing behind but reports (`Run.reads`). The same holds where nothing but
reports is kept (`Logged.reads`), as it is where an operation becomes a function (`toFunction_reads`).
-/

namespace ClientGen

/-- Rules by themselves drop what they report. -/
instance : Logging (Except Fault) where
  note _ := .ok ()

namespace Run

variable {α β : Type}

/-- A step yields a result whatever the world is, and adds at most reports to it. -/
def Reads (step : Run α) (result : Except Fault α) : Prop :=
  ∀ world, ∃ records, on step world = (result, { world with log := world.log ++ records })

private theorem reads_pure (a : α) : Reads (pure a) (.ok a) := fun world => ⟨[], by simp⟩

private theorem reads_bind {step : Run α} {result : Except Fault α} {next : α → Run β} {then' : α → Except Fault β}
    (first : Reads step result) (rest : ∀ a, Reads (next a) (then' a)) : Reads (step >>= next) (result >>= then') := by
  intro world
  obtain ⟨records, done⟩ := first world
  rw [on_bind, done]
  cases result with
  | error fault => exact ⟨records, rfl⟩
  | ok a =>
    obtain ⟨more, finished⟩ := rest a { world with log := world.log ++ records }
    exact ⟨records ++ more, by simp [finished]⟩

/-- What is read of a tree in a run is what is read of it. -/
theorem reads : Agreement Value Run (Except Fault) Reads where
  of_pure := reads_pure
  of_throw fault world := ⟨[], by simp⟩
  of_bind := reads_bind
  of_map f first := by
    rw [← bind_pure_comp, ← bind_pure_comp]
    exact reads_bind first fun a => reads_pure (f a)
  of_note record _ := ⟨[record], rfl⟩
  of_shape v := reads_pure v.shape
  of_whole v := reads_pure v
  of_extent v := reads_pure v.size

/-- The result of a step that only reads, with the world it leaves behind. -/
theorem Reads.eq_ok {step : Run α} {result : Except Fault α} (reads : Reads step result) {world later : World} {a : α}
    (done : on step world = (.ok a, later)) :
    result = .ok a ∧ ∃ records, later = { world with log := world.log ++ records } := by
  obtain ⟨records, equal⟩ := reads world
  rw [equal] at done
  cases done
  exact ⟨rfl, records, rfl⟩

end Run

namespace Logged

variable {α β : Type}

/-- A step yields a result, and adds at most reports to those before. -/
def Reads (step : Logged α) (result : Except Fault α) : Prop :=
  ∀ log, ∃ records, step.run.run log = (result, log ++ records)

private theorem logged_pure (a : α) : Reads (pure a) (.ok a) := fun log => ⟨[], by rw [List.append_nil]; rfl⟩

private theorem logged_bind {step : Logged α} {result : Except Fault α} {next : α → Logged β}
    {then' : α → Except Fault β} (first : Reads step result) (rest : ∀ a, Reads (next a) (then' a)) :
    Reads (step >>= next) (result >>= then') := by
  intro log
  obtain ⟨records, done⟩ := first log
  have opened : (step >>= next).run.run log =
      match step.run.run log with
      | (.ok a, log) => (next a).run.run log
      | (.error fault, log) => (.error fault, log) := by
    simp only [bind, ExceptT.bind, ExceptT.bindCont, ExceptT.mk, ExceptT.run, StateT.run, StateT.bind]
    rcases step log with ⟨fault | a, log⟩ <;> rfl
  rw [opened, done]
  cases result with
  | error fault => exact ⟨records, rfl⟩
  | ok a =>
    obtain ⟨more, finished⟩ := rest a (log ++ records)
    exact ⟨records ++ more, by simp [finished]⟩

/-- What is read of a tree where reports are kept is what is read of it. -/
theorem reads : Agreement Value Logged (Except Fault) Reads where
  of_pure := logged_pure
  of_throw fault log := ⟨[], by rw [List.append_nil]; rfl⟩
  of_bind := logged_bind
  of_map f first := by
    rw [← bind_pure_comp, ← bind_pure_comp]
    exact logged_bind first fun a => logged_pure (f a)
  of_note record _ := ⟨[record], rfl⟩
  of_shape v := logged_pure v.shape
  of_whole v := logged_pure v
  of_extent v := logged_pure v.size

end Logged

namespace Operation

/-- Without plugins an operation becomes the function that the rules make of it by themselves. -/
theorem toFunction_reads (document : Value) (method path : String) (operation : Value) (item : Option Value)
    (taken : Option (List String)) :
    Logged.Reads (toFunction document method path operation item taken)
      (convert (typeOf document) document method path operation item taken) :=
  Logged.reads.of_function (fun schema => lift (typeOf document schema)) (typeOf document)
    (fun schema => by simpa using Logged.reads.of_lift (typeOf document schema)) document method path operation item
    taken

end Operation

end ClientGen
