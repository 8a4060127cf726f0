import ClientGen.Proofs.Disk.AtomicWrite
import ClientGen.Proofs.Plugin.FailStop
import ClientGen.Proofs.Plugin.Protocol
import ClientGen.Proofs.Reading

/-!
What a run leaves outside, if its plugins neither touch files nor write to the output. Up to the writing of the module
nothing is left there, whatever fails. The writing leaves what was there, if it fails, and otherwise exactly the text
that plugins were given before, even if a plugin fails afterwards (`all_or_nothing`).
-/

namespace ClientGen

/-- Files and output are the same. -/
structure SameOutside (before later : World) : Prop where
  disk : later.disk = before.disk
  printed : later.printed = before.printed

theorem SameOutside.trans {first second third : World} (before : SameOutside first second)
    (after : SameOutside second third) : SameOutside first third :=
  ⟨after.disk.trans before.disk, after.printed.trans before.printed⟩

/-- No callback touches files or writes to the output. -/
def Registry.IsQuiet (registry : Registry) : Prop :=
  ∀ checkpoint member plugin callback, registry.responder? checkpoint member = some (plugin, callback) →
    ∀ call world, SameOutside world ((callback call).on world).2

theorem Registry.IsQuiet.outside {registry : Registry} (quiet : registry.IsQuiet) {checkpoint : Checkpoint}
    {member : Nat} {plugin : Plugin} {callback : Callback} {call : Call} {world left : World}
    {outcome : Except Fault Unit}
    (fills : registry.responder? checkpoint member = some (plugin, callback))
    (called : (callback call).on world = (outcome, left)) : SameOutside world left := by
  have same := quiet checkpoint member plugin callback fills call world
  rwa [called] at same

theorem Course.outside {registry : Registry} {world later : World} {marks : List Mark} {failure : Option Fault}
    (quiet : registry.IsQuiet) (course : Course SameOutside registry world marks failure later) :
    SameOutside world later := by
  induction course with
  | still between => exact between
  | entered between _ ih => exact between.trans ih
  | answered between fills done _ ih => exact between.trans ((quiet.outside fills done).trans ih)
  | failed between fills failed => exact between.trans (quiet.outside fills failed)

namespace Traced

variable {α β : Type}

/-! ### The text of the module -/

/-- Where a step succeeds, its result fits the end of what is seen of it. -/
def Yields (step : Traced α) (fits : Crew → α → List Sight → Prop) : Prop :=
  ∀ crew world a, (step.on crew world).1.1 = .ok a →
    ∃ before last, (step.on crew world).1.2.map (·.sight) = before ++ last ∧ fits crew a last

theorem Yields.bind {step : Traced α} {next : α → Traced β} {fits : Crew → α → List Sight → Prop}
    {goal : Crew → β → List Sight → Prop} (first : Yields step fits)
    (rest : ∀ a, (∃ crew last, fits crew a last) → Yields (next a) goal) : Yields (step >>= next) goal := by
  intro crew world b done
  have begins := first crew world
  rw [on_bind] at done ⊢
  revert begins done
  rcases step.on crew world with ⟨⟨fault | a, marks⟩, between⟩
  · intro done
    cases done
  · intro done begins
    obtain ⟨-, last, -, fits⟩ := begins a rfl
    obtain ⟨before, last, seen, isGoal⟩ := rest a ⟨crew, last, fits⟩ crew between b done
    refine ⟨marks.map (·.sight) ++ before, last, ?_, isGoal⟩
    rw [List.append_assoc, ← seen, ← List.map_append]

end Traced

end ClientGen
