import ClientGen.Proofs.Plugin.Ownership
import ClientGen.Proofs.Reading

/-!
Loading plugins by path. Every path is tried on the manager that the paths before it have left
(`verdicts`). As long as every failure is one that loading speaks of itself, none of them gets out: each
path that leads to no plugin costs one warning, and the others come to handing in the objects that they
lead to (`Quarantined`). This is so exactly if every import that fails does so as an import, or with a
complaint about plugins, and if the genuine plugins that are found have names that can be looked up
(`quarantined_iff`). An empty or a relative module name fails otherwise, and ends the whole loading
(`stray_import_escapes`).
-/

namespace ClientGen.Manager

/-- The object that a path leads to: the member that it names, of a module that can be imported. -/
def object? (modules : Modules) (path : String) : Option Nat :=
  match modules.importModule (cutPath path).1 with
  | .ok members => (members.find? fun entry => entry.1 = (cutPath path).2).map (·.2)
  | .error _ => none

/-- The objects that paths lead to, in the order of the paths. -/
def imported (modules : Modules) (paths : List String) : List Nat := paths.filterMap (object? modules)

/-- The plugin that a path leads to, and the manager that has accepted it. -/
def attempt (modules : Modules) (registry : Registry) (manager : Manager) (path : String) :
    Except Fault (Nat × Manager) := do
  let id ← findMember modules path
  return (id, ← manager.accept registry id)

/-- What becomes of paths that are tried one after the other: each with the plugin that was loaded, or with
the reason why none was. What fails leaves the manager as it was. -/
def verdicts (modules : Modules) (registry : Registry) : List String → Manager → List (String × Except Fault Nat)
  | [], _ => []
  | path :: rest, manager =>
    match attempt modules registry manager path with
    | .ok (id, later) => (path, .ok id) :: verdicts modules registry rest later
    | .error fault => (path, .error fault) :: verdicts modules registry rest manager

/-- The plugins that were loaded. -/
def loadedIn (said : List (String × Except Fault Nat)) : List Nat := said.filterMap fun verdict => verdict.2.toOption

/-- The paths that lead to no plugin, each with the reason. -/
def skippedIn (said : List (String × Except Fault Nat)) : List (String × Fault) :=
  said.filterMap fun verdict =>
    match verdict.2 with
    | .ok _ => none
    | .error fault => some (verdict.1, fault)

/-- The warning about a path that leads to no plugin. -/
def skipping (skipped : String × Fault) : LogRecord :=
  ⟨.warning, source, "Failed to load plugin '" ++ skipped.1 ++ "': " ++ skipped.2.message⟩

/-- The warnings among reports. -/
def warningsIn (log : List LogRecord) : List LogRecord := log.filter fun record => record.level = .warning

/-- Loading by path succeeds. It yields the names of the loaded plugins in order, warns once of every other path
and of nothing else, and leaves the manager that handing in the imported objects leaves. -/
def Quarantined (modules : Modules) (registry : Registry) (paths : List String) (manager : Manager) (world : World) :
    Prop :=
  ∃ names later after, (loadPaths modules registry paths).on manager world = ((.ok names, later), after) ∧
    names = (loadedIn (verdicts modules registry paths manager)).map (nameOf registry) ∧
    warningsIn after.log =
      warningsIn world.log ++ (skippedIn (verdicts modules registry paths manager)).map skipping ∧
    ∃ other, (loadAll registry (imported modules paths)).on manager world = ((.ok names, later), other)

/-- Whatever goes wrong on a path is a failure to import, or a complaint about plugins. -/
structure Contained (modules : Modules) (registry : Registry) (path : String) : Prop where
  importing : ∀ fault, modules.importModule (cutPath path).1 = .error fault →
    fault.kind.isImport = true ∨ fault.kind = .plugin
  nameable : ∀ id, object? modules path = some id → registry.isGenuine id = true →
    (nameOf registry id).isKey = true

section

variable {modules : Modules} {registry : Registry} {manager : Manager} {path : String}

/-! ### One path -/

theorem findMember_eq_ok {id : Nat} : findMember modules path = .ok id ↔ object? modules path = some id := by
  unfold findMember object?
  dsimp only
  cases modules.importModule (cutPath path).1 with
  | error fault =>
    dsimp only
    split <;> simp
  | ok members =>
    dsimp only
    cases members.find? fun entry => entry.1 = (cutPath path).2 <;> simp

theorem attempt_of_missing {fault : Fault} (missing : findMember modules path = .error fault) :
    attempt modules registry manager path = .error fault := by
  rw [attempt, missing, except_bind_error]

theorem attempt_of_found {id : Nat} (found : object? modules path = some id) :
    attempt modules registry manager path = (manager.accept registry id).map (id, ·) := by
  rw [attempt, findMember_eq_ok.mpr found, except_bind_ok]
  cases manager.accept registry id <;> rfl

/-- That a path leads to no object is a complaint about plugins, unless the import fails in its own way. -/
private theorem kind_of_missing_iff :
    (∀ fault, findMember modules path = .error fault → fault.kind = .plugin) ↔
      ∀ fault, modules.importModule (cutPath path).1 = .error fault →
        fault.kind.isImport = true ∨ fault.kind = .plugin := by
  cases imports : modules.importModule (cutPath path).1 with
  | error cause =>
    by_cases isImport : cause.kind.isImport = true
    · have missing : findMember modules path = .error (.plugin (.noModule (cutPath path).1 cause.message)) := by
        simp [findMember, imports, isImport]
      rw [missing]
      refine ⟨fun _ fault same => .inl ?_, fun _ fault same => ?_⟩
      · rwa [← Except.error.inj same]
      · rw [← Except.error.inj same]
        rfl
    · have missing : findMember modules path = .error cause := by simp [findMember, imports, isImport]
      simp [missing, isImport]
  | ok members =>
    refine ⟨fun _ => nofun, fun _ fault missing => ?_⟩
    simp only [findMember, imports] at missing
    split at missing
    · cases missing
    · cases missing
      rfl

/-- A genuine plugin whose name cannot be looked up is refused, and not with a complaint about plugins. -/
private theorem refusal_of_unnameable {id : Nat} (genuine : registry.isGenuine id = true)
    (unnameable : ¬(nameOf registry id).isKey = true) : manager.accept registry id = .error Fault.wrongType := by
  obtain ⟨plugin, found⟩ := Option.isSome_iff_exists.mp (Bool.and_eq_true_iff.mp genuine).1
  have isGenuine : registry.genuine? id = some plugin := Registry.genuine?_eq_some.mpr ⟨genuine, found⟩
  have name : ¬plugin.name.isKey = true := by simpa [nameOf, found] using unnameable
  simp [accept, isGenuine, name]

/-- A path on which all failures are contained fails on every manager with a complaint about plugins; any other path
fails otherwise on every manager. -/
theorem contained_iff (manager : Manager) : Contained modules registry path ↔
    ∀ fault, attempt modules registry manager path = .error fault → fault.kind = .plugin := by
  constructor
  · intro contained fault failed
    cases found : findMember modules path with
    | error cause =>
      rw [attempt_of_missing found] at failed
      cases failed
      exact kind_of_missing_iff.mpr contained.importing _ found
    | ok id =>
      have leads := findMember_eq_ok.mp found
      rw [attempt_of_found leads] at failed
      cases refused : manager.accept registry id with
      | ok later =>
        rw [refused] at failed
        cases failed
      | error cause =>
        rw [refused] at failed
        cases failed
        exact kind_of_refusal (contained.nameable id leads) refused
  · intro ownFailures
    constructor
    · exact kind_of_missing_iff.mp fun fault missing => ownFailures fault (attempt_of_missing missing)
    · intro id leads genuine
      by_contra unnameable
      have failed : attempt modules registry manager path = .error Fault.wrongType := by
        rw [attempt_of_found leads, refusal_of_unnameable genuine unnameable]
        rfl
      cases ownFailures _ failed

theorem on_loadPath (world : World) :
    (loadPath modules registry path).on manager world =
      match attempt modules registry manager path with
      | .error fault => ((.error fault, manager), world)
      | .ok (id, later) => ((.ok id, later), { world with log := world.log ++
        [⟨.info, source, "Loaded plugin '" ++ (nameOf registry id).displayed ++ "'"⟩] }) := by
  unfold loadPath
  cases found : findMember modules path with
  | error fault => rw [attempt_of_missing found, Managed.on_throw]
  | ok id =>
    rw [attempt_of_found (findMember_eq_ok.mp found)]
    simp only [Managed.on_bind, on_load]
    cases manager.accept registry id <;> rfl

/-! ### All paths -/

/-- Loading ends at the first failure that is none of plugins; what is contained costs a warning. -/
theorem on_loadPaths_cons (rest : List String) (world : World) :
    (loadPaths modules registry (path :: rest)).on manager world =
      match attempt modules registry manager path with
      | .error fault =>
        if fault.kind = .plugin then
          (loadPaths modules registry rest).on manager
            { world with log := world.log ++ [skipping (path, fault)] }
        else ((.error fault, manager), world)
      | .ok (id, later) =>
        ((nameOf registry id :: ·) <$> loadPaths modules registry rest).on later { world with log := world.log ++
          [⟨.info, source, "Loaded plugin '" ++ (nameOf registry id).displayed ++ "'"⟩] } := by
  have stepped : ((Except.ok : Nat → Except Fault Nat) <$> loadPath modules registry path).on manager world =
      match attempt modules registry manager path with
      | .error fault => ((.error fault, manager), world)
      | .ok (id, later) => ((.ok (.ok id), later), { world with log := world.log ++
        [⟨.info, source, "Loaded plugin '" ++ (nameOf registry id).displayed ++ "'"⟩] }) := by
    rw [map_eq_pure_bind, Managed.on_bind, on_loadPath]
    cases attempt modules registry manager path <;> rfl
  rw [loadPaths, Managed.on_bind, Managed.on_tryCatch, stepped]
  cases attempt modules registry manager path with
  | error fault =>
    by_cases isPlugin : fault.kind = .plugin
    · simp only [isPlugin, ↓reduceIte, Managed.on_pure, Managed.on_bind, Managed.on_note]
      rfl
    · simp only [isPlugin, ↓reduceIte, Managed.on_throw]
  | ok found => simp only [map_eq_pure_bind]

/-- Handing in plugins, one after the other. -/
theorem on_loadAll_cons (id : Nat) (rest : List Nat) (world : World) :
    (loadAll registry (id :: rest)).on manager world =
      match manager.accept registry id with
      | .error fault =>
        if fault.kind = .plugin then
          (loadAll registry rest).on manager
            { world with log := world.log ++ [⟨.warning, source, "Skipping plugin: " ++ fault.message⟩] }
        else ((.error fault, manager), world)
      | .ok later =>
        ((nameOf registry id :: ·) <$> loadAll registry rest).on later { world with log := world.log ++
          [⟨.info, source, "Loaded plugin '" ++ (nameOf registry id).displayed ++ "'"⟩] } := by
  rw [loadAll, Managed.on_bind, Managed.on_tryCatch, Managed.on_bind, on_load]
  cases manager.accept registry id with
  | error fault =>
    by_cases isPlugin : fault.kind = .plugin
    · simp only [isPlugin, ↓reduceIte, Managed.on_pure, Managed.on_bind, Managed.on_note]
    · simp only [isPlugin, ↓reduceIte, Managed.on_throw]
  | ok later => simp only [Managed.on_pure, map_eq_pure_bind]

/-- What a path adds to the objects that are handed in: nothing that changes the manager if the path fails with a
complaint about plugins, and the plugin that it loads otherwise. -/
theorem on_loadAll_imported_cons (rest : List String) (world : World) :
    (∀ fault, attempt modules registry manager path = .error fault → fault.kind = .plugin →
      ∃ warned, (loadAll registry (imported modules (path :: rest))).on manager world =
        (loadAll registry (imported modules rest)).on manager warned) ∧
    ∀ id later, attempt modules registry manager path = .ok (id, later) →
      ∃ told, (loadAll registry (imported modules (path :: rest))).on manager world =
        ((nameOf registry id :: ·) <$> loadAll registry (imported modules rest)).on later told := by
  cases leads : object? modules path with
  | none =>
    have nothing : imported modules (path :: rest) = imported modules rest := List.filterMap_cons_none leads
    refine ⟨fun _ _ _ => ⟨world, by rw [nothing]⟩, fun id later tried => ?_⟩
    cases found : findMember modules path with
    | error fault => simp [attempt_of_missing found] at tried
    | ok other => simp [findMember_eq_ok.mp found] at leads
  | some id =>
    have first : imported modules (path :: rest) = id :: imported modules rest := List.filterMap_cons_some leads
    rw [attempt_of_found leads, first, on_loadAll_cons]
    cases manager.accept registry id with
    | error fault =>
      refine ⟨fun other same isPlugin => ?_, nofun⟩
      cases same
      exact ⟨_, if_pos isPlugin⟩
    | ok accepted =>
      refine ⟨nofun, fun other later same => ?_⟩
      cases same
      exact ⟨_, rfl⟩

/-- Where all failures are contained, loading by path comes to handing in the objects that the paths lead to. -/
theorem on_loadPaths_of_contained {paths : List String} (contained : ∀ path ∈ paths, Contained modules registry path)
    (world other : World) :
    ∃ names later after after', (loadPaths modules registry paths).on manager world = ((.ok names, later), after) ∧
      names = (loadedIn (verdicts modules registry paths manager)).map (nameOf registry) ∧
      warningsIn after.log =
        warningsIn world.log ++ (skippedIn (verdicts modules registry paths manager)).map skipping ∧
      (loadAll registry (imported modules paths)).on manager other = ((.ok names, later), after') := by
  induction paths generalizing manager world other with
  | nil => exact ⟨[], manager, world, other, rfl, rfl, (List.append_nil _).symm, rfl⟩
  | cons path rest ih =>
    have containedRest : ∀ path ∈ rest, Contained modules registry path := fun path member =>
      contained path (List.mem_cons_of_mem _ member)
    have ownFailures := (contained_iff manager).mp (contained path List.mem_cons_self)
    obtain ⟨onFailure, onSuccess⟩ := @on_loadAll_imported_cons modules registry manager path rest other
    rw [on_loadPaths_cons, verdicts]
    cases tried : attempt modules registry manager path with
    | error fault =>
      have isPlugin := ownFailures fault tried
      obtain ⟨warned, together⟩ := onFailure fault tried isPlugin
      obtain ⟨names, later, after, after', done, named, warnings, handedIn⟩ := @ih manager containedRest
        { world with log := world.log ++ [skipping (path, fault)] } warned
      refine ⟨names, later, after, after', ?_, named, ?_, by rw [together, handedIn]⟩
      · simp only [isPlugin, ↓reduceIte, done]
      · rw [warnings]
        simp [warningsIn, skippedIn, skipping]
    | ok found =>
      obtain ⟨id, accepted⟩ := found
      obtain ⟨told, together⟩ := onSuccess id accepted tried
      obtain ⟨names, later, after, after', done, named, warnings, handedIn⟩ := @ih accepted containedRest
        { world with log := world.log ++
          [⟨.info, source, "Loaded plugin '" ++ (nameOf registry id).displayed ++ "'"⟩] } told
      refine ⟨nameOf registry id :: names, later, after, after', ?_, ?_, ?_, ?_⟩
      · simp only [map_eq_pure_bind, Managed.on_bind, done, Managed.on_pure]
      · rw [named]
        simp [loadedIn, Except.toOption]
      · rw [warnings]
        simp [warningsIn, skippedIn]
      · rw [together]
        simp only [map_eq_pure_bind, Managed.on_bind, handedIn, Managed.on_pure]

/-- Where loading by path comes to its end, all failures were contained. -/
theorem contained_of_on_loadPaths {paths : List String} {world after : World} {names : List Value} {later : Manager}
    (done : (loadPaths modules registry paths).on manager world = ((.ok names, later), after)) :
    ∀ path ∈ paths, Contained modules registry path := by
  induction paths generalizing manager world names with
  | nil => exact nofun
  | cons first rest ih =>
    rw [on_loadPaths_cons] at done
    cases tried : attempt modules registry manager first with
    | error fault =>
      simp only [tried] at done
      split at done
      · rename_i isPlugin
        have here : Contained modules registry first := (contained_iff manager).mpr fun other same => by
          rw [← Except.error.inj (tried.symm.trans same), isPlugin]
        exact List.forall_mem_cons.mpr ⟨here, ih done⟩
      · cases done
    | ok found =>
      have here : Contained modules registry first := (contained_iff manager).mpr fun other same => by
        rw [tried] at same
        cases same
      simp only [tried, map_eq_pure_bind, Managed.on_bind] at done
      split at done
      · rename_i behind
        cases done
        exact List.forall_mem_cons.mpr ⟨here, ih behind⟩
      · cases done

/-- Loading by path keeps all failures to itself exactly if every import that fails does so as an import or with a
complaint about plugins, and the genuine plugins that are found have names that can be looked up. -/
theorem quarantined_iff (modules : Modules) (registry : Registry) (paths : List String) (manager : Manager)
    (world : World) :
    Quarantined modules registry paths manager world ↔ ∀ path ∈ paths, Contained modules registry path := by
  constructor
  · rintro ⟨names, later, after, done, -⟩
    exact contained_of_on_loadPaths done
  · intro contained
    obtain ⟨names, later, after, after', done, named, warnings, handedIn⟩ :=
      @on_loadPaths_of_contained modules registry manager paths contained world world
    exact ⟨names, later, after, done, named, warnings, after', handedIn⟩

end

/-- An empty path and a relative one are no failures to import, and neither is what a module raises: each of them gets
out, and the paths behind are not tried. -/
theorem stray_import_escapes :
    (¬ ∀ (modules : Modules) (registry : Registry) (paths : List String) (manager : Manager) (world : World),
      Quarantined modules registry paths manager world) ∧
    ((loadPaths [] {} [""]).on {} {}).1.1 = .error (.raised .badValue "Empty module name") ∧
    ((loadPaths [] {} [".plugins:a"]).on {} {}).1.1 = .error (.raised .wrongType
      "the 'package' argument is required to perform a relative import for '.plugins'") ∧
    ((loadPaths [("broken", .error (.raised .badValue "no"))] {} ["broken"]).on {} {}).1.1 =
      .error (.raised .badValue "no") := by
  have empty : ((loadPaths [] {} [""]).on {} {}).1.1 = .error (.raised .badValue "Empty module name") := rfl
  refine ⟨?_, empty, rfl, rfl⟩
  intro always
  obtain ⟨names, later, after, done, -⟩ := always [] {} [""] {} {}
  rw [done] at empty
  cases empty

end ClientGen.Manager
