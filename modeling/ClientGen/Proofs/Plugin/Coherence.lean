import ClientGen.Proofs.Running
import ClientGen.Proofs.Sameness
import Mathlib.Data.List.Basic
import Mathlib.Data.List.Pairwise

/-!
The list of plugins to call and the plugins that are listed as enabled. A run of the operations of one
manager is accompanied by a history that says what has become of the plugins handed in: which of them
were accepted, in order, and which of them a validator has rejected since. The listed plugins always agree
with the history (`Coherent`). So does the list of plugins to call, unless it was made before a
validation that rejected a plugin and then failed: only a validation that comes to its end gives up the
list (`runner_matches_history_iff`).
-/

namespace ClientGen.Manager

/-- An operation on a manager. -/
inductive Step where
  | load (id : Nat)
  | loadAll (ids : List Nat)
  | validate (settings : Settings)
  | hookRunner

/-- The report that a plugin has rejected the settings. -/
def rejection (name : Value) : LogRecord :=
  ⟨.warning, source, "Plugin '" ++ name.displayed ++ "' rejected the supplied options and is disabled"⟩

/-- The world with one more report. -/
def reporting (world : World) (record : LogRecord) : World := { world with log := world.log ++ [record] }

/-- The manager with more disabled names. -/
def disabling (manager : Manager) (names : List Value) : Manager :=
  { manager with disabled := manager.disabled ++ names }

/-- What the validators of plugins say when one after the other is asked. A failure is the last answer;
plugins without options are not asked. -/
def answers (registry : Registry) (settings : Settings) : List Nat → World → List (Nat × Except Fault Bool)
  | [], _ => []
  | id :: rest, world =>
    match (registry.plugin? id).bind (·.options) with
    | none => answers registry settings rest world
    | some options =>
      match (options.accepts settings).on world with
      | (.ok true, world) => (id, .ok true) :: answers registry settings rest world
      | (.ok false, world) =>
        (id, .ok false) :: answers registry settings rest (reporting world (rejection (nameOf registry id)))
      | (.error fault, _) => [(id, .error fault)]

/-- The plugins that reject the settings. -/
def rejectedIn : List (Nat × Except Fault Bool) → List Nat
  | [] => []
  | (id, .ok false) :: rest => id :: rejectedIn rest
  | _ :: rest => rejectedIn rest

/-- Whether a validator fails. -/
def failedIn : List (Nat × Except Fault Bool) → Bool
  | [] => false
  | (_, .error _) :: _ => true
  | _ :: rest => failedIn rest

/-- What has become of the plugins that were handed in. -/
structure History where
  /-- The plugins that were accepted, in order. -/
  accepted : List Nat := []
  /-- The plugins that a validator has rejected. -/
  rejected : List Nat := []
  /-- Whether a list of plugins to call has been handed out and not been given up since. -/
  kept : Bool := false
  /-- Whether a plugin was rejected since then, by a validation that failed afterwards. -/
  spoiled : Bool := false

namespace History

/-- The plugins that were accepted and not rejected. -/
def active (history : History) : List Nat := history.accepted.filter (· ∉ history.rejected)

/-- The history after plugins were handed in. What is refused leaves no trace, and what fails in another
way is the last. -/
def afterLoads (registry : Registry) : List Nat → Manager → History → History
  | [], _, history => history
  | id :: rest, manager, history =>
    match manager.accept registry id with
    | .ok manager =>
      afterLoads registry rest manager
        { history with accepted := history.accepted ++ [id], kept := false, spoiled := false }
    | .error fault => if fault.kind = .plugin then afterLoads registry rest manager history else history

/-- The history after the answers of validators. -/
def afterAnswers (history : History) (said : List (Nat × Except Fault Bool)) : History :=
  if rejectedIn said = [] then history
  else if failedIn said then
    { history with rejected := history.rejected ++ rejectedIn said, spoiled := history.kept }
  else { history with rejected := history.rejected ++ rejectedIn said, kept := false, spoiled := false }

end History

/-- A manager in use, with its history. -/
structure Course where
  manager : Manager := {}
  world : World := {}
  history : History := {}

namespace Course

/-- The course after a step, whether it fails or not. -/
def managed {α : Type} (course : Course) (step : Managed α) (history : History) : Course :=
  let ((_, manager), world) := step.on course.manager course.world
  ⟨manager, world, history⟩

/-- The course after one more operation. -/
def after (registry : Registry) (course : Course) : Step → Course
  | .load id =>
    course.managed (load registry id) (course.history.afterLoads registry [id] course.manager)
  | .loadAll ids =>
    course.managed (loadAll registry ids) (course.history.afterLoads registry ids course.manager)
  | .validate settings =>
    course.managed (validate registry settings)
      (course.history.afterAnswers (answers registry settings course.history.active course.world))
  | .hookRunner =>
    { course with manager := course.manager.hookRunner.2, history := { course.history with kept := true } }

/-- The course of several operations on a new manager. -/
def run (registry : Registry) (world : World) (steps : List Step) : Course :=
  steps.foldl (after registry) { world }

end Course

/-- A plugin as it stands among the loaded ones. -/
def entryOf (registry : Registry) (id : Nat) : Loaded := ⟨nameOf registry id, id⟩

/-- Plugins under names that are not the same from either side. -/
def Apart (registry : Registry) (a b : Nat) : Prop :=
  (nameOf registry a).same (nameOf registry b) = false ∧ (nameOf registry b).same (nameOf registry a) = false

/-- A list of plugins to call has those that were active at some time since the last load. What was rejected since
is missing from it exactly if the history is not spoiled. -/
def Remembered (history : History) (runner : HookRunner) : Prop :=
  ∃ known : List Nat, runner.members = history.accepted.filter (· ∉ known) ∧
    (∀ id ∈ known, id ∈ history.rejected) ∧ (history.spoiled = false ↔ ∀ id ∈ history.rejected, id ∈ known)

/-- What a validation yields by the answers of validators: a failure, or the names of the plugins that reject the
settings. -/
def Told (registry : Registry) (said : List (Nat × Except Fault Bool)) : Except Fault (List Value) → Prop
  | .ok names => failedIn said = false ∧ names = (rejectedIn said).map (nameOf registry)
  | .error _ => failedIn said = true

/-- A manager agrees with a history. -/
structure Coherent (registry : Registry) (manager : Manager) (history : History) : Prop where
  loaded : manager.loaded = history.accepted.map (entryOf registry)
  genuine : ∀ id ∈ history.accepted, registry.isGenuine id = true
  keys : ∀ id ∈ history.accepted, (nameOf registry id).isKey = true
  apart : history.accepted.Pairwise (Apart registry)
  disabled : manager.disabled = history.rejected.map (nameOf registry)
  rejected : ∀ id ∈ history.rejected, id ∈ history.accepted
  kept : history.kept = manager.runner.isSome
  spoiled : history.spoiled = true → history.kept = true
  runner : ∀ runner, manager.runner = some runner → Remembered history runner

section

variable {registry : Registry} {manager : Manager} {history : History}

theorem coherent_new : Coherent registry {} {} where
  loaded := rfl
  genuine := nofun
  keys := nofun
  apart := .nil
  disabled := rfl
  rejected := nofun
  kept := rfl
  spoiled := nofun
  runner := nofun

/-- What a manager that accepts a plugin has found, and what it has become. -/
theorem accept_ok {id : Nat} {later : Manager} (accepted : manager.accept registry id = .ok later) :
    registry.isGenuine id = true ∧ (nameOf registry id).isKey = true ∧
      manager.has (nameOf registry id) = false ∧ later.loaded = manager.loaded ++ [entryOf registry id] ∧
      later.disabled = manager.disabled ∧ later.runner = none := by
  unfold accept at accepted
  cases found : registry.genuine? id with
  | none => simp [found] at accepted
  | some plugin =>
    have genuine : registry.isGenuine id = true ∧ registry.plugin? id = some plugin := by
      simpa [Registry.genuine?] using found
    have name : nameOf registry id = plugin.name := by simp [nameOf, genuine.2]
    simp only [found] at accepted
    split at accepted
    · cases accepted
    · rename_i isKey
      split at accepted
      · cases accepted
      · rename_i free
        split at accepted
        · cases accepted
        · cases accepted
          rw [entryOf, name]
          exact ⟨genuine.1, by simpa using isKey, by simpa using free, rfl, rfl, rfl⟩

/-- An accepted plugin is apart from those that were accepted before. -/
private theorem apart_of_free (coherent : Coherent registry manager history) {id : Nat}
    (isKey : (nameOf registry id).isKey = true) (free : manager.has (nameOf registry id) = false) :
    ∀ earlier ∈ history.accepted, Apart registry earlier id := by
  intro earlier member
  have different : (nameOf registry earlier).same (nameOf registry id) = false := by
    rw [has, coherent.loaded, List.any_map, List.any_eq_false] at free
    simpa [entryOf] using free earlier member
  refine ⟨different, ?_⟩
  rw [Value.same_comm_of_isKey _ _ isKey (coherent.keys earlier member), different]

theorem coherent_accepted (coherent : Coherent registry manager history) {id : Nat} {later : Manager}
    (accepted : manager.accept registry id = .ok later) :
    Coherent registry later { history with accepted := history.accepted ++ [id], kept := false, spoiled := false } := by
  obtain ⟨genuine, isKey, free, loaded, disabled, runner⟩ := accept_ok accepted
  constructor
  · simp [loaded, coherent.loaded]
  · simpa [or_imp, forall_and] using ⟨coherent.genuine, genuine⟩
  · simpa [or_imp, forall_and] using ⟨coherent.keys, isKey⟩
  · refine List.pairwise_append.mpr ⟨coherent.apart, List.pairwise_singleton _ _, ?_⟩
    intro earlier member later isLast
    rw [List.mem_singleton.mp isLast]
    exact apart_of_free coherent isKey free earlier member
  · rw [disabled, coherent.disabled]
  · exact fun other member => List.mem_append_left _ (coherent.rejected other member)
  · simp [runner]
  · exact nofun
  · simp [runner]

theorem on_load (id : Nat) (world : World) :
    (load registry id).on manager world =
      match manager.accept registry id with
      | .error fault => ((.error fault, manager), world)
      | .ok later => ((.ok (), later), { world with log := world.log ++
        [⟨.info, source, "Loaded plugin '" ++ (nameOf registry id).displayed ++ "'"⟩] }) := by
  simp only [load, Managed.on_bind, Managed.on_get]
  cases manager.accept registry id with
  | error fault => rfl
  | ok later => simp [Managed.on_bind]

theorem coherent_load (id : Nat) (world : World) (coherent : Coherent registry manager history) :
    Coherent registry ((load registry id).on manager world).1.2 (history.afterLoads registry [id] manager) := by
  rw [on_load]
  simp only [History.afterLoads]
  cases accepted : manager.accept registry id with
  | error fault => simpa using coherent
  | ok later => exact coherent_accepted coherent accepted

/-- What plugins are handed in to leaves the manager in agreement with the history. -/
theorem coherent_loadAll (ids : List Nat) (world : World) (coherent : Coherent registry manager history) :
    Coherent registry ((loadAll registry ids).on manager world).1.2 (history.afterLoads registry ids manager) := by
  induction ids generalizing manager history world with
  | nil => exact coherent
  | cons id rest ih =>
    simp only [loadAll, Managed.on_bind, Managed.on_tryCatch, on_load, History.afterLoads]
    cases accepted : manager.accept registry id with
    | error fault =>
      by_cases isPlugin : fault.kind = .plugin
      · simp only [isPlugin, ↓reduceIte, Managed.on_pure, Managed.on_bind, Managed.on_note]
        exact ih _ coherent
      · simpa [isPlugin] using coherent
    | ok later =>
      simp only [Managed.on_pure, Managed.on_bind]
      have others := ih { world with log := world.log ++
        [⟨.info, source, "Loaded plugin '" ++ (nameOf registry id).displayed ++ "'"⟩] }
        (coherent_accepted coherent accepted)
      split
      · rename_i done
        rwa [done] at others
      · rename_i done
        rwa [done] at others

/-- A plugin is disabled under its name exactly if it was rejected. -/
theorem isDisabled_iff (coherent : Coherent registry manager history) {id : Nat} (accepted : id ∈ history.accepted) :
    manager.isDisabled (nameOf registry id) = true ↔ id ∈ history.rejected := by
  rw [isDisabled, coherent.disabled, List.any_map, List.any_eq_true]
  constructor
  · rintro ⟨other, rejected, same⟩
    by_cases equal : id = other
    · rwa [equal]
    · have symmetric : Std.Symm (Apart registry) := ⟨fun _ _ apart => ⟨apart.2, apart.1⟩⟩
      have apart := coherent.apart.forall accepted (coherent.rejected other rejected) equal
      simp [apart.1] at same
  · intro rejected
    exact ⟨id, rejected, Value.same_refl_of_isKey _ (coherent.keys id accepted)⟩

private theorem rejectedIn_subset (settings : Settings) (ids : List Nat) (world : World) :
    ∀ id ∈ rejectedIn (answers registry settings ids world), id ∈ ids := by
  induction ids generalizing world with
  | nil => simp [answers, rejectedIn]
  | cons first rest ih =>
    have later : ∀ world, ∀ id ∈ rejectedIn (answers registry settings rest world), id ∈ first :: rest :=
      fun world id member => List.mem_cons_of_mem _ (ih world id member)
    unfold answers
    split
    · exact later world
    · split
      · exact later _
      · rintro id (_ | ⟨_, member⟩)
        · exact List.mem_cons_self
        · exact later _ id member
      · simp [rejectedIn]

theorem on_ask (name : Value) (options : PluginOptions) (settings : Settings) (world : World) :
    (ask name options settings).on world =
      match (options.accepts settings).on world with
      | (.ok accepted, later) => (.ok accepted, later)
      | (.error fault, later) => (.error (.plugin (.validatorFailed name.displayed fault.message)), later) := by
  simp only [ask, Run.on_tryCatch, Run.on_throw]
  rcases (options.accepts settings).on world with ⟨fault | accepted, later⟩ <;> rfl

/-- Who is to be asked after one plugin was disabled, if the names of the others are apart from its name. -/
private theorem asked_after_rejection {id : Nat} {rest : List Nat} (first : ∀ other ∈ rest, Apart registry id other)
    (manager : Manager) :
    (rest.filter fun other => !(manager.disabling [nameOf registry id]).isDisabled (nameOf registry other)) =
      rest.filter fun other => !manager.isDisabled (nameOf registry other) := by
  refine List.filter_congr fun other member => ?_
  simp [isDisabled, disabling, (first other member).2]

private theorem on_askAll_rejected {id : Nat} {rest : List Loaded} {settings : Settings} {options : PluginOptions}
    (stated : (registry.plugin? id).bind (·.options) = some options) {world later : World}
    (enabled : manager.isDisabled (nameOf registry id) = false)
    (rejects : (options.accepts settings).on world = (.ok false, later)) {outcome : Except Fault (List Value)}
    {last : Manager} {final : World}
    (done : (askAll registry settings rest).on (manager.disabling [nameOf registry id])
      (reporting later (rejection (nameOf registry id))) = ((outcome, last), final)) :
    (askAll registry settings (entryOf registry id :: rest)).on manager world =
      (((nameOf registry id :: ·) <$> outcome, last), final) := by
  have asked : (ask (nameOf registry id) options settings).on world = (.ok false, later) := by
    rw [on_ask, rejects]
  simp only [askAll, entryOf, stated, Managed.on_bind, Managed.on_get, enabled, Bool.false_eq_true, ↓reduceIte,
    Managed.on_ofRun, asked, Managed.on_note, Managed.on_modify]
  rw [disabling, reporting, rejection] at done
  rw [done]
  cases outcome <;> rfl

/-- Asking plugins one after the other disables those that reject the settings, and fails if a validator
does. -/
theorem on_askAll (settings : Settings) {ids : List Nat} (apart : ids.Pairwise (Apart registry)) (manager : Manager)
    (world : World) :
    let said := answers registry settings (ids.filter fun id => !manager.isDisabled (nameOf registry id)) world
    ∃ outcome later, (askAll registry settings (ids.map (entryOf registry))).on manager world =
        ((outcome, manager.disabling ((rejectedIn said).map (nameOf registry))), later) ∧
      Told registry said outcome := by
  induction ids generalizing manager world with
  | nil => exact ⟨.ok [], world, by simp [askAll, answers, rejectedIn, disabling], rfl, rfl⟩
  | cons id rest ih =>
    obtain ⟨first, apartRest⟩ := List.pairwise_cons.mp apart
    rw [List.map_cons]
    cases stated : (registry.plugin? id).bind (·.options) with
    | none =>
      have skipped : answers registry settings
          ((id :: rest).filter fun id => !manager.isDisabled (nameOf registry id)) world =
          answers registry settings (rest.filter fun id => !manager.isDisabled (nameOf registry id)) world := by
        by_cases disabled : manager.isDisabled (nameOf registry id) = true
        · simp [disabled]
        · simp [disabled, answers, stated]
      rw [skipped]
      simp only [askAll, entryOf, stated]
      exact ih apartRest manager world
    | some options =>
      by_cases disabled : manager.isDisabled (nameOf registry id) = true
      · simp only [askAll, entryOf, stated, Managed.on_bind, Managed.on_get, disabled, ↓reduceIte, Bool.not_true,
          Bool.false_eq_true, not_false_eq_true, List.filter_cons_of_neg]
        exact ih apartRest manager world
      · have enabled : manager.isDisabled (nameOf registry id) = false := by simpa using disabled
        have asked : (id :: rest).filter (fun id => !manager.isDisabled (nameOf registry id)) =
            id :: rest.filter fun id => !manager.isDisabled (nameOf registry id) :=
          List.filter_cons_of_pos (by simpa using disabled)
        rw [asked]
        simp only [answers, stated]
        rcases said : (options.accepts settings).on world with ⟨fault | accepted, later⟩
        · refine ⟨.error (.plugin (.validatorFailed (nameOf registry id).displayed fault.message)), later, ?_, rfl⟩
          simp [askAll, entryOf, stated, Managed.on_bind, enabled, on_ask, said, rejectedIn, disabling]
        · cases accepted with
          | true =>
            simp only [askAll, entryOf, stated, Managed.on_bind, Managed.on_get, enabled, Bool.false_eq_true,
              ↓reduceIte, Managed.on_ofRun, on_ask, said]
            exact ih apartRest manager later
          | false =>
            obtain ⟨outcome, last, done, result⟩ := ih apartRest (manager.disabling [nameOf registry id])
              (reporting later (rejection (nameOf registry id)))
            rw [asked_after_rejection first] at done result
            rw [on_askAll_rejected stated enabled said done]
            refine ⟨(nameOf registry id :: ·) <$> outcome, last, by simp [rejectedIn, disabling], ?_⟩
            cases outcome with
            | error fault => exact result
            | ok names => exact ⟨result.1, congrArg _ result.2⟩

/-- Who is asked for an answer: the plugins that are active. -/
theorem asked_active (coherent : Coherent registry manager history) :
    (history.accepted.filter fun id => !manager.isDisabled (nameOf registry id)) = history.active := by
  refine List.filter_congr fun id member => ?_
  rw [Bool.eq_iff_iff, decide_eq_true_eq, ← isDisabled_iff coherent member]
  simp

theorem enabled_active (coherent : Coherent registry manager history) : manager.enabled = history.active := by
  rw [enabled, coherent.loaded, List.filter_map, List.map_map, ← asked_active coherent]
  exact List.map_id _

/-- More rejections are in agreement with a manager that disables the names of the plugins. -/
theorem coherent_disabling (coherent : Coherent registry manager history) {more : List Nat}
    (accepted : ∀ id ∈ more, id ∈ history.active) (rejects : more ≠ []) :
    Coherent registry (manager.disabling (more.map (nameOf registry)))
      { history with rejected := history.rejected ++ more, spoiled := history.kept } where
  loaded := coherent.loaded
  genuine := coherent.genuine
  keys := coherent.keys
  apart := coherent.apart
  disabled := by simp [disabling, coherent.disabled]
  rejected := by
    intro id member
    rcases List.mem_append.mp member with before | now
    · exact coherent.rejected id before
    · exact (List.mem_filter.mp (accepted id now)).1
  kept := coherent.kept
  spoiled := id
  runner := by
    intro runner kept
    replace kept : manager.runner = some runner := kept
    obtain ⟨known, members, before, -⟩ := coherent.runner runner kept
    refine ⟨known, members, fun id member => List.mem_append_left _ (before id member), ?_⟩
    obtain ⟨id, member⟩ := List.exists_mem_of_ne_nil _ rejects
    have unknown : id ∉ known := fun member' =>
      absurd (before id member') (by simpa using (List.mem_filter.mp (accepted id member)).2)
    have spoiled : history.kept = true := by rw [coherent.kept, kept, Option.isSome_some]
    simp only [spoiled, Bool.true_eq_false, List.mem_append, false_iff, not_forall]
    exact ⟨id, .inr member, unknown⟩

/-- A manager that gives up its list of plugins to call is in agreement with a history in which none is kept. -/
private theorem coherent_without_runner (coherent : Coherent registry manager history) :
    Coherent registry { manager with runner := none } { history with kept := false, spoiled := false } where
  loaded := coherent.loaded
  genuine := coherent.genuine
  keys := coherent.keys
  apart := coherent.apart
  disabled := coherent.disabled
  rejected := coherent.rejected
  kept := rfl
  spoiled := nofun
  runner := nofun

theorem coherent_validate (settings : Settings) (world : World) (coherent : Coherent registry manager history) :
    Coherent registry ((validate registry settings).on manager world).1.2
      (history.afterAnswers (answers registry settings history.active world)) := by
  obtain ⟨outcome, later, done, result⟩ := on_askAll settings coherent.apart manager world
  have active := @rejectedIn_subset registry settings history.active world
  rw [asked_active coherent] at done result
  rw [← coherent.loaded] at done
  simp only [validate, Managed.on_bind, Managed.on_get, done, History.afterAnswers]
  generalize answers registry settings history.active world = said at done result active ⊢
  by_cases rejects : rejectedIn said = []
  · have unchanged : manager.disabling ([].map (nameOf registry)) = manager := by simp [disabling]
    rw [if_pos rejects, rejects, unchanged]
    cases outcome with
    | error fault => exact coherent
    | ok names =>
      obtain ⟨-, rfl⟩ := result
      simpa [rejects] using coherent
  · have disabled := coherent_disabling coherent active rejects
    rw [if_neg rejects]
    cases outcome with
    | error fault =>
      have failed : failedIn said = true := result
      rw [if_pos failed]
      exact disabled
    | ok names =>
      obtain ⟨complete, rfl⟩ := result
      have givesUp : (!((rejectedIn said).map (nameOf registry)).isEmpty) = true := by simpa using rejects
      simp only [complete, Bool.false_eq_true, ↓reduceIte, givesUp, Managed.on_bind, Managed.on_modify, Managed.on_pure]
      exact coherent_without_runner disabled

/-- The list of plugins to call, be it kept or new, is one that was active at some time since the last load. -/
theorem remembered_hookRunner (coherent : Coherent registry manager history) :
    Remembered history manager.hookRunner.1 := by
  unfold hookRunner
  cases kept : manager.runner with
  | some runner => exact coherent.runner runner kept
  | none =>
    have fresh : history.spoiled = false := by
      by_contra spoiled
      have := coherent.spoiled (by simpa using spoiled)
      simp [coherent.kept, kept] at this
    refine ⟨history.rejected, enabled_active coherent, fun id member => member, ?_⟩
    exact ⟨fun _ id member => member, fun _ => fresh⟩

theorem coherent_hookRunner (coherent : Coherent registry manager history) :
    Coherent registry manager.hookRunner.2 { history with kept := true } := by
  have remembered := remembered_hookRunner coherent
  unfold hookRunner at remembered ⊢
  cases kept : manager.runner with
  | some runner =>
    exact { coherent with kept := by simp [kept], spoiled := fun _ => rfl }
  | none =>
    simp only [kept] at remembered
    exact { coherent with
      kept := rfl
      spoiled := fun _ => rfl
      runner := fun runner made => Option.some.inj made ▸ remembered }

/-- Every operation keeps the manager in agreement with the history. -/
theorem coherent_after {course : Course} (coherent : Coherent registry course.manager course.history) (step : Step) :
    Coherent registry (course.after registry step).manager (course.after registry step).history := by
  cases step with
  | load id => exact coherent_load id course.world coherent
  | loadAll ids => exact coherent_loadAll ids course.world coherent
  | validate settings => exact coherent_validate settings course.world coherent
  | hookRunner => exact coherent_hookRunner coherent

theorem coherent_run (registry : Registry) (world : World) (steps : List Step) :
    Coherent registry (Course.run registry world steps).manager (Course.run registry world steps).history := by
  have all : ∀ course : Course, Coherent registry course.manager course.history →
      Coherent registry (steps.foldl (Course.after registry) course).manager
        (steps.foldl (Course.after registry) course).history := by
    induction steps with
    | nil => exact fun _ coherent => coherent
    | cons step rest ih => exact fun course coherent => ih _ (coherent_after coherent step)
  exact all _ coherent_new

theorem entries_of_coherent (coherent : Coherent registry manager history) :
    (manager.entries registry).map (fun entry => (entry.name, entry.enabled)) =
      history.accepted.map fun id => (nameOf registry id, decide (id ∉ history.rejected)) := by
  have present : ∀ id ∈ history.accepted, ∃ plugin, registry.plugin? id = some plugin := by
    intro id accepted
    have genuine := coherent.genuine id accepted
    rw [Registry.isGenuine, Bool.and_eq_true] at genuine
    exact Option.isSome_iff_exists.mp genuine.1
  have listed : manager.plugins registry =
      history.accepted.filterMap fun id => (registry.plugin? id).map fun plugin => (nameOf registry id, plugin) := by
    rw [plugins, coherent.loaded, List.filterMap_map]
    rfl
  rw [entries, listed, List.map_map, List.map_filterMap, List.filterMap_eq_map_iff_forall_eq_some]
  intro id accepted
  obtain ⟨plugin, found⟩ := present id accepted
  have flag := isDisabled_iff coherent accepted
  by_cases rejected : id ∈ history.rejected
  · simp [found, rejected, flag.mpr rejected]
  · have enabled : manager.isDisabled (nameOf registry id) = false := by simpa [rejected] using flag
    simp [found, rejected, enabled]

/-- The list of plugins to call consists of plugins that were accepted, in the order in which they were
accepted, and it is the list of those that were not rejected exactly if it was not made before a validation
that rejected a plugin and failed afterwards. The flags of the listed plugins are right in any case. -/
theorem runner_matches_history_iff (registry : Registry) (world : World) (steps : List Step) :
    let course := Course.run registry world steps
    let runner := course.manager.hookRunner.1
    (course.manager.entries registry).map (fun entry => (entry.name, entry.enabled)) =
        course.history.accepted.map (fun id => (nameOf registry id, decide (id ∉ course.history.rejected))) ∧
      (∀ id ∈ runner.members, registry.isGenuine id = true) ∧
      runner.members.Sublist course.history.accepted ∧
      (runner.members = course.history.active ↔ course.history.spoiled = false) ∧
      ((∃ id ∈ runner.members, id ∈ course.history.rejected) ↔ course.history.spoiled = true) := by
  intro course runner
  have coherent : Coherent registry course.manager course.history := coherent_run registry world steps
  obtain ⟨known, members, before, fresh⟩ := remembered_hookRunner coherent
  have stale : (∃ id ∈ runner.members, id ∈ course.history.rejected) ↔ course.history.spoiled = true := by
    rw [← Bool.not_eq_false, fresh, not_forall]
    constructor
    · rintro ⟨id, member, rejected⟩
      rw [members, List.mem_filter, decide_eq_true_eq] at member
      exact ⟨id, fun known' => member.2 (known' rejected)⟩
    · rintro ⟨id, unknown⟩
      obtain ⟨rejected, unknown⟩ := Classical.not_imp.mp unknown
      refine ⟨id, ?_, rejected⟩
      rw [members, List.mem_filter, decide_eq_true_eq]
      exact ⟨coherent.rejected id rejected, unknown⟩
  refine ⟨entries_of_coherent coherent, ?_, ?_, ?_, stale⟩
  · intro id member
    rw [members] at member
    exact coherent.genuine id (List.mem_filter.mp member).1
  · rw [members]
    exact List.filter_sublist
  · constructor
    · intro equal
      by_contra spoiled
      obtain ⟨id, member, rejected⟩ := stale.mpr (by simpa using spoiled)
      rw [equal, History.active, List.mem_filter] at member
      simp [rejected] at member
    · intro spoiled
      rw [members, History.active]
      refine List.filter_congr fun id _ => ?_
      have same : id ∈ known ↔ id ∈ course.history.rejected := ⟨before id, fresh.mp spoiled id⟩
      simp [same]

end

/-- Two plugins: the validator of the first rejects every settings, that of the second fails. -/
def pickyAndBroken : Registry where
  objects := [
    (0, .plugin { name := .text "picky", options := some { validator := some fun _ => pure false } }),
    (1, .plugin { name := .text "broken", options := some { validator := some fun _ => throw .wrongType } })]
  marks := [(0, true), (1, true)]

/-- A list of plugins that was made before such a validation still has the plugin that was rejected. -/
theorem rejected_plugin_still_called :
    ¬ ∀ (registry : Registry) (world : World) (steps : List Step),
      (Course.run registry world steps).manager.hookRunner.1.members =
        (Course.run registry world steps).history.active := by
  intro always
  have stale := always pickyAndBroken {} [.load 0, .load 1, .hookRunner, .validate ⟨[]⟩]
  exact absurd stale (by decide)

end ClientGen.Manager
