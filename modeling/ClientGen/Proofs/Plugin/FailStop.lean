import ClientGen.Proofs.Plugin.Inertness

/-!
What becomes of a run when a plugin fails. A run goes from one callback to the next through steps of its own
(`Course`), and these steps leave alone what callbacks have done. The first callback that fails is the last thing
that is seen of a run: nobody is called any more, nothing is taken back, and the failure names the plugin and the
slot, unless it is the failure of a plugin already (`fail_stop`).
-/

namespace ClientGen

/-- Every container of a store is in a later one as it was. -/
def Store.IsWithin (before later : Store) : Prop :=
  ∀ (id : Nat) (layer : Shape Node), before.cells[id]? = some layer → later.cells[id]? = some layer

namespace Store.IsWithin

theorem refl (store : Store) : store.IsWithin store := fun _ _ found => found

theorem trans {first second third : Store} (before : first.IsWithin second) (after : second.IsWithin third) :
    first.IsWithin third := fun id layer found => after id layer (before id layer found)

theorem add (store : Store) (layer : Shape Node) : store.IsWithin (store.add layer).2 := by
  intro id other found
  obtain ⟨bound, -⟩ := Array.getElem?_eq_some_iff.mp found
  simpa [Store.add, Array.getElem?_push, Nat.ne_of_lt bound] using found

end Store.IsWithin

/-- The world that is left at a mark: that of a call is the one that the callback leaves. -/
def Mark.left (registry : Registry) (mark : Mark) : World :=
  match mark.sight with
  | .entered _ => mark.world
  | .called member call =>
    match registry.responder? call.occasion.checkpoint member with
    | some (_, callback) => ((callback call).on mark.world).2
    | none => mark.world

/-- The world at the first of some marks, or the last world of all. -/
def nextWorld (marks : List Mark) (final : World) : World := (marks.head?.map (·.world)).getD final

/-! ### From one callback to the next -/

/-- A relation between worlds that holds between the ends of what a run does by itself up to the writing of the
module: reports, work on the module, types that are laid out, and copies of schemas. -/
structure Passive (kept : World → World → Prop) : Prop where
  refl (world : World) : kept world world
  trans {first second third : World} (before : kept first second) (after : kept second third) : kept first third
  log (world : World) (records : List LogRecord) : kept world { world with log := records }
  draft (world : World) (draft : Draft) : kept world { world with draft }
  types (world : World) (types : Array Expr) : kept world { world with types }
  copy (world : World) (layer : Shape Node) : kept world { world with store := (world.store.add layer).2 }

/-- The course of a step. Between what is seen, the world changes only in ways that are kept; a call changes it as
the callback does. A callback that fails ends the step. -/
inductive Course (kept : World → World → Prop) (registry : Registry) :
    World → List Mark → Option Fault → World → Prop
  | still {world later : World} {failure : Option Fault} (between : kept world later) :
    Course kept registry world [] failure later
  | entered {world there later : World} {occasion : Occasion Node} {marks : List Mark} {failure : Option Fault}
    (between : kept world there) (rest : Course kept registry there marks failure later) :
    Course kept registry world (⟨.entered occasion, there⟩ :: marks) failure later
  | answered {world there left later : World} {member : Nat} {call : Call} {plugin : Plugin} {callback : Callback}
    {marks : List Mark} {failure : Option Fault} (between : kept world there)
    (fills : registry.responder? call.occasion.checkpoint member = some (plugin, callback))
    (done : (callback call).on there = (.ok (), left)) (rest : Course kept registry left marks failure later) :
    Course kept registry world (⟨.called member call, there⟩ :: marks) failure later
  | failed {world there left : World} {member : Nat} {call : Call} {plugin : Plugin} {callback : Callback}
    {fault : Fault} (between : kept world there)
    (fills : registry.responder? call.occasion.checkpoint member = some (plugin, callback))
    (failed : (callback call).on there = (.error fault, left)) :
    Course kept registry world [⟨.called member call, there⟩]
      (some (plugin.failureOf call.occasion.checkpoint fault)) left

/-- The failure of a step, if it failed. -/
def failure? {α : Type} : Except Fault α → Option Fault
  | .ok _ => none
  | .error fault => some fault

theorem failure?_eq_some {α : Type} {outcome : Except Fault α} {fault : Fault} :
    failure? outcome = some fault ↔ outcome = .error fault := by
  cases outcome with
  | ok _ => exact ⟨nofun, nofun⟩
  | error other => simp [failure?]

namespace Course

variable {kept : World → World → Prop} {registry : Registry} {world there later : World} {marks more : List Mark}
  {failure : Option Fault}

theorem after (passive : Passive kept) (between : kept world there)
    (course : Course kept registry there marks failure later) : Course kept registry world marks failure later := by
  cases course with
  | still first => exact .still (passive.trans between first)
  | entered first rest => exact .entered (passive.trans between first) rest
  | answered first fills done rest => exact .answered (passive.trans between first) fills done rest
  | failed first fills failed => exact .failed (passive.trans between first) fills failed

theorem append (passive : Passive kept) (first : Course kept registry world marks none there)
    (second : Course kept registry there more failure later) :
    Course kept registry world (marks ++ more) failure later := by
  generalize succeeds : none = success at first
  induction first with
  | still between => exact second.after passive between
  | entered between _ ih => exact .entered between (ih second succeeds)
  | answered between fills done _ ih => exact .answered between fills done (ih second succeeds)
  | failed => cases succeeds

/-- A call on the way is that of a genuine plugin. If its callback fails, nothing more is seen, and the step ends in
the world that the callback leaves. -/
theorem called {before after : List Mark} {mark : Mark} {member : Nat} {call : Call}
    (course : Course kept registry world (before ++ mark :: after) failure later)
    (isCall : mark.sight = .called member call) :
    ∃ plugin callback, registry.responder? call.occasion.checkpoint member = some (plugin, callback) ∧
      ∀ fault left, (callback call).on mark.world = (.error fault, left) →
        after = [] ∧ failure = some (plugin.failureOf call.occasion.checkpoint fault) ∧ later = left := by
  generalize all : before ++ mark :: after = marks at course
  induction course generalizing before with
  | still => simp at all
  | entered _ _ ih =>
    cases before with
    | nil =>
      cases all
      cases isCall
    | cons first before => exact ih (List.cons.inj all).2
  | answered _ fills done _ ih =>
    cases before with
    | nil =>
      cases all
      cases isCall
      refine ⟨_, _, fills, fun fault left failed => ?_⟩
      cases done.symm.trans failed
    | cons first before => exact ih (List.cons.inj all).2
  | failed _ fills failed =>
    cases before with
    | nil =>
      cases all
      cases isCall
      refine ⟨_, _, fills, fun fault left failed' => ?_⟩
      cases failed.symm.trans failed'
      exact ⟨rfl, rfl, rfl⟩
    | cons first before => simp at all

theorem nextWorld_kept (course : Course kept registry world marks failure later) :
    kept world (nextWorld marks later) := by
  cases course with
  | still between => exact between
  | entered between _ => exact between
  | answered between _ _ _ => exact between
  | failed between _ _ => exact between

/-- From one mark to the next everything is kept that was left at the first. -/
theorem left_kept (refl : ∀ world, kept world world) {before after : List Mark} {mark : Mark}
    (course : Course kept registry world (before ++ mark :: after) failure later) :
    kept (mark.left registry) (nextWorld after later) := by
  generalize all : before ++ mark :: after = marks at course
  induction course generalizing before with
  | still => simp at all
  | entered _ rest ih =>
    cases before with
    | nil =>
      cases all
      exact rest.nextWorld_kept
    | cons first before => exact ih (List.cons.inj all).2
  | answered _ fills done rest ih =>
    cases before with
    | nil =>
      cases all
      simp only [Mark.left, fills, done]
      exact rest.nextWorld_kept
    | cons first before => exact ih (List.cons.inj all).2
  | failed _ fills failed =>
    cases before with
    | nil =>
      cases all
      simp only [Mark.left, fills, failed]
      exact refl _
    | cons first before => simp at all

end Course

namespace Traced

variable {α β : Type} {kept : World → World → Prop}

/-- A step takes a course, whatever the crew and the world. -/
def Takes (kept : World → World → Prop) (step : Traced α) : Prop :=
  ∀ crew world, Course kept crew.registry world (step.on crew world).1.2 (failure? (step.on crew world).1.1)
    (step.on crew world).2

theorem takes_bind (passive : Passive kept) {step : Traced α} {next : α → Traced β} (first : Takes kept step)
    (rest : ∀ a, Takes kept (next a)) : Takes kept (step >>= next) := by
  intro crew world
  have begins := first crew world
  rw [on_bind]
  revert begins
  rcases step.on crew world with ⟨⟨fault | a, marks⟩, between⟩
  · exact id
  · exact fun begins => begins.append passive (rest a crew between)

/-- A step of which nothing is seen, and which leaves alone what is kept. -/
theorem takes_ofRun {step : Run α} (keeps : ∀ world, kept world (step.on world).2) : Takes kept (ofRun step) :=
  fun _ world => .still (keeps world)

theorem takes_respond (passive : Passive kept) (id : Nat) (call : Call) : Takes kept (respond id call) := by
  intro crew world
  rw [respond, on_bind, on_read]
  dsimp only
  cases fills : crew.registry.responder? call.occasion.checkpoint id with
  | none => exact .still (passive.refl world)
  | some responder =>
    obtain ⟨plugin, callback⟩ := responder
    simp only [on_bind, on_ofRun, on_mark, Plugin.reportCall, Run.on_note, Plugin.invoke, Run.on_tryCatch]
    rcases result : (callback call).on { world with log := world.log ++ _ } with ⟨fault | _, left⟩
    · exact .failed (passive.log world _) fills result
    · exact .answered (passive.log world _) fills result (.still (passive.refl left))

theorem takes_respondAll (passive : Passive kept) (members : List Nat) (call : Call) :
    Takes kept (respondAll members call) := by
  induction members with
  | nil => exact fun _ world => .still (passive.refl world)
  | cons id rest ih => exact takes_bind passive (takes_respond passive id call) fun _ => ih

theorem takes_announce (passive : Passive kept) (occasion : Occasion Node) : Takes kept (announce occasion) := by
  intro crew world
  rw [on_announce]
  exact .entered (passive.refl world) (takes_respondAll passive crew.members ⟨occasion, crew.document⟩ crew world)

/-- Everything that a module is made of takes its course. -/
theorem taking (passive : Passive kept) : Drafting Node Traced Traced fun step _ => Takes kept step := by
  constructor
  · constructor
    · exact fun _ _ world => .still (passive.refl world)
    · exact fun _ _ world => .still (passive.refl world)
    · exact fun first rest => takes_bind passive first rest
    · intro α β step _ f first
      rw [map_eq_bind]
      exact takes_bind passive first fun _ _ world => .still (passive.refl world)
    · exact fun _ => takes_ofRun fun world => passive.log world _
    · exact fun _ => takes_ofRun passive.refl
    · exact fun _ => takes_ofRun passive.refl
    · exact fun _ => takes_ofRun passive.refl
  · rintro α step ⟨result, drafting⟩
    refine takes_ofRun fun world => ?_
    show kept world (step.on world).2
    rw [drafting]
    exact passive.draft world _

theorem takes_retype (passive : Passive kept) (schema type : Node) : Takes kept (ofRun (Live.retype schema type)) := by
  refine takes_ofRun fun world => ?_
  rw [Live.retype, Run.on_bind, Run.on_get]
  dsimp only
  split
  · exact passive.copy world _
  · exact passive.refl world

theorem taking_announcing (passive : Passive kept) : Announcing Node Traced Traced fun step _ => Takes kept step where
  toAgreement := (taking passive).toAgreement
  of_retyped := takes_retype passive
  of_announced _ _ _ inside :=
    takes_bind passive (takes_announce passive _) fun _ => takes_bind passive inside fun _ =>
      takes_bind passive (takes_ofRun fun world => passive.types world _) fun _ =>
        takes_bind passive (takes_announce passive _) fun _ => takes_ofRun passive.refl

theorem taking_generating (passive : Passive kept) :
    Generating Node (fun step _ => Takes kept step) services services where
  toDrafting := taking passive
  of_announce := takes_announce passive
  of_typeOf name schema crew world := by
    rw [on_typeOf]
    exact (taking_announcing passive).of_convert crew.document SchemaType.liveDepth name schema crew world

theorem takes_prepare (passive : Passive kept) (document : Node) :
    Takes kept (Generation.prepare services document) := (taking_generating passive).of_prepare document

/-! ### Runs -/

/-- The document of a later world has everything of an earlier one as it was. -/
def KeepsDocument (before later : World) : Prop := before.store.IsWithin later.store

theorem passive_keepsDocument : Passive KeepsDocument where
  refl world := .refl world.store
  trans := .trans
  log world _ := .refl world.store
  draft world _ := .refl world.store
  types world _ := .refl world.store
  copy world layer := .add world.store layer

private theorem store_write (file : Value) (contents : String) (failures : Disk.WriteFailures) (world : World) :
    ((Generation.write file contents failures).on world).2.store = world.store := by
  unfold Generation.write
  split
  · split
    · rfl
    · rename_i name _
      rw [Run.on_bind, on_save]
      dsimp only
      cases (Disk.atomicWrite failures (world.disk.parsePath name) contents world.disk).1 with
      | none => rfl
      | some fault => rfl
  · rfl

/-- A run takes its course; it leaves the document alone. -/
theorem takes_generation (document : Node) (failures : Disk.WriteFailures) :
    Takes KeepsDocument (generation document failures) := by
  have passive := passive_keepsDocument
  rw [generation, Generation.run_eq]
  refine takes_bind passive (takes_prepare passive document) fun prepared => ?_
  refine takes_bind passive (takes_ofRun fun world => ?_) fun _ =>
    takes_bind passive (takes_announce passive _) fun _ _ world => .still (passive.refl world)
  have same := store_write prepared.1 prepared.2.contents failures world
  exact fun id layer found => same ▸ found

end Traced

namespace Plugin

variable (plugin : Plugin) (checkpoint : Checkpoint) {fault : Fault}

/-- The failure of a plugin is passed on as it is. -/
theorem failureOf_of_plugin (isPlugin : fault.kind = .plugin) : plugin.failureOf checkpoint fault = fault :=
  if_pos isPlugin

/-- The exit code for a failure of a plugin is ten, unless the plugin asks for another one. -/
theorem exitCode_of_plugin (isPlugin : fault.kind = .plugin) :
    fault.exitCode = 10 ∨ ∃ text code, fault = .raisedWith .plugin text (some code) := by
  cases fault with
  | raisedWith kind text code =>
    obtain rfl : kind = .plugin := isPlugin
    cases code with
    | none => exact .inl rfl
    | some code => exact .inr ⟨text, code, rfl⟩
  | plugin _ => exact .inl rfl
  | _ => cases isPlugin

/-- Any other failure becomes that of a plugin; its message names the plugin and the slot. -/
theorem failureOf_of_other (other : fault.kind ≠ .plugin) :
    (plugin.failureOf checkpoint fault).kind = .plugin ∧
      (plugin.failureOf checkpoint fault).message =
        "Plugin '" ++ plugin.label ++ "' failed in " ++ checkpoint.slot ++ ": " ++ fault.message ∧
      (plugin.failureOf checkpoint fault).exitCode = 10 := by
  rw [failureOf, if_neg other]
  exact ⟨rfl, rfl, rfl⟩

end Plugin

/-- Who is called, and at which checkpoint. -/
def Sight.caller? : Sight → Option (Nat × Checkpoint)
  | .entered _ => none
  | .called member call => some (member, call.occasion.checkpoint)

namespace Traced

/-- What a callback leaves is left alone by the run until the next thing is seen of it, and everybody who is called
is a genuine plugin that fills the slot. When a callback fails, nothing more is seen: nobody is called any more, and
no checkpoint is entered. The run ends with what the callback left, and its failure is that of the callback, if this
was the failure of a plugin; otherwise it names the plugin and the slot, and has the text of that of the callback. -/
theorem fail_stop (crew : Crew) (world : World) (failures : Disk.WriteFailures) :
    let result := (generation crew.document failures).on crew world
    (Generation.withPlugins crew.registry crew.members crew.document failures).on world = (result.1.1, result.2) ∧
    ∀ before mark after, result.1.2 = before ++ mark :: after →
      (mark.left crew.registry).store.IsWithin (nextWorld after result.2).store ∧
      ∀ member call, mark.sight = .called member call →
        ∃ plugin callback, crew.registry.responder? call.occasion.checkpoint member = some (plugin, callback) ∧
          ∀ fault left, (callback call).on mark.world = (.error fault, left) →
            after = [] ∧ result.2 = left ∧ ∃ reported, result.1.1 = .error reported ∧
              (fault.kind = .plugin → reported = fault ∧
                (reported.exitCode = 10 ∨ ∃ text code, fault = .raisedWith .plugin text (some code))) ∧
              (fault.kind ≠ .plugin → reported.kind = .plugin ∧
                reported.message = "Plugin '" ++ plugin.label ++ "' failed in " ++ call.occasion.checkpoint.slot ++
                  ": " ++ fault.message ∧
                reported.exitCode = 10) := by
  intro result
  refine ⟨on_withPlugins crew world failures, fun before mark after marks => ?_⟩
  have course : Course KeepsDocument crew.registry world result.1.2 (failure? result.1.1) result.2 :=
    takes_generation crew.document failures crew world
  rw [marks] at course
  refine ⟨course.left_kept fun world => .refl world.store, fun member call isCall => ?_⟩
  obtain ⟨plugin, callback, fills, fails⟩ := course.called isCall
  refine ⟨plugin, callback, fills, fun fault left failed => ?_⟩
  obtain ⟨last, ended, rfl⟩ := fails fault left failed
  refine ⟨last, rfl, plugin.failureOf call.occasion.checkpoint fault, failure?_eq_some.mp ended, fun isPlugin => ?_,
    plugin.failureOf_of_other _⟩
  rw [plugin.failureOf_of_plugin _ isPlugin]
  exact ⟨rfl, Plugin.exitCode_of_plugin isPlugin⟩

/-- A plugin that refuses every schema, as if the document could not be read. -/
def schemaRefuser : Plugin where
  name := .text "refuser"
  callbacks := [(.beforeSchema, fun _ => throw (.raised .specification "no schemas"))]

/-- The refuser behind and in front of plugins that note down their calls. -/
def refusingCrew (document : Node) : Crew where
  registry :=
    { objects := [(0, .plugin schemaWatcher), (1, .plugin schemaRefuser), (2, .plugin schemaWatcher)]
      marks := [(0, true), (1, true), (2, true)] }
  members := [0, 1, 2]
  document := document

theorem fail_stop_refusing :
    let crew := refusingCrew onePet.1
    let run := (Generation.withPlugins crew.registry crew.members crew.document Disk.noFailures).on onePet.2
    run.2.journal.map (·.slot) = [some Checkpoint.beforeSchema.slot] ∧
    ∃ reported, run.1 = .error reported ∧ reported.kind = .plugin ∧ reported.exitCode = 10 ∧
      reported.message = "Plugin 'refuser' failed in before_convert_schema: no schemas" := by
  intro crew run
  refine ⟨by decide +kernel, ?_⟩
  obtain ⟨isRun, marks⟩ := fail_stop crew onePet.2 Disk.noFailures
  have last : (((generation crew.document).on crew onePet.2).1.2.getLast?.bind (·.sight.caller?)) =
      some (1, .beforeSchema) := by decide +kernel
  obtain ⟨mark, isLast, isCall⟩ := Option.bind_eq_some_iff.mp last
  obtain ⟨before, all⟩ := List.getLast?_eq_some_iff.mp isLast
  obtain ⟨-, calls⟩ := marks before mark [] all
  cases sight : mark.sight with
  | entered _ => simp [sight, Sight.caller?] at isCall
  | called member call =>
    obtain ⟨rfl, isSchema⟩ : member = 1 ∧ call.occasion.checkpoint = .beforeSchema := by
      simpa [sight, Sight.caller?] using isCall
    obtain ⟨plugin, callback, fills, fails⟩ := calls 1 call sight
    rw [isSchema] at fills fails
    obtain ⟨rfl, rfl⟩ := Prod.mk.inj (Option.some.inj fills)
    obtain ⟨-, -, reported, ended, -, other⟩ := fails _ _ rfl
    obtain ⟨kind, message, code⟩ := other (by decide)
    exact ⟨reported, (congrArg Prod.fst isRun).trans ended, kind, code, message⟩

end Traced

end ClientGen
