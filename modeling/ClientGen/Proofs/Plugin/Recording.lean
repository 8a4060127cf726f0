import ClientGen.Proofs.Schema.LiveReading

/-!
Plugins that only record. Such a plugin adds an event to the journal at every call and does nothing else, so that what
stands in the store and among the types stays as it is (`Adds`). Where it is the only plugin of a run, every
announcement of a schema is one event (`Listens`).
-/

namespace ClientGen

/-- A callback adds an event to the journal at every call, and does nothing else. -/
def Records (record : World → Call → Event) (callback : Callback) : Prop :=
  ∀ (world : World) (call : Call),
    (callback call).on world = (.ok (), { world with journal := world.journal ++ [record world call] })

/-- The callback that records what a function makes of every call. -/
def recording (record : World → Call → Event) : Callback := fun call =>
  modify fun w => { w with journal := w.journal ++ [record w call] }

theorem records_recording (record : World → Call → Event) : Records record (recording record) := fun _ _ => rfl

/-- A run adds events to the journal; what is in the store and among the types stays. -/
structure Adds (before after : World) (events : List Event) : Prop where
  cells : ∀ (c : Nat) (l : Shape Node), before.store.cells[c]? = some l → after.store.cells[c]? = some l
  types : ∀ (id : Nat) (type : Expr), before.types[id]? = some type → after.types[id]? = some type
  journal : after.journal = before.journal ++ events

section

variable {before middle after world : World} {events more : List Event} {ps : List Placed}

theorem Adds.refl (world : World) : Adds world world [] := ⟨fun _ _ => id, fun _ _ => id, (List.append_nil _).symm⟩

theorem Adds.trans (first : Adds before middle events) (second : Adds middle after more) :
    Adds before after (events ++ more) where
  cells c l here := second.cells c l (first.cells c l here)
  types id type here := second.types id type (first.types id type here)
  journal := by rw [second.journal, first.journal, List.append_assoc]

/-- Trees of the store stay. -/
theorem Adds.holds (adds : Adds before after events) (holds : before.store.Holds ps) : after.store.Holds ps :=
  fun l inside => adds.cells l.1 l.2 (holds l inside)

theorem adds_note (world : World) (record : LogRecord) : Adds world { world with log := world.log ++ [record] } [] :=
  ⟨fun _ _ => id, fun _ _ => id, (List.append_nil _).symm⟩

theorem adds_event (world : World) (event : Event) :
    Adds world { world with journal := world.journal ++ [event] } [event] :=
  ⟨fun _ _ => id, fun _ _ => id, rfl⟩

/-- A type that is laid out for plugins is one more type. -/
theorem adds_type (world : World) (type : Expr) : Adds world { world with types := world.types.push type } [] where
  cells _ _ := id
  types id other here := by
    have old : id < world.types.size := (Array.getElem?_eq_some_iff.mp here).1
    rw [Array.getElem?_push, if_neg (by omega), here]
  journal := (List.append_nil _).symm

end

/-- Every announcement of a schema is one event, which is recorded in the world of the announcement. -/
structure Listens (record : World → Call → Event) (crew : Crew) : Prop where
  announce : ∀ (world : World) (occasion : Occasion Node),
    (occasion.checkpoint = .beforeSchema ∨ occasion.checkpoint = .afterSchema) →
    ∃ noted later, Adds world noted [] ∧ ((Live.announce occasion : Live Unit) crew).on world = (.ok (), later) ∧
      Adds noted later [record noted ⟨occasion, crew.document⟩]

/-- A genuine plugin that only records, by itself. -/
theorem listens_of_records {record : World → Call → Event} {crew : Crew} {member : Nat} {plugin : Plugin}
    {before after : Callback} (alone : crew.members = [member])
    (genuine : crew.registry.genuine? member = some plugin) (fillsBefore : plugin.callback? .beforeSchema = some before)
    (fillsAfter : plugin.callback? .afterSchema = some after) (recordsBefore : Records record before)
    (recordsAfter : Records record after) : Listens record crew where
  announce := by
    intro world occasion isSchema
    obtain ⟨callback, fills, records⟩ : ∃ callback, plugin.callback? occasion.checkpoint = some callback ∧
        Records record callback := by
      rcases isSchema with isBefore | isAfter
      · exact ⟨before, isBefore ▸ fillsBefore, recordsBefore⟩
      · exact ⟨after, isAfter ▸ fillsAfter, recordsAfter⟩
    have responder : crew.registry.responder? occasion.checkpoint member = some (plugin, callback) := by
      simp [Registry.responder?, genuine, fills]
    obtain ⟨noted, logged, noteAdds⟩ : ∃ noted, (plugin.reportCall occasion.checkpoint).on world = (.ok (), noted) ∧
        Adds world noted [] := ⟨_, Run.on_note world _, adds_note world _⟩
    refine ⟨noted, _, noteAdds, ?_, adds_event noted _⟩
    show (crew.registry.respondAll crew.members ⟨occasion, crew.document⟩).on world = _
    simp only [alone, Registry.respondAll, Registry.respond, responder, Run.on_bind, logged, Plugin.invoke,
      Run.on_tryCatch, records noted ⟨occasion, crew.document⟩, Run.on_pure]

section

variable {record : World → Call → Event} {crew : Crew} (listens : Listens record crew)

include listens

theorem Listens.enter (world : World) (schema : Node) :
    ∃ noted later, Adds world noted [] ∧ ((enter schema : Live Unit) crew).on world = (.ok (), later) ∧
      Adds noted later [record noted ⟨.beforeSchema schema, crew.document⟩] :=
  listens.announce world (.beforeSchema schema) (.inl rfl)

/-- After its conversion a type is shown where it stays, and is taken from there. -/
theorem Listens.leave (world : World) (schema : Node) (type : Expr) :
    ∃ noted later id, Adds world noted [] ∧ noted.types[id]? = some type ∧
      ((leave schema type : Live Expr) crew).on world = (.ok type, later) ∧
      Adds noted later [record noted ⟨.afterSchema schema id, crew.document⟩] := by
  let laid : World := { world with types := world.types.push type }
  have laidOut : ((Live.ofRun (Live.layOut type) : Live Nat) crew).on world = (.ok world.types.size, laid) := rfl
  obtain ⟨noted, later, quiet, announced, adds⟩ :=
    listens.announce laid (.afterSchema schema world.types.size) (.inr rfl)
  have shown : noted.types[world.types.size]? = some type := quiet.types _ _ Array.getElem?_push_size
  have takenBack : ((Live.ofRun (Live.takeBack world.types.size) : Live Expr) crew).on later = (.ok type, later) := by
    show (Live.takeBack world.types.size).on later = _
    simp only [Live.takeBack, Run.on_bind, Run.on_get, Run.on_pure, adds.types _ _ shown, Option.getD_some]
  refine ⟨noted, later, world.types.size, (adds_type world type).trans quiet, shown, ?_, adds⟩
  show ((Live.ofRun (Live.layOut type) >>= fun id =>
    Live.announce (.afterSchema schema id) >>= fun _ => Live.ofRun (Live.takeBack id) : Live Expr) crew).on world = _
  rw [Live.on_bind_ok laidOut, Live.on_bind_ok announced, takenBack]

end

end ClientGen
