import ClientGen.Proofs.Generation.Module
import ClientGen.Proofs.Naming

/-!
The names of functions are new. A function gets the name that its operation asks for, or the first numbered form
of it that is not taken (`IsFresh`), and takes no other name. As long as no plugin edits functions afterwards the
names of a run are those that it took, so that no two of them are the same (`function_names_fresh`).
-/

namespace ClientGen

namespace Operation

variable {taken : List String} {base : String}

/-- The name that a function gets where some names are taken: the wanted one if that is free, and else the first of
its numbered forms that is free. The search passes over fewer forms than there are taken names. -/
def IsFresh (taken : List String) (base name : String) : Prop :=
  name ∉ taken ∧
    (base ∉ taken → name = base) ∧
    (base ∈ taken → ∃ k, 2 ≤ k ∧ k < 2 + taken.length ∧ name = numbered base k ∧
      ∀ j, 2 ≤ j → j < k → numbered base j ∈ taken)

/-- The search for a numbered form stops at the first one that is free, or when it has tried as many as it may. -/
theorem numberedName_eq (taken : List String) (base : String) (fuel k : Nat) :
    ∃ passed ≤ fuel, numberedName taken base fuel k = numbered base (k + passed) ∧
      ∀ i < passed, numbered base (k + i) ∈ taken := by
  induction fuel generalizing k with
  | zero => exact ⟨0, le_rfl, rfl, nofun⟩
  | succ fuel ih =>
    rw [numberedName]
    split
    · rename_i isTaken
      obtain ⟨passed, few, found, all⟩ := ih (k + 1)
      refine ⟨passed + 1, by omega, by rw [found, Nat.add_right_comm, Nat.add_assoc], fun i bound => ?_⟩
      cases i with
      | zero =>
        have first : taken.contains (numbered base k) = true := isTaken
        simpa using first
      | succ i =>
        have later := all i (by omega)
        rwa [Nat.add_right_comm, Nat.add_assoc] at later
    · exact ⟨0, Nat.zero_le _, rfl, nofun⟩

/-- The search always ends with a name that is free. -/
theorem isFresh_freshName (taken : List String) (base : String) : IsFresh taken base (freshName taken base) := by
  refine ⟨freshName_not_mem taken base, fun isFree => ?_, fun isTaken => ?_⟩
  · rw [freshName, if_neg (by simpa using isFree)]
  · rw [freshName, if_pos (by simpa using isTaken)]
    obtain ⟨passed, -, found, all⟩ := numberedName_eq taken base taken.length 2
    have few := numbered_taken isTaken all
    refine ⟨2 + passed, by omega, by omega, found, fun j least below => ?_⟩
    obtain ⟨i, rfl⟩ := Nat.exists_eq_add_of_le least
    exact all i (by omega)

/-- There is only one such name, whatever the order in which the names were taken. -/
theorem IsFresh.unique {others : List String} {name other : String} (fresh : IsFresh taken base name)
    (freshToo : IsFresh others base other) (same : ∀ word, word ∈ taken ↔ word ∈ others) : name = other := by
  by_cases isTaken : base ∈ taken
  · obtain ⟨k, least, -, rfl, passed⟩ := fresh.2.2 isTaken
    obtain ⟨l, leastToo, -, rfl, passedToo⟩ := freshToo.2.2 ((same base).mp isTaken)
    rcases Nat.lt_trichotomy k l with below | rfl | above
    · exact absurd ((same _).mpr (passedToo k least below)) fresh.1
    · rfl
    · exact absurd ((same _).mp (passed l leastToo above)) freshToo.1
  · rw [fresh.2.1 isTaken, freshToo.2.1 fun inside => isTaken ((same base).mpr inside)]

end Operation

namespace Live

variable {α β : Type} {crew : Crew} {world later : World}

/-- A step that succeeds has succeeded in its first part and in what follows. -/
theorem on_bind_eq_ok {step : Live α} {next : α → Live β} {b : β} :
    ((step >>= next) crew).on world = (.ok b, later) ↔
      ∃ a between, (step crew).on world = (.ok a, between) ∧ (next a crew).on between = (.ok b, later) :=
  Run.on_bind_ok

/-- What a step yields, if it succeeds, is always of some kind. -/
def Ensures (crew : Crew) (step : Live α) (fits : α → Prop) : Prop :=
  ∀ world a later, (step crew).on world = (.ok a, later) → fits a

variable {fits : α → Prop} {fitsNext : β → Prop} {step : Live α} {next : α → Live β}

theorem ensures_pure {a : α} (holds : fits a) : Ensures crew (pure a) fits := by
  intro world b later done
  cases done
  exact holds

theorem Ensures.bind (first : Ensures crew step fits) (rest : ∀ a, fits a → Ensures crew (next a) fitsNext) :
    Ensures crew (step >>= next) fitsNext := by
  intro world b later done
  obtain ⟨a, between, made, done⟩ := on_bind_eq_ok.mp done
  exact rest a (first world a between made) between b later done

/-- What a step ensures whatever its first part yields. -/
theorem ensures_of_next (rest : ∀ a, Ensures crew (next a) fitsNext) : Ensures crew (step >>= next) fitsNext := by
  have anything : Ensures crew step fun _ => True := fun _ _ _ _ => trivial
  exact anything.bind fun a _ => rest a

/-- At a checkpoint for which no plugin has a callback nothing happens. -/
theorem on_announce_of_none (occasion : Occasion Node)
    (none : ∀ id ∈ crew.members, crew.registry.responder? occasion.checkpoint id = none) (world : World) :
    (announce occasion crew).on world = (.ok (), world) := by
  have each : ∀ members : List Nat, (∀ id ∈ members, crew.registry.responder? occasion.checkpoint id = .none) →
      (crew.registry.respondAll members ⟨occasion, crew.document⟩).on world = (.ok (), world) := by
    intro members none
    induction members with
    | nil => rfl
    | cons id rest ih =>
      have first : (crew.registry.respond id ⟨occasion, crew.document⟩).on world = (.ok (), world) := by
        rw [Registry.respond, none id List.mem_cons_self]
        rfl
      rw [Registry.respondAll, Run.on_bind, first]
      exact ih fun other member => none other (List.mem_cons_of_mem _ member)
  exact each crew.members none

end Live

namespace Generation

open Operation Live

/-- The name that an operation asks for when it is to be converted: the one that it states once the plugins have
been told of it. -/
def Asks (crew : Crew) (world : World) (method path : String) (operation : Node) (base : String) : Prop :=
  ∃ told later, (Live.announce (.beforeOperation operation) crew).on world = (.ok (), told) ∧
    ((wantedName method path operation : Live String) crew).on told = (.ok base, later)

variable {crew : Crew} {world later : World} {document operation item : Node} {method path : String}

/-- The function of an operation has a fresh form of the name that the operation asks for. -/
theorem functionOf_fresh {stated : Option Node} {taken : List String} {function : Function}
    (done : (functionOf liveServices document method path operation stated (some taken) crew).on world =
      (.ok function, later)) :
    ∃ base, Asks crew world method path operation base ∧ IsFresh taken base function.name := by
  obtain ⟨_, told, announced, done⟩ := on_bind_eq_ok.mp done
  obtain ⟨base, _, wanted, done⟩ := on_bind_eq_ok.mp done
  -- parameters, body, return type and description leave the name as it is
  obtain ⟨_, _, -, done⟩ := on_bind_eq_ok.mp done
  obtain ⟨_, _, -, done⟩ := on_bind_eq_ok.mp done
  obtain ⟨⟨_, _⟩, _, -, done⟩ := on_bind_eq_ok.mp done
  obtain ⟨_, _, -, done⟩ := on_bind_eq_ok.mp done
  obtain ⟨_, _, -, done⟩ := on_bind_eq_ok.mp done
  cases done
  exact ⟨base, ⟨told, _, announced, wanted⟩, isFresh_freshName taken base⟩

/-- No plugin is called when a function has been put into the module. -/
def LeavesFunctions (crew : Crew) : Prop := ∀ id ∈ crew.members, crew.registry.responder? .afterOperation id = none

/-- An operation takes one more name, which is a fresh form of the name that it asks for. The function goes by that
name, unless a plugin edits it. -/
theorem addFunction_fresh {made grown : Made}
    (done : (addFunction liveServices document method path operation item made crew).on world = (.ok grown, later)) :
    ∃ base name, Asks crew world method path operation base ∧ IsFresh made.taken base name ∧
      grown.taken = made.taken ++ [name] ∧ (LeavesFunctions crew → grown.names = made.names ++ [name]) := by
  obtain ⟨function, before, isFunction, done⟩ := on_bind_eq_ok.mp done
  obtain ⟨base, asks, fresh⟩ := functionOf_fresh isFunction
  obtain ⟨id, placed, isPlaced, done⟩ := on_bind_eq_ok.mp done
  obtain ⟨_, told, announced, done⟩ := on_bind_eq_ok.mp done
  obtain ⟨statement, _, found, done⟩ := on_bind_eq_ok.mp done
  obtain ⟨_, _, -, done⟩ := on_bind_eq_ok.mp done
  cases done
  refine ⟨base, function.name, asks, fresh, rfl, fun leaves => ?_⟩
  have silent := on_announce_of_none (.afterOperation operation id) leaves placed
  have untold : told = placed := (congrArg Prod.snd (silent.symm.trans announced)).symm
  obtain ⟨rfl, isNext⟩ := place_ok isPlaced
  obtain ⟨isStatement, -⟩ := statementAt_ok found
  rw [untold, isNext, Draft.get_append_last] at isStatement
  rw [isStatement]
  rfl

/-- The names of the functions are the names that are taken, and all of them are different. -/
structure Made.Distinct (made : Made) : Prop where
  same : made.names = made.taken
  nodup : made.taken.Nodup

section

variable (leaves : LeavesFunctions crew)

include leaves

theorem addFunction_distinct {made : Made} (distinct : made.Distinct) :
    Ensures crew (addFunction liveServices document method path operation item made) Made.Distinct := by
  intro world grown later done
  obtain ⟨base, name, -, ⟨free, -⟩, taken, named⟩ := addFunction_fresh done
  constructor
  · rw [named leaves, taken, distinct.same]
  · rw [taken]
    simpa using distinct.nodup.concat free

theorem visitMethods_distinct (path : Atom) (methods : List String) {made : Made} (distinct : made.Distinct) :
    Ensures crew (visitMethods liveServices document path item methods made) Made.Distinct := by
  induction methods generalizing made with
  | nil => exact ensures_pure distinct
  | cons method rest ih =>
    refine ensures_of_next fun stated => ensures_of_next fun operation => ?_
    cases operation with
    | none => exact ih distinct
    | some operation =>
      refine ensures_of_next fun chosen => ?_
      split
      · exact ensures_of_next fun shownPath => (addFunction_distinct leaves distinct).bind fun _ => ih
      · exact ih distinct

theorem visitPaths_distinct (paths : List (Atom × Node)) {made : Made} (distinct : made.Distinct) :
    Ensures crew (visitPaths liveServices document paths made) Made.Distinct := by
  induction paths generalizing made with
  | nil => exact ensures_pure distinct
  | cons entry rest ih =>
    refine ensures_of_next fun node => ensures_of_next fun item => ?_
    cases item with
    | none => exact ih distinct
    | some item => exact (visitMethods_distinct leaves entry.1 methods distinct).bind fun _ => ih

/-- The functions of a run are named differently. -/
theorem run_distinct (failures : Disk.WriteFailures) :
    Ensures crew (run liveServices document failures) fun outcome => outcome.functions.Nodup := by
  have start : ({} : Made).Distinct := ⟨rfl, .nil⟩
  refine ensures_of_next fun _ => ensures_of_next fun baseUrl => ensures_of_next fun head => ?_
  refine ensures_of_next fun base => ensures_of_next fun _ => ensures_of_next fun _ => ensures_of_next fun _ => ?_
  refine ensures_of_next fun schemas => ensures_of_next fun types => ensures_of_next fun paths => ?_
  refine (visitPaths_distinct leaves paths start).bind fun made distinct => ?_
  refine ensures_of_next fun _ => ensures_of_next fun contents => ensures_of_next fun file => ?_
  refine ensures_of_next fun _ => ensures_of_next fun _ => ensures_of_next fun _ => ensures_pure ?_
  exact distinct.same ▸ distinct.nodup

end

/-- The search for a name that is free always ends, and yields the wanted name or the first numbered form of it that
is free. So each function has a fresh form of the name that its operation asks for when plugins have been told of it,
and that name is then taken, and no other. Unless a plugin is called for functions in the module, no two functions of
a run have the same name, whatever else plugins do. -/
theorem function_names_fresh (crew : Crew) :
    (∀ taken base, IsFresh taken base (freshName taken base)) ∧
    (∀ document operation stated method path taken world function later,
      (functionOf liveServices document method path operation stated (some taken) crew).on world =
        (.ok function, later) →
      ∃ base, Asks crew world method path operation base ∧ IsFresh taken base function.name) ∧
    (∀ document operation item method path made world grown later,
      (addFunction liveServices document method path operation item made crew).on world = (.ok grown, later) →
      ∃ base name, Asks crew world method path operation base ∧ IsFresh made.taken base name ∧
        grown.taken = made.taken ++ [name]) ∧
    (LeavesFunctions crew → ∀ failures world outcome later,
      (withPlugins crew.registry crew.members crew.document failures).on world = (.ok outcome, later) →
      outcome.functions.Nodup) := by
  refine ⟨isFresh_freshName, ?_, ?_, ?_⟩
  · intro document operation stated method path taken world function later done
    exact functionOf_fresh done
  · intro document operation item method path made world grown later done
    obtain ⟨base, name, asks, fresh, taken, -⟩ := addFunction_fresh done
    exact ⟨base, name, asks, fresh, taken⟩
  · intro leaves failures world outcome later done
    exact run_distinct leaves failures world outcome later done

/-- A plugin that names operations which have no identifier. -/
private def namesPets : Plugin where
  name := .text "pets"
  callbacks := [(.beforeOperation, fun call => do
    let world ← get
    match call.occasion with
    | .beforeOperation operation =>
      match world.store.shape operation, world.store.assign operation (.text "operationId") (.atom (.text "pet")) with
      | .map entries, .ok store => if (Entries.field? entries "operationId").isNone then set { world with store }
      | _, _ => pure ()
    | _ => pure ())]

/-- The operation of a path with an identifier. -/
private def getting (identifier : String) : Value :=
  .ofFields [("get", .ofFields [("operationId", .text identifier)])]

/-- Operations that ask for the same names, once in the form of a numbered name and once through a plugin. -/
private def pets : Value :=
  .ofFields [("paths", .ofFields [("/a", getting "pet_2"), ("/b", getting "pet"), ("/c", getting "pet"),
    ("/d", .ofFields [("get", .ofFields [])])])]

private def petsCrew : Crew where
  registry := { objects := [(0, .plugin namesPets)], marks := [(0, true)] }
  members := [0]
  document := (({} : Store).insert pets).1

private def petsWorld : World :=
  { store := (({} : Store).insert pets).2, settings := ⟨[("exclude_tags", .list [])]⟩ }

theorem function_names_fresh_pets :
    (∃ function later base, (functionOf liveServices petsCrew.document "get" "/d" (.cell 6) none
          (some ["pet", "pet_2"]) petsCrew).on petsWorld = (.ok function, later) ∧
        Asks petsCrew petsWorld "get" "/d" (.cell 6) base ∧ IsFresh ["pet", "pet_2"] base function.name) ∧
    (∃ grown later base name, (addFunction liveServices petsCrew.document "get" "/d" (.cell 6) (.cell 7)
          ⟨["pet"], ["pet"]⟩ petsCrew).on petsWorld = (.ok grown, later) ∧
        Asks petsCrew petsWorld "get" "/d" (.cell 6) base ∧ IsFresh ["pet"] base name ∧
        grown.taken = ["pet", name]) ∧
    LeavesFunctions petsCrew ∧ ∃ outcome later,
      (withPlugins petsCrew.registry petsCrew.members petsCrew.document).on petsWorld = (.ok outcome, later) ∧
        outcome.functions = ["pet_2", "pet", "pet_3", "pet_4"] ∧ outcome.functions.Nodup := by
  obtain ⟨-, named, taken, distinct⟩ := function_names_fresh petsCrew
  refine ⟨?_, ?_, ?_⟩
  · obtain ⟨function, later, done⟩ : ∃ function later, (functionOf liveServices petsCrew.document "get" "/d"
        (.cell 6) none (some ["pet", "pet_2"]) petsCrew).on petsWorld = (.ok function, later) :=
      Run.succeeds_of_isSome (by decide +kernel)
    obtain ⟨base, asks, fresh⟩ := named _ _ _ _ _ _ _ _ _ done
    exact ⟨function, later, base, done, asks, fresh⟩
  · obtain ⟨grown, later, done⟩ : ∃ grown later, (addFunction liveServices petsCrew.document "get" "/d" (.cell 6)
        (.cell 7) ⟨["pet"], ["pet"]⟩ petsCrew).on petsWorld = (.ok grown, later) :=
      Run.succeeds_of_isSome (by decide +kernel)
    obtain ⟨base, name, asks, fresh, grows⟩ := taken _ _ _ _ _ _ _ _ _ done
    exact ⟨grown, later, base, name, done, asks, fresh, grows⟩
  · have leaves : LeavesFunctions petsCrew := by
      intro id member
      obtain rfl := List.mem_singleton.mp member
      rfl
    have names : ((withPlugins petsCrew.registry petsCrew.members petsCrew.document).on petsWorld).1.toOption.map
        (·.functions) = some ["pet_2", "pet", "pet_3", "pet_4"] := by decide +kernel
    obtain ⟨outcome, later, done⟩ := Run.succeeds_of_isSome (by simpa using congrArg Option.isSome names)
    rw [done] at names
    exact ⟨leaves, outcome, later, done, Option.some.inj names, distinct leaves _ petsWorld outcome later done⟩

end Generation

end ClientGen
