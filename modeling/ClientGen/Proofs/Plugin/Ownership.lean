import ClientGen.Proofs.Plugin.Coherence
import Mathlib.Data.List.Nodup

/-!
Who owns the flags and the destinations of options. A manager that has loaded plugins one after the other
keeps two tables of owners. In every state that it can reach the tables list exactly the flags and the
destinations of the loaded plugins, no key stands there twice, and none of them belongs to the program
itself (`owned_of_reachable`). What is refused leaves no trace, so that handing in many plugins comes to
loading those that are accepted (`on_loadAll`).

The tables are asked for the owner of a key, and an owner without a name counts as none. The names under
which plugins are loaded therefore have to be names (`nameless_owner_overlooked`).
-/

namespace ClientGen.Manager

/-- The keys that the flags of an option are looked up by. -/
def keysOf (o : OptionSpec) : List String := o.flags.map bareFlag

/-- The keys of all flags of loaded plugins, each with the name of its plugin. -/
def keyTable (manager : Manager) (registry : Registry) : List (String × Value) :=
  (manager.specs registry).flatMap fun entry => (keysOf entry.2).map fun key => (key, entry.1)

/-- The destinations of all options of loaded plugins, each with the name of its plugin. -/
def destinationTable (manager : Manager) (registry : Registry) : List (String × Value) :=
  (manager.specs registry).map fun entry => (entry.2.destination, entry.1)

/-- The states that loading leads to. Between two operations objects may be made, registered, edited and
dropped in any way that leaves the loaded plugins as they are. -/
inductive Reachable : Registry → Manager → Prop
  | new (registry : Registry) : Reachable registry {}
  | load {registry : Registry} {manager : Manager} (id : Nat) (world : World)
    (reached : Reachable registry manager) : Reachable registry ((load registry id).on manager world).1.2
  | loadAll {registry : Registry} {manager : Manager} (ids : List Nat) (world : World)
    (reached : Reachable registry manager) : Reachable registry ((loadAll registry ids).on manager world).1.2
  | change {registry later : Registry} {manager : Manager} (reached : Reachable registry manager)
    (kept : ∀ l ∈ manager.loaded, later.plugin? l.id = registry.plugin? l.id) : Reachable later manager

/-- A table of owners has the entries of loaded plugins and nothing else, each key once and none that is
reserved. -/
structure Exact (reserved : List String) (owners entries : List (String × Value)) : Prop where
  owners_eq : owners = entries
  nodup : (entries.map (·.1)).Nodup
  free : ∀ key ∈ entries.map (·.1), key ∉ reserved

/-- The owners that a manager has noted are those of its plugins, which have different names. -/
structure Owned (registry : Registry) (manager : Manager) : Prop where
  present : ∀ l ∈ manager.loaded, ∃ plugin, registry.plugin? l.id = some plugin ∧ plugin.name = l.name
  isKey : ∀ l ∈ manager.loaded, l.name.isKey = true
  names : manager.loaded.Pairwise fun a b => a.name.same b.name = false ∧ b.name.same a.name = false
  flags : Exact builtinNames manager.flagOwners (manager.keyTable registry)
  destinations : Exact reservedDestinations manager.destinationOwners (manager.destinationTable registry)

/-- The plugins that are accepted of several that are handed in one after the other. -/
def acceptedAmong (registry : Registry) : List Nat → Manager → List Nat
  | [], _ => []
  | id :: rest, manager =>
    match manager.accept registry id with
    | .ok later => id :: acceptedAmong registry rest later
    | .error _ => acceptedAmong registry rest manager

/-- The names of genuine plugins can be looked up. -/
def Nameable (registry : Registry) (ids : List Nat) : Prop :=
  ∀ id ∈ ids, registry.isGenuine id = true → (nameOf registry id).isKey = true

instance (registry : Registry) (ids : List Nat) : Decidable (Nameable registry ids) :=
  inferInstanceAs (Decidable (∀ id ∈ ids, registry.isGenuine id = true → (nameOf registry id).isKey = true))

section

variable {registry : Registry} {manager : Manager}

/-! ### What a plugin claims -/

/-- Keys that can be had: none of them twice, none reserved, none with an owner. -/
structure Unowned (reserved : List String) (owners : List (String × Value)) (keys : List String) : Prop where
  nodup : keys.Nodup
  free : ∀ key ∈ keys, key ∉ reserved
  ownerless : ∀ key ∈ keys, owner? owners key = none

theorem unowned_nil (reserved : List String) (owners : List (String × Value)) : Unowned reserved owners [] :=
  ⟨.nil, nofun, nofun⟩

theorem Unowned.snoc {reserved : List String} {owners : List (String × Value)} {keys : List String} {key : String}
    (unowned : Unowned reserved owners keys) (free : key ∉ reserved) (ownerless : owner? owners key = none)
    (fresh : key ∉ keys) : Unowned reserved owners (keys ++ [key]) := by
  constructor
  · rw [List.nodup_append]
    refine ⟨unowned.nodup, List.nodup_singleton _, ?_⟩
    rintro other member last isLast rfl
    exact fresh (List.mem_singleton.mp isLast ▸ member)
  · intro other member
    rcases List.mem_append.mp member with before | last
    · exact unowned.free other before
    · rwa [List.mem_singleton.mp last]
  · intro other member
    rcases List.mem_append.mp member with before | last
    · exact unowned.ownerless other before
    · rwa [List.mem_singleton.mp last]

/-- Flags that are claimed are added to those claimed before, and can all be had. -/
theorem claimFlags_ok {plugin : Value} {flags claimed later : List String}
    (done : claimFlags manager plugin flags claimed = .ok later)
    (unowned : Unowned builtinNames manager.flagOwners claimed) :
    later = claimed ++ flags.map bareFlag ∧ Unowned builtinNames manager.flagOwners later := by
  induction flags generalizing claimed with
  | nil =>
    cases done
    exact ⟨(List.append_nil _).symm, unowned⟩
  | cons flag rest ih =>
    rw [claimFlags] at done
    split at done
    · cases done
    · rename_i free
      dsimp only at done
      split at done
      · cases done
      · rename_i fresh
        rw [Bool.or_eq_true, not_or] at fresh
        have next := unowned.snoc (by simpa using free) (by simpa using fresh.1) (by simpa using fresh.2)
        obtain ⟨rfl, all⟩ := ih done next
        exact ⟨by simp, all⟩

/-- Claims that can be had. -/
structure Grantable (manager : Manager) (claims : Claims) : Prop where
  flags : Unowned builtinNames manager.flagOwners claims.flags
  destinations : Unowned reservedDestinations manager.destinationOwners claims.destinations

theorem claimOption_ok {plugin : Value} {claims later : Claims} {o : OptionSpec}
    (done : claimOption manager plugin claims o = .ok later) (grantable : Grantable manager claims) :
    later = ⟨claims.flags ++ keysOf o, claims.destinations ++ [o.destination]⟩ ∧ Grantable manager later := by
  unfold claimOption at done
  split at done
  · cases done
  · rename_i free
    cases claimed : claimFlags manager plugin o.flags claims.flags with
    | error fault => simp [claimed, bind, Except.bind] at done
    | ok flags =>
      obtain ⟨rfl, flags⟩ := claimFlags_ok claimed grantable.flags
      simp only [claimed, bind, Except.bind] at done
      split at done
      · cases done
      · rename_i fresh
        cases done
        rw [Bool.or_eq_true, not_or] at fresh
        refine ⟨rfl, flags, grantable.destinations.snoc ?_ ?_ ?_⟩
        · simpa using free
        · simpa using fresh.1
        · simpa using fresh.2

/-- What a plugin claims are the flags and the destinations of all of its options. -/
theorem claimAll_ok {plugin : Value} {specs : List OptionSpec} {claims later : Claims}
    (done : claimAll manager plugin claims specs = .ok later) (grantable : Grantable manager claims) :
    later = ⟨claims.flags ++ specs.flatMap keysOf, claims.destinations ++ specs.map (·.destination)⟩ ∧
      Grantable manager later := by
  induction specs generalizing claims with
  | nil =>
    cases done
    exact ⟨by simp, grantable⟩
  | cons o rest ih =>
    cases claimed : claimOption manager plugin claims o with
    | error fault => simp [claimAll, claimed, bind, Except.bind] at done
    | ok next =>
      obtain ⟨rfl, granted⟩ := claimOption_ok claimed grantable
      simp only [claimAll, claimed, bind, Except.bind] at done
      obtain ⟨rfl, all⟩ := ih done granted
      exact ⟨by simp, all⟩

/-- What a manager that accepts a plugin has found, and everything that it has become. -/
theorem accept_eq_ok {id : Nat} {later : Manager} (accepted : manager.accept registry id = .ok later) :
    ∃ plugin, registry.plugin? id = some plugin ∧ plugin.name.isKey = true ∧ manager.has plugin.name = false ∧
      Unowned builtinNames manager.flagOwners (plugin.specs.flatMap keysOf) ∧
      Unowned reservedDestinations manager.destinationOwners (plugin.specs.map (·.destination)) ∧
      later = { manager with
        loaded := manager.loaded ++ [⟨plugin.name, id⟩]
        flagOwners := own manager.flagOwners (plugin.specs.flatMap keysOf) plugin.name
        destinationOwners := own manager.destinationOwners (plugin.specs.map (·.destination)) plugin.name
        runner := none } := by
  unfold accept at accepted
  cases found : registry.genuine? id with
  | none => simp [found] at accepted
  | some plugin =>
    have present := (Registry.genuine?_eq_some.mp found).2
    simp only [found] at accepted
    split at accepted
    · cases accepted
    · rename_i isKey
      split at accepted
      · cases accepted
      · rename_i free
        split at accepted
        · cases accepted
        · rename_i claims claimed
          cases accepted
          obtain ⟨rfl, granted⟩ := claimAll_ok claimed ⟨unowned_nil _ _, unowned_nil _ _⟩
          exact ⟨plugin, present, by simpa using isKey, by simpa using free, granted.flags, granted.destinations, rfl⟩

/-- A plugin whose name can be looked up is refused with a complaint about plugins. -/
theorem kind_of_refusal {id : Nat} {fault : Fault}
    (nameable : registry.isGenuine id = true → (nameOf registry id).isKey = true)
    (refused : manager.accept registry id = .error fault) : fault.kind = .plugin := by
  unfold accept at refused
  cases found : registry.genuine? id with
  | none =>
    simp only [found, Except.error.injEq] at refused
    rw [← refused]
    rfl
  | some plugin =>
    have genuine := Registry.genuine?_eq_some.mp found
    have isKey : plugin.name.isKey = true := by simpa [nameOf, genuine.2] using nameable genuine.1
    simp only [found, isKey, Bool.not_true, Bool.false_eq_true, ↓reduceIte] at refused
    split at refused
    · cases refused
      rfl
    · split at refused
      · cases refused
        rfl
      · cases refused

/-! ### Tables of owners -/

/-- Where every owner has a name, a key without an owner does not stand in the table. -/
theorem not_mem_of_ownerless {owners : List (String × Value)} (named : ∀ entry ∈ owners, entry.2 ≠ .null)
    {key : String} (ownerless : owner? owners key = none) : key ∉ owners.map (·.1) := by
  intro member
  obtain ⟨entry, inTable, rfl⟩ := List.mem_map.mp member
  cases found : owners.find? fun other => other.1 = entry.1 with
  | none => simpa using List.find?_eq_none.mp found entry inTable
  | some other =>
    have hasName := named other (List.mem_of_find?_eq_some found)
    obtain ⟨key, name⟩ := other
    by_cases isNull : name = .null
    · exact hasName isNull
    · simp [owner?, found] at ownerless

/-- New keys are put behind the old ones. -/
theorem own_of_fresh {owners : List (String × Value)} {keys : List String} (name : Value) (nodup : keys.Nodup)
    (fresh : ∀ key ∈ keys, key ∉ owners.map (·.1)) : own owners keys name = owners ++ keys.map (·, name) := by
  induction keys generalizing owners with
  | nil => simp [own]
  | cons key rest ih =>
    obtain ⟨unrepeated, nodup⟩ := List.nodup_cons.mp nodup
    have nothing : (owners.filter fun entry => entry.1 ≠ key) = owners := by
      refine List.filter_eq_self.mpr fun entry member => ?_
      have different : entry.1 ≠ key := by
        rintro rfl
        exact fresh entry.1 List.mem_cons_self (List.mem_map_of_mem member)
      simpa using different
    have later : ∀ other ∈ rest, other ∉ (owners ++ [(key, name)]).map (·.1) := by
      intro other member
      rw [List.map_append, List.mem_append, not_or, List.map_singleton, List.mem_singleton]
      refine ⟨fresh other (List.mem_cons_of_mem _ member), ?_⟩
      rintro rfl
      exact unrepeated member
    have first : own owners (key :: rest) name =
        own ((owners.filter fun entry => entry.1 ≠ key) ++ [(key, name)]) rest name := rfl
    rw [first, nothing, ih nodup later]
    simp

/-- A table stays exact when a plugin gets the keys that it has claimed. -/
theorem Exact.own {reserved : List String} {owners entries : List (String × Value)}
    (exact' : Exact reserved owners entries) (named : ∀ entry ∈ entries, entry.2 ≠ .null) {keys : List String}
    (unowned : Unowned reserved owners keys) (name : Value) :
    Exact reserved (own owners keys name) (entries ++ keys.map (·, name)) := by
  obtain rfl := exact'.owners_eq
  have fresh : ∀ key ∈ keys, key ∉ owners.map (·.1) := fun key member =>
    not_mem_of_ownerless named (unowned.ownerless key member)
  have keysOnly : (owners ++ keys.map (·, name)).map (·.1) = owners.map (·.1) ++ keys := by
    simp [Function.comp_def]
  constructor
  · exact own_of_fresh name unowned.nodup fresh
  · rw [keysOnly, List.nodup_append]
    refine ⟨exact'.nodup, unowned.nodup, ?_⟩
    rintro key before _ new rfl
    exact fresh key new before
  · rw [keysOnly]
    intro key member
    rcases List.mem_append.mp member with before | new
    · exact exact'.free key before
    · exact unowned.free key new

/-! ### What loading preserves -/

theorem specs_congr {later : Registry} (same : ∀ l ∈ manager.loaded, later.plugin? l.id = registry.plugin? l.id) :
    manager.specs later = manager.specs registry := by
  have plugins : manager.plugins later = manager.plugins registry :=
    List.filterMap_congr fun l member => by rw [same l member]
  rw [specs, specs, plugins]

/-- The options of a manager with one more plugin. -/
theorem specs_append {later : Manager} {id : Nat} {plugin : Plugin} (found : registry.plugin? id = some plugin)
    (loaded : later.loaded = manager.loaded ++ [⟨plugin.name, id⟩]) :
    later.specs registry = manager.specs registry ++ plugin.specs.map fun o => (plugin.name, o) := by
  simp [specs, plugins, loaded, found]

theorem owned_new (registry : Registry) : Owned registry {} where
  present := nofun
  isKey := nofun
  names := .nil
  flags := ⟨rfl, .nil, nofun⟩
  destinations := ⟨rfl, .nil, nofun⟩

/-- The names in the tables are names of loaded plugins. -/
private theorem name_of_spec {entry : Value × OptionSpec} (member : entry ∈ manager.specs registry) :
    ∃ l ∈ manager.loaded, l.name = entry.1 := by
  obtain ⟨⟨name, plugin⟩, listed, isSpec⟩ := List.mem_flatMap.mp member
  obtain ⟨l, loaded, found⟩ := List.mem_filterMap.mp listed
  obtain ⟨_, -, rfl⟩ := List.mem_map.mp isSpec
  obtain ⟨_, -, isEntry⟩ := Option.map_eq_some_iff.mp found
  exact ⟨l, loaded, (Prod.mk.inj isEntry).1⟩

/-- The flags and destinations of a plugin that is accepted are added to the tables. -/
theorem owned_accepted {id : Nat} {later : Manager} (owned : Owned registry manager)
    (named : ∀ l ∈ manager.loaded, l.name ≠ .null) (accepted : manager.accept registry id = .ok later) :
    Owned registry later := by
  obtain ⟨plugin, found, isKey, free, flags, destinations, isLater⟩ := accept_eq_ok accepted
  have loaded : later.loaded = manager.loaded ++ [⟨plugin.name, id⟩] := by rw [isLater]
  have flagOwners : later.flagOwners = own manager.flagOwners (plugin.specs.flatMap keysOf) plugin.name := by
    rw [isLater]
  have destinationOwners : later.destinationOwners =
      own manager.destinationOwners (plugin.specs.map (·.destination)) plugin.name := by
    rw [isLater]
  have listed := specs_append found loaded
  have nameOfEntry : ∀ entry ∈ manager.specs registry, entry.1 ≠ .null := by
    intro entry member
    obtain ⟨l, loaded, name⟩ := name_of_spec member
    exact name ▸ named l loaded
  constructor
  · intro l member
    rw [loaded] at member
    rcases List.mem_append.mp member with before | last
    · exact owned.present l before
    · rw [List.mem_singleton.mp last]
      exact ⟨plugin, found, rfl⟩
  · intro l member
    rw [loaded] at member
    rcases List.mem_append.mp member with before | last
    · exact owned.isKey l before
    · rwa [List.mem_singleton.mp last]
  · rw [loaded]
    refine List.pairwise_append.mpr ⟨owned.names, List.pairwise_singleton _ _, ?_⟩
    intro earlier before last isLast
    rw [List.mem_singleton.mp isLast]
    have different : earlier.name.same plugin.name = false := by
      rw [has, List.any_eq_false] at free
      simpa using free earlier before
    exact ⟨different, by rw [Value.same_comm_of_isKey _ _ isKey (owned.isKey earlier before), different]⟩
  · have entries : later.keyTable registry =
        manager.keyTable registry ++ (plugin.specs.flatMap keysOf).map (·, plugin.name) := by
      simp [keyTable, listed, List.map_flatMap, List.flatMap_map]
    rw [entries, flagOwners]
    refine owned.flags.own (fun entry member => ?_) flags plugin.name
    obtain ⟨spec, isSpec, inTable⟩ := List.mem_flatMap.mp member
    obtain ⟨_, -, rfl⟩ := List.mem_map.mp inTable
    exact nameOfEntry spec isSpec
  · have entries : later.destinationTable registry =
        manager.destinationTable registry ++ (plugin.specs.map (·.destination)).map (·, plugin.name) := by
      simp [destinationTable, listed]
    rw [entries, destinationOwners]
    refine owned.destinations.own (fun entry member => ?_) destinations plugin.name
    obtain ⟨spec, isSpec, rfl⟩ := List.mem_map.mp member
    exact nameOfEntry spec isSpec

/-- Edits that leave the loaded plugins as they are leave the tables exact. -/
theorem owned_change {later : Registry} (owned : Owned registry manager)
    (kept : ∀ l ∈ manager.loaded, later.plugin? l.id = registry.plugin? l.id) : Owned later manager where
  present l member := by
    rw [kept l member]
    exact owned.present l member
  isKey := owned.isKey
  names := owned.names
  flags := by
    rw [keyTable, specs_congr kept]
    exact owned.flags
  destinations := by
    rw [destinationTable, specs_congr kept]
    exact owned.destinations

/-- What holds of a manager, and of any manager that accepts one more plugin, holds after plugins were handed
in, be it that some were refused or that one failed in another way. -/
theorem loadAll_invariant {holds : Manager → Prop}
    (step : ∀ {id manager later}, holds manager → manager.accept registry id = .ok later → holds later)
    (ids : List Nat) (world : World) (start : holds manager) :
    holds ((loadAll registry ids).on manager world).1.2 := by
  induction ids generalizing manager world with
  | nil => exact start
  | cons id rest ih =>
    simp only [loadAll, Managed.on_bind, Managed.on_tryCatch, on_load]
    cases accepted : manager.accept registry id with
    | error fault =>
      by_cases isPlugin : fault.kind = .plugin
      · simp only [isPlugin, ↓reduceIte, Managed.on_pure, Managed.on_bind, Managed.on_note]
        exact ih _ start
      · simpa [isPlugin] using start
    | ok later =>
      simp only [Managed.on_pure, Managed.on_bind]
      have others := ih { world with log := world.log ++
        [⟨.info, source, "Loaded plugin '" ++ (nameOf registry id).displayed ++ "'"⟩] } (step start accepted)
      split
      · rename_i done
        rwa [done] at others
      · rename_i done
        rwa [done] at others

/-- The tables of a manager that has loaded no nameless plugin are exact. -/
private def OwnedIfNamed (registry : Registry) (manager : Manager) : Prop :=
  (∀ l ∈ manager.loaded, l.name ≠ .null) → Owned registry manager

private theorem ownedIfNamed_accepted {id : Nat} {manager later : Manager} (owned : OwnedIfNamed registry manager)
    (accepted : manager.accept registry id = .ok later) : OwnedIfNamed registry later := by
  intro named
  have before : ∀ l ∈ manager.loaded, l.name ≠ .null := by
    rw [(accept_ok accepted).2.2.2.1] at named
    exact fun l member => named l (List.mem_append_left _ member)
  exact owned_accepted (owned before) before accepted

/-- In every state that can be reached the tables are exact. -/
theorem owned_of_reachable (reached : Reachable registry manager) (named : ∀ l ∈ manager.loaded, l.name ≠ .null) :
    Owned registry manager := by
  have owned : OwnedIfNamed registry manager := by
    clear named
    induction reached with
    | new => exact fun _ => owned_new _
    | load id world _ ih =>
      rw [on_load]
      split
      · exact ih
      · rename_i accepted
        exact ownedIfNamed_accepted ih accepted
    | loadAll ids world _ ih => exact loadAll_invariant ownedIfNamed_accepted ids world ih
    | change _ kept ih => exact fun named => owned_change (ih named) kept
  exact owned named

/-! ### What is refused -/

/-- A plugin that is refused leaves no trace. -/
theorem load_refused {id : Nat} {world : World} {fault : Fault}
    (refused : ((load registry id).on manager world).1.1 = .error fault) :
    (load registry id).on manager world = ((.error fault, manager), world) := by
  rw [on_load] at refused ⊢
  split at refused
  · rw [Except.error.inj refused]
  · cases refused

/-- Handing in plugins whose names can be looked up comes to loading those that are accepted, and yields their
names. -/
theorem on_loadAll {ids : List Nat} (nameable : Nameable registry ids) (world other : World) :
    ∃ later after after', (loadAll registry ids).on manager world =
        ((.ok ((acceptedAmong registry ids manager).map (nameOf registry)), later), after) ∧
      (forM (acceptedAmong registry ids manager) (load registry)).on manager other = ((.ok (), later), after') := by
  induction ids generalizing manager world other with
  | nil => exact ⟨manager, world, other, rfl, rfl⟩
  | cons id rest ih =>
    have nameableRest : Nameable registry rest := fun other member =>
      nameable other (List.mem_cons_of_mem _ member)
    simp only [loadAll, Managed.on_bind, Managed.on_tryCatch, on_load, acceptedAmong]
    cases accepted : manager.accept registry id with
    | error fault =>
      have isPlugin : fault.kind = .plugin := kind_of_refusal (nameable id List.mem_cons_self) accepted
      simp only [isPlugin, ↓reduceIte, Managed.on_pure, Managed.on_bind, Managed.on_note]
      exact ih nameableRest _ other
    | ok next =>
      obtain ⟨later, after, after', together, oneByOne⟩ := @ih next nameableRest
        { world with log := world.log ++
          [⟨.info, source, "Loaded plugin '" ++ (nameOf registry id).displayed ++ "'"⟩] }
        { other with log := other.log ++
          [⟨.info, source, "Loaded plugin '" ++ (nameOf registry id).displayed ++ "'"⟩] }
      refine ⟨later, after, after', ?_, ?_⟩
      · simp only [Managed.on_pure, Managed.on_bind, together, List.map_cons]
      · simp only [List.forM_cons, Managed.on_bind, on_load, accepted, oneByOne]

/-- Where no nameless plugin is loaded, every option of every loaded plugin has its flags and its destination
to itself, and the tables of owners say so. A plugin that is refused changes nothing at all, so that handing in
plugins whose names can be looked up comes to loading those that are accepted. -/
theorem ownership (reached : Reachable registry manager) (named : ∀ l ∈ manager.loaded, l.name ≠ .null) :
    Owned registry manager ∧
      (∀ (id : Nat) (world : World) (fault : Fault), ((load registry id).on manager world).1.1 = .error fault →
        (load registry id).on manager world = ((.error fault, manager), world)) ∧
      ∀ (ids : List Nat) (world other : World), Nameable registry ids →
        ∃ later after after', (loadAll registry ids).on manager world =
            ((.ok ((acceptedAmong registry ids manager).map (nameOf registry)), later), after) ∧
          (forM (acceptedAmong registry ids manager) (load registry)).on manager other = ((.ok (), later), after') :=
  ⟨owned_of_reachable reached named, fun _ _ _ => load_refused,
    fun _ world other nameable => on_loadAll nameable world other⟩

end

/-- An option of plugins for style. -/
private def styleOption (name : String) (aliases : List String) : PluginOptions where
  args := [{ name, kind := .string, default := .null, help := "", aliases }]

/-- Two plugins with an option each; a third one wants a flag that the first has. -/
def threeStyles : Registry where
  objects := [
    (0, .plugin { name := .text "a", options := some (styleOption "line-style" ["l"]) }),
    (1, .plugin { name := .text "b", options := some (styleOption "text-style" []) }),
    (2, .plugin { name := .text "c", options := some (styleOption "width" ["l"]) })]
  marks := [(0, true), (1, true), (2, true)]

/-- The manager that has been handed all three. -/
def threeStylesLoaded : Manager := ((loadAll threeStyles [0, 1, 2]).on {} {}).1.2

private theorem threeStylesLoaded_loaded : threeStylesLoaded.loaded = [⟨.text "a", 0⟩, ⟨.text "b", 1⟩] := rfl

/-- The third plugin is refused, and the flags and destinations of the others are theirs. -/
theorem ownership_threeStyles :
    Owned threeStyles threeStylesLoaded ∧
      threeStylesLoaded.flagOwners.map (·.1) = ["line-style", "l", "text-style"] ∧
      threeStylesLoaded.destinationOwners.map (·.1) = ["line_style", "text_style"] ∧
      ((load threeStyles 2).on threeStylesLoaded {}).1.2 = threeStylesLoaded ∧
      ((loadAll threeStyles [2, 0, 1]).on {} {}).1.1 = .ok [.text "c", .text "b"] := by
  have named : ∀ l ∈ threeStylesLoaded.loaded, l.name ≠ .null := by
    rw [threeStylesLoaded_loaded]
    simp
  obtain ⟨owned, refused, -⟩ := ownership (.loadAll [0, 1, 2] {} (.new threeStyles)) named
  obtain ⟨-, -, together⟩ := ownership (.new threeStyles) nofun
  refine ⟨owned, by decide, by decide, ?_, ?_⟩
  · have again : ((load threeStyles 2).on threeStylesLoaded {}).1.1 =
        .error (.plugin (.flagTaken "c" "-l" "a")) := rfl
    exact congrArg (·.1.2) (refused 2 {} _ again)
  · obtain ⟨later, after, after', inReverse, -⟩ := together [2, 0, 1] {} {} (by decide)
    rw [inReverse]
    rfl

/-- Two plugins with one flag, the first of which has no name any more; a third has a list for a name. -/
def namelessAndNamed : Registry where
  objects := [
    (0, .plugin { name := .null, options := some (styleOption "style" []) }),
    (1, .plugin { name := .text "b", options := some (styleOption "style" []) }),
    (2, .plugin { name := .list [] })]
  marks := [(0, true), (1, true), (2, true)]

/-- An owner without a name is overlooked, and a name that cannot be looked up keeps the plugins behind it from
being loaded. -/
theorem nameless_owner_overlooked :
    (¬ ∀ (registry : Registry) (manager : Manager), Reachable registry manager → Owned registry manager) ∧
      ¬ ∀ (registry : Registry) (manager : Manager), Reachable registry manager → ∀ (ids : List Nat) (world : World),
        ((loadAll registry ids).on manager world).1.1.toOption =
          some ((acceptedAmong registry ids manager).map (nameOf registry)) := by
  constructor
  · intro always
    have owned := always namelessAndNamed _ (.load 1 {} (.load 0 {} (.new _)))
    exact absurd owned.flags.nodup (by decide)
  · intro always
    have names := always namelessAndNamed {} (.new _) [2, 1] {}
    exact absurd (congrArg Option.isSome names) (by decide)

end ClientGen.Manager
