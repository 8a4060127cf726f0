import ClientGen.Proofs.Plugin.Ownership
import ClientGen.Proofs.Settings.Record

/-!
Where the values of plugin options are kept. No option that a manager has accepted is kept under the name of a
built-in setting or of a member of the settings record, whatever names its plugins have (`destination_free`). The
declared default for a destination is that of the option loaded last (`valueAt_defaults`); where no nameless plugin
is loaded there is only one (`Owned.eq_of_destination`).
-/

namespace ClientGen.Manager

variable {registry : Registry} {manager : Manager}

/-- The destinations of all options of loaded plugins are free for options. -/
def HasFreeDestinations (registry : Registry) (manager : Manager) : Prop :=
  ∀ entry ∈ manager.specs registry, entry.2.destination ∉ reservedDestinations

theorem hasFreeDestinations_accepted {id : Nat} {later : Manager} (free : HasFreeDestinations registry manager)
    (accepted : manager.accept registry id = .ok later) : HasFreeDestinations registry later := by
  obtain ⟨plugin, found, -, -, -, destinations, rfl⟩ := accept_eq_ok accepted
  intro entry member
  rw [specs_append found rfl] at member
  rcases List.mem_append.mp member with before | new
  · exact free entry before
  · obtain ⟨o, isSpec, rfl⟩ := List.mem_map.mp new
    exact destinations.free _ (List.mem_map_of_mem isSpec)

/-- In every state that can be reached no option is kept where it would hide a setting or be hidden by a member. -/
theorem destination_free (reached : Reachable registry manager) : HasFreeDestinations registry manager := by
  induction reached with
  | new => exact nofun
  | load id world _ ih =>
    rw [on_load]
    split
    · exact ih
    · rename_i accepted
      exact hasFreeDestinations_accepted ih accepted
  | loadAll ids world _ ih => exact loadAll_invariant hasFreeDestinations_accepted ids world ih
  | change _ kept ih => rwa [HasFreeDestinations, specs_congr kept]

/-- Of several options with one destination the last one is declared for it. -/
theorem valueAt_defaults (destination : String) : valueAt (manager.defaults registry) destination =
    ((manager.specs registry).reverse.find? fun entry => entry.2.destination = destination).map (·.2.default) := by
  have fold : ∀ (specs : List (Value × OptionSpec)) (settings : Settings),
      valueAt (specs.foldl (fun s entry => s.put entry.2.destination entry.2.default) settings).entries destination =
        ((specs.reverse.find? fun entry => entry.2.destination = destination).map (·.2.default)).or
          (valueAt settings.entries destination) := by
    intro specs
    induction specs with
    | nil => exact fun settings => rfl
    | cons entry rest ih =>
      intro settings
      rw [List.foldl_cons, ih, Settings.valueAt_put, List.reverse_cons, List.find?_append, Option.map_or,
        Option.or_assoc]
      by_cases same : entry.2.destination = destination <;> simp [same]
  rw [defaults, fold, valueAt_nil, Option.or_none]

/-- Options with one destination are one option. -/
theorem Owned.eq_of_destination (owned : Owned registry manager) {entry other : Value × OptionSpec}
    (member : entry ∈ manager.specs registry) (otherMember : other ∈ manager.specs registry)
    (same : other.2.destination = entry.2.destination) : other = entry := by
  have nodup : ((manager.specs registry).map fun entry => entry.2.destination).Nodup := by
    simpa [destinationTable, Function.comp_def] using owned.destinations.nodup
  exact List.inj_on_of_nodup_map nodup otherMember member same

end ClientGen.Manager
