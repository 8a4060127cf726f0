import ClientGen.Proofs.Schema.Copies

/-!
Rewriting a schema before it is converted. A function on mappings is applied to a schema, and then to every schema
that conversion visits in what the function has left, from the top down (`rewritten`, `RewritesTo`). Which schemas those
are is decided by the entries of the schema above (`spotsOf`); whatever is rewritten there, its other entries stay
(`field?_rewriteSpots`). There is one schema that another is rewritten to, at most (`RewritesTo.unique`).
-/

namespace ClientGen

namespace Entries

variable {α : Type}

/-- Entries with another value in the first entry of a text key. -/
def replace : List (Atom × α) → String → α → List (Atom × α)
  | [], _, _ => []
  | entry :: rest, key, value =>
    if entry.1.same (.text key) then (entry.1, value) :: rest else entry :: replace rest key value

/-- The entry of a key stands between others, and is the one that is replaced. -/
theorem split_of_field? {entries : List (Atom × α)} {key : String} {value : α}
    (found : field? entries key = some value) :
    ∃ front name back, entries = front ++ (name, value) :: back ∧
      ∀ other, replace entries key other = front ++ (name, other) :: back := by
  induction entries with
  | nil => cases found
  | cons entry rest ih =>
    cases same : entry.1.same (.text key) with
    | true =>
      have isValue : entry.2 = value := by simpa [field?, get?, same] using found
      exact ⟨[], entry.1, rest, by rw [← isValue]; rfl, fun other => by rw [replace, if_pos same]; rfl⟩
    | false =>
      have later : field? rest key = some value := by simpa [field?, get?, same] using found
      obtain ⟨front, name, back, equal, replaced⟩ := ih later
      refine ⟨entry :: front, name, back, by rw [equal]; rfl, fun other => ?_⟩
      rw [replace, same, replaced other]
      rfl

variable (entries : List (Atom × α)) {key other : String} (value : α)

theorem field?_replace_self (present : (field? entries key).isSome = true) :
    field? (replace entries key value) key = some value := by
  induction entries with
  | nil => cases present
  | cons entry rest ih =>
    cases same : entry.1.same (.text key) with
    | true => simp [replace, same, field?, get?]
    | false =>
      have later : (field? rest key).isSome = true := by simpa [field?, get?, same] using present
      have found := ih later
      simp only [field?, get?] at found ⊢
      simpa [replace, same] using found

theorem field?_replace_of_ne (differ : key ≠ other) : field? (replace entries key value) other = field? entries other := by
  induction entries with
  | nil => rfl
  | cons entry rest ih =>
    cases same : entry.1.same (.text key) with
    | true =>
      have apart : entry.1.same (.text other) = false := by
        rw [Atom.same_text, decide_eq_true_iff] at same
        rw [same, Atom.same_text]
        simpa using differ
      simp [replace, same, field?, get?, apart]
    | false =>
      simp only [field?, get?] at ih ⊢
      cases here : entry.1.same (.text other) <;> simp [replace, same, here, ih]

end Entries

namespace SchemaType

/-- What conversion visits of the value under a key. -/
inductive Scope where
  | schema
  | items
  | properties

/-- A place in a schema that conversion goes to. -/
structure Spot where
  key : String
  scope : Scope

/-- The schemas at a spot. -/
def Spot.parts (spot : Spot) (entries : List (Atom × Value)) : List Value :=
  match spot.scope, Entries.field? entries spot.key with
  | .schema, some schema => [schema]
  | .items, some (.list items) => items
  | .properties, some (.map inner) => inner.map (·.2)
  | _, _ => []

/-- Where the parts of a form stand in its schema. -/
def Form.spots (entries : List (Atom × Value)) : Form → List Spot
  | union _ => [⟨alternativesKey entries, .items⟩]
  | conjunction _ => [⟨"allOf", .items⟩]
  | array (some _) => [⟨"items", .schema⟩]
  | record _ _ => [⟨"properties", .properties⟩]
  | mapping (some _) => [⟨"additionalProperties", .schema⟩]
  | _ => []

/-- The spots that a schema has for one of the types it lists. -/
def spotsForType (entries : List (Atom × Value)) : Value → List Spot
  | .text type =>
    match kindForm none entries (.named type) with
    | .ok form => form.spots entries
    | .error _ => []
  | _ => []

/-- The spots of a schema with given types. -/
def spotsIn (name : Option String) (entries : List (Atom × Value)) (types : List Value) : List Spot :=
  match formOf name entries types with
  | .ok (.copies _) => types.flatMap (spotsForType entries)
  | .ok form => form.spots entries
  | .error _ => []

/-- Where conversion goes from a schema: a reference and the null type alone have no parts. -/
def spotsOf (name : Option String) (entries : List (Atom × Value)) : List Spot :=
  match Entries.field? entries "$ref", typesOf entries with
  | none, .types _ types => spotsIn name entries types
  | _, _ => []

/-- A value with the schemas of a scope rewritten. -/
def Scope.rewrite (g : Value → Option Value) : Scope → Value → Option Value
  | schema, v => g v
  | items, .list members => (members.mapM g).map .list
  | properties, .map inner => (inner.mapM fun property => (g property.2).map (property.1, ·)).map .map
  | _, v => some v

/-- Entries with the schemas at a spot rewritten. -/
def Spot.rewrite (g : Value → Option Value) (spot : Spot) (entries : List (Atom × Value)) :
    Option (List (Atom × Value)) :=
  match Entries.field? entries spot.key with
  | some v => (spot.scope.rewrite g v).map (Entries.replace entries spot.key)
  | none => some entries

/-- Entries with the schemas at several spots rewritten. -/
def rewriteSpots (g : Value → Option Value) : List Spot → List (Atom × Value) → Option (List (Atom × Value))
  | [], entries => some entries
  | spot :: rest, entries => (spot.rewrite g entries).bind (rewriteSpots g rest)

/-- A schema as a function on mappings leaves it, when it is applied to the schema and then to every schema that
conversion visits in what is left, as long as these are not nested deeper than a limit. -/
def rewritten (f : List (Atom × Value) → List (Atom × Value)) : Nat → Option String → Value → Option Value
  | 0, _, _ => none
  | depth + 1, name, .map entries =>
    (rewriteSpots (rewritten f depth none) (spotsOf name (f entries)) (f entries)).map .map
  | _ + 1, _, v => some v

/-- A function on mappings, applied from the top down, makes one schema of another. It makes none where it goes on making
new schemas inside for ever. -/
def RewritesTo (f : List (Atom × Value) → List (Atom × Value)) (name : Option String) (v w : Value) : Prop :=
  ∃ limit, rewritten f limit name v = some w

/-- What the function leaves of a schema that is visited. -/
inductive Leaves (f : List (Atom × Value) → List (Atom × Value)) : Option String → Value → List (Atom × Value) → Prop
  | top {name entries} : Leaves f name (.map entries) (f entries)
  | part {name entries spot part left} (isSpot : spot ∈ spotsOf name (f entries))
    (isPart : part ∈ spot.parts (f entries)) (inside : Leaves f none part left) : Leaves f name (.map entries) left

/-- A reference names a component, and a list of types holds different texts. -/
structure Orderly (entries : List (Atom × Value)) : Prop where
  reference : ∀ target, Entries.field? entries "$ref" = some target →
    ∃ ref component, target = .text ref ∧ Reference.componentName? ref = some component
  types : ∀ listed, Entries.field? entries "type" = some (.list listed) →
    ∃ names : List String, listed = names.map .text ∧ names.Nodup

/-! ### Spots -/

/-- What comes of each of several values. -/
theorem forall₂_of_mapM {α β : Type} {g : α → Option β} {xs : List α} {ys : List β} (mapped : xs.mapM g = some ys) :
    List.Forall₂ (fun x y => g x = some y) xs ys := by
  induction xs generalizing ys with
  | nil =>
    rw [List.mapM_nil] at mapped
    cases mapped
    exact .nil
  | cons x rest ih =>
    rw [List.mapM_cons] at mapped
    obtain ⟨y, first, mapped⟩ := Option.bind_eq_some_iff.mp mapped
    obtain ⟨others, later, mapped⟩ := Option.bind_eq_some_iff.mp mapped
    cases mapped
    exact .cons first (ih later)

private theorem mapM_mono {α β : Type} {first second : α → Option β}
    (more : ∀ a b, first a = some b → second a = some b) {xs : List α} {ys : List β} (mapped : xs.mapM first = some ys) :
    xs.mapM second = some ys := by
  have related := forall₂_of_mapM mapped
  clear mapped
  induction related with
  | nil => rfl
  | cons isFirst _ ih => rw [List.mapM_cons, more _ _ isFirst, ih]; rfl

section

variable {g : Value → Option Value} {entries left : List (Atom × Value)}

theorem rewriteSpots_singleton (spot : Spot) : rewriteSpots g [spot] entries = spot.rewrite g entries := by
  rw [rewriteSpots]
  cases spot.rewrite g entries <;> rfl

theorem rewriteSpots_append (first rest : List Spot) :
    rewriteSpots g (first ++ rest) entries = (rewriteSpots g first entries).bind (rewriteSpots g rest) := by
  induction first generalizing entries with
  | nil => rfl
  | cons spot first ih =>
    rw [List.cons_append, rewriteSpots, rewriteSpots]
    cases spot.rewrite g entries with
    | none => rfl
    | some others => exact ih

/-- What stands at a spot is rewritten in its place. -/
theorem replaced_of_rewrite {key : String} {scope : Scope} {v : Value} (found : Entries.field? entries key = some v)
    (rewritten : (Spot.mk key scope).rewrite g entries = some left) :
    ∃ other, scope.rewrite g v = some other ∧ left = Entries.replace entries key other := by
  simp only [Spot.rewrite, found, Option.map_eq_some_iff] at rewritten
  obtain ⟨other, isOther, rfl⟩ := rewritten
  exact ⟨other, isOther, rfl⟩

/-- Nothing is rewritten but what stands at the spots. -/
theorem field?_rewriteSpots {spots : List Spot} {key : String} (elsewhere : ∀ spot ∈ spots, spot.key ≠ key)
    (rewritten : rewriteSpots g spots entries = some left) : Entries.field? left key = Entries.field? entries key := by
  induction spots generalizing entries with
  | nil => rw [Option.some.inj rewritten]
  | cons spot rest ih =>
    obtain ⟨others, first, second⟩ := Option.bind_eq_some_iff.mp rewritten
    rw [ih (fun spot member => elsewhere spot (List.mem_cons_of_mem _ member)) second]
    unfold Spot.rewrite at first
    split at first
    · obtain ⟨v, -, rfl⟩ := Option.map_eq_some_iff.mp first
      exact Entries.field?_replace_of_ne entries v (elsewhere spot List.mem_cons_self)
    · rw [Option.some.inj first]

/-- Rewriting gives a schema no keys, and takes none. -/
theorem isSome_rewriteSpots {spots : List Spot} (rewritten : rewriteSpots g spots entries = some left) (key : String) :
    (Entries.field? left key).isSome = (Entries.field? entries key).isSome := by
  induction spots generalizing entries with
  | nil => rw [Option.some.inj rewritten]
  | cons spot rest ih =>
    obtain ⟨others, first, second⟩ := Option.bind_eq_some_iff.mp rewritten
    rw [ih second]
    unfold Spot.rewrite at first
    split at first
    · rename_i found
      obtain ⟨v, -, rfl⟩ := Option.map_eq_some_iff.mp first
      by_cases same : spot.key = key
      · subst same
        rw [found, Entries.field?_replace_self entries v (by rw [found]; rfl)]
        rfl
      · rw [Entries.field?_replace_of_ne entries v same]
    · rw [Option.some.inj first]

end

section

variable {g h : Value → Option Value} (more : ∀ v w, g v = some w → h v = some w)

include more

private theorem Scope.rewrite_mono {scope : Scope} {v w : Value} (rewritten : scope.rewrite g v = some w) :
    scope.rewrite h v = some w := by
  cases scope with
  | schema => exact more _ _ rewritten
  | items =>
    cases v with
    | list members =>
      obtain ⟨others, mapped, rfl⟩ := Option.map_eq_some_iff.mp rewritten
      rw [rewrite, mapM_mono more mapped]
      rfl
    | _ => exact rewritten
  | properties =>
    cases v with
    | map inner =>
      have moreUnder : ∀ a b : Atom × Value, (g a.2).map (a.1, ·) = some b → (h a.2).map (a.1, ·) = some b := by
        intro a b isFirst
        obtain ⟨w, isRewritten, rfl⟩ := Option.map_eq_some_iff.mp isFirst
        rw [more _ _ isRewritten]
        rfl
      obtain ⟨others, mapped, rfl⟩ := Option.map_eq_some_iff.mp rewritten
      rw [rewrite, mapM_mono moreUnder mapped]
      rfl
    | _ => exact rewritten

private theorem rewriteSpots_mono {spots : List Spot} {entries left : List (Atom × Value)}
    (rewritten : rewriteSpots g spots entries = some left) : rewriteSpots h spots entries = some left := by
  induction spots generalizing entries with
  | nil => exact rewritten
  | cons spot rest ih =>
    obtain ⟨others, first, second⟩ := Option.bind_eq_some_iff.mp rewritten
    have firstMore : spot.rewrite h entries = some others := by
      unfold Spot.rewrite at first ⊢
      split
      · rename_i found
        rw [found] at first
        obtain ⟨w, isRewritten, rfl⟩ := Option.map_eq_some_iff.mp first
        rw [Scope.rewrite_mono more isRewritten]
        rfl
      · rename_i absent
        rwa [absent] at first
    rw [rewriteSpots, firstMore]
    exact ih second

end

private theorem rewritten_of_le {f : List (Atom × Value) → List (Atom × Value)} {limit more : Nat} (le : limit ≤ more)
    {name : Option String} {v w : Value} (isRewritten : rewritten f limit name v = some w) :
    rewritten f more name v = some w := by
  induction limit generalizing more name v w with
  | zero => cases isRewritten
  | succ limit ih =>
    obtain ⟨more, rfl⟩ : ∃ less, more = less + 1 := ⟨more - 1, by omega⟩
    cases v with
    | map entries =>
      obtain ⟨left, spots, rfl⟩ := Option.map_eq_some_iff.mp isRewritten
      rw [rewritten, rewriteSpots_mono (fun v w => ih (Nat.le_of_succ_le_succ le)) spots]
      rfl
    | _ => exact isRewritten

/-- However deep it is rewritten, there is one schema that another is rewritten to, at most. -/
theorem RewritesTo.unique {f : List (Atom × Value) → List (Atom × Value)} {name : Option String} {v first second : Value}
    (isFirst : RewritesTo f name v first) (isSecond : RewritesTo f name v second) : first = second := by
  obtain ⟨limit, isFirst⟩ := isFirst
  obtain ⟨other, isSecond⟩ := isSecond
  have high := rewritten_of_le (Nat.le_max_left limit other) isFirst
  rw [rewritten_of_le (Nat.le_max_right limit other) isSecond] at high
  exact (Option.some.inj high).symm

end SchemaType

end ClientGen
