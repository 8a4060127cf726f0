import ClientGen.Proofs.Schema.Tracking

/-!
The form of a rewritten schema. Rewriting the parts of a schema leaves its form as it is, but for the parts: the form of
what stands in a store follows the form of the schema that it is rewritten to, if its parts follow what they are
rewritten to (`form_follows`, `kind_follows`). Only a mapping may lose what it says of its values.
-/

namespace ClientGen.SchemaType

open Placed

/-- Wherever a value stands, its conversion with plugins is that of what it is rewritten to without. -/
def Leads (crew : Crew) (document : Value) (g : Value → Option Value) (part : Value) : Prop :=
  ∀ p schema, p.tree = part → g part = some schema → Follows crew document none p schema

section

variable {crew : Crew} {document : Value} {g : Value → Option Value} {entries : List (Atom × Placed)}
  {left : List (Atom × Value)} {name : Option String} {form : Form}

private theorem follows_items {items : List Placed} {schemas : List Value} (mapped : (trees items).mapM g = some schemas)
    (each : ∀ part ∈ trees items, Leads crew document g part) :
    List.Forall₂ (Follows crew document none) items schemas := by
  have related := forall₂_of_mapM mapped
  rw [trees_eq, List.forall₂_map_left_iff] at related
  rw [trees_eq, List.forall_mem_map] at each
  exact ((List.forall₂_and_left items schemas).mpr ⟨each, related⟩).imp fun p schema both => both.1 p schema rfl both.2

private theorem follows_inner {inner : List (Atom × Placed)} {properties : List (Atom × Value)}
    (mapped : (treesUnder inner).mapM (fun property => (g property.2).map (property.1, ·)) = some properties)
    (each : ∀ part ∈ (treesUnder inner).map (·.2), Leads crew document g part) :
    List.Forall₂ (fun p property => property.1 = p.1 ∧ Follows crew document none p.2 property.2) inner properties := by
  have related := forall₂_of_mapM mapped
  rw [treesUnder_eq, Entries.mapValues, List.forall₂_map_left_iff] at related
  rw [treesUnder_eq, Entries.map_snd_mapValues, List.map_map, List.forall_mem_map] at each
  refine ((List.forall₂_and_left inner properties).mpr ⟨each, related⟩).imp fun p property both => ?_
  obtain ⟨schema, isSchema, rfl⟩ := Option.map_eq_some_iff.mp both.2
  exact ⟨rfl, both.1 p.2 schema rfl isSchema⟩

/-- What is said of a form and the entries that its schema is rewritten to: the form follows another, and conversion
visits one spot of it, at most. -/
structure Outcome (crew : Crew) (document : Value) (entries : List (Atom × Placed)) (left : List (Atom × Value))
    (form other : Form) (visit : Option (String × Value)) : Prop where
  follows : form.Follows crew document entries other visit
  isLeft : left = afterVisit (treesUnder entries) visit
  atSpot : ∀ key v, visit = some (key, v) → ∃ spot ∈ form.spots (treesUnder entries), spot.key = key

/-- What a visit turns something into stands there in the end. -/
theorem Outcome.visited {other : Form} {key : String} {v : Value}
    (outcome : Outcome crew document entries left form other (some (key, v))) : Entries.field? left key = some v := by
  have present : (Entries.field? (treesUnder entries) key).isSome = true := by
    rw [field?_treesUnder, Option.isSome_map]
    cases outcome.follows <;> simp_all only [Option.isSome_some]
  rw [outcome.isLeft]
  exact Entries.field?_replace_self _ v present

/-- Rewriting at the only spot of a form. -/
private theorem rewritten_at {key : String} {scope : Scope} {p : Placed} (found : Entries.field? entries key = some p)
    (isSpot : form.spots (treesUnder entries) = [⟨key, scope⟩])
    (rewritten : rewriteSpots g (form.spots (treesUnder entries)) (treesUnder entries) = some left) :
    ∃ v, scope.rewrite g p.tree = some v ∧ left = Entries.replace (treesUnder entries) key v := by
  rw [isSpot, rewriteSpots_singleton] at rewritten
  exact replaced_of_rewrite (by rw [field?_treesUnder, found]; rfl) rewritten

/-- Only what stands at the only spot of a form is visited. -/
private theorem outcome_at {key : String} {scope : Scope} {v : Value} {other : Form}
    (isSpot : form.spots (treesUnder entries) = [⟨key, scope⟩])
    (follows : form.Follows crew document entries other (some (key, v))) :
    Outcome crew document entries (Entries.replace (treesUnder entries) key v) form other (some (key, v)) where
  follows := follows
  isLeft := rfl
  atSpot := by
    rintro _ _ ⟨⟩
    exact ⟨⟨key, scope⟩, by rw [isSpot]; exact List.mem_singleton_self _, rfl⟩

/-- Where nothing is visited, the entries stay. -/
private theorem outcome_unvisited {other : Form} (follows : form.Follows crew document entries other none) :
    Outcome crew document entries (treesUnder entries) form other none where
  follows := follows
  isLeft := rfl
  atSpot := by
    intro key v isVisit
    cases isVisit

private theorem field?_replaced {key : String} {p : Placed} (found : Entries.field? entries key = some p) (v : Value) :
    Entries.field? (Entries.replace (treesUnder entries) key v) key = some v :=
  Entries.field?_replace_self _ v (by rw [field?_treesUnder, found]; rfl)

/-- The form of an array follows that of what the array is rewritten to. -/
private theorem array_follows
    (rewritten : rewriteSpots g ((Form.array (Entries.field? (treesUnder entries) "items")).spots (treesUnder entries))
      (treesUnder entries) = some left)
    (each : ∀ p, Entries.field? entries "items" = some p → Leads crew document g p.tree) :
    ∃ visit, Outcome crew document entries left (.array (Entries.field? (treesUnder entries) "items"))
      (.array (Entries.field? left "items")) visit := by
  rw [field?_treesUnder] at rewritten ⊢
  cases found : Entries.field? entries "items" with
  | none =>
    rw [found] at rewritten
    cases rewritten
    rw [field?_treesUnder, found]
    exact ⟨none, outcome_unvisited .arrayOfAny⟩
  | some p =>
    rw [found] at rewritten
    obtain ⟨schema, isSchema, rfl⟩ := rewritten_at found rfl rewritten
    rw [field?_replaced found]
    exact ⟨_, outcome_at rfl (.array found (each p found p schema rfl isSchema))⟩

/-- The form of a record follows that of what the record is rewritten to. -/
private theorem record_follows {required : List Value} {inner : List (Atom × Placed)}
    (declared : innerAt entries "properties" = some inner)
    (rewritten : rewriteSpots g ((Form.record required (treesUnder inner)).spots (treesUnder entries))
      (treesUnder entries) = some left)
    (each : ∀ part ∈ (treesUnder inner).map (·.2), Leads crew document g part) :
    ∃ properties visit, Outcome crew document entries left (.record required (treesUnder inner))
      (.record required properties) visit ∧ entriesAt left "properties" = some properties := by
  obtain ⟨at_, found⟩ := map_of_innerAt declared
  obtain ⟨v, isMap, rfl⟩ := rewritten_at found rfl rewritten
  obtain ⟨properties, mapped, rfl⟩ := Option.map_eq_some_iff.mp isMap
  have follows := follows_inner mapped each
  refine ⟨properties, _, outcome_at rfl (.record found follows), ?_⟩
  have some : properties ≠ [] := by
    rintro rfl
    cases follows
    rw [innerAt, found] at declared
    cases declared
  exact entriesAt_eq_some.mpr ⟨field?_replaced found _, some⟩

/-- Mappings are rewritten to mappings. -/
def KeepsMaps (g : Value → Option Value) : Prop := ∀ inner v, g (.map inner) = some v → ∃ others, v = .map others

/-- The form of a mapping follows that of what the mapping is rewritten to. -/
private theorem mapping_follows (keeps : KeepsMaps g)
    (rewritten : rewriteSpots g
      ((Form.mapping (((innerAt entries "additionalProperties").map treesUnder).map .map)).spots (treesUnder entries))
      (treesUnder entries) = some left)
    (each : ∀ inner, innerAt entries "additionalProperties" = some inner →
      Leads crew document g (.map (treesUnder inner))) :
    ∃ visit, Outcome crew document entries left
      (.mapping (((innerAt entries "additionalProperties").map treesUnder).map .map))
      (.mapping ((entriesAt left "additionalProperties").map .map)) visit := by
  cases additional : innerAt entries "additionalProperties" with
  | none =>
    rw [additional] at rewritten
    cases rewritten
    rw [entriesAt_treesUnder, additional]
    exact ⟨none, outcome_unvisited .mappingToAny⟩
  | some inner =>
    rw [additional] at rewritten
    obtain ⟨at_, found⟩ := map_of_innerAt additional
    obtain ⟨v, isMap, rfl⟩ := rewritten_at found rfl rewritten
    obtain ⟨others, rfl⟩ := keeps _ v isMap
    have follows := each inner additional (.map at_ inner) _ rfl isMap
    rw [entriesAt, field?_replaced found]
    cases others with
    | nil => exact ⟨_, outcome_at rfl (.emptied found follows)⟩
    | cons entry rest => exact ⟨_, outcome_at rfl (.mapping found follows)⟩

/-- The form of a schema of one kind follows that of what the schema is rewritten to. -/
theorem kind_follows {kind : Kind} (keeps : KeepsMaps g) (formed : kindForm name (treesUnder entries) kind = .ok form)
    (rewritten : rewriteSpots g (form.spots (treesUnder entries)) (treesUnder entries) = some left)
    (each : ∀ spot ∈ form.spots (treesUnder entries), ∀ part ∈ spot.parts (treesUnder entries),
      Leads crew document g part) :
    ∃ other visit, Outcome crew document entries left form other visit ∧ kindForm name left kind = .ok other := by
  unfold kindForm at formed
  split at formed
  · cases formed
    obtain ⟨visit, outcome⟩ := array_follows rewritten fun p found => by
      have here : Entries.field? (treesUnder entries) "items" = some p.tree := by rw [field?_treesUnder, found]; rfl
      rw [here] at each
      exact each _ (List.mem_singleton_self _) p.tree (by simp [Spot.parts, here])
    exact ⟨_, visit, outcome, rfl⟩
  · rw [objectForm_treesUnder] at formed
    cases record : name.bind fun _ => innerAt entries "properties" with
    | some inner =>
      obtain ⟨own, rfl, declared⟩ := Option.bind_eq_some_iff.mp record
      simp only [record] at formed
      obtain ⟨required, listed, formed⟩ := bind_eq_ok.mp formed
      cases formed
      obtain ⟨at_, found⟩ := map_of_innerAt declared
      have here : Entries.field? (treesUnder entries) "properties" = some (.map (treesUnder inner)) := by
        rw [field?_treesUnder, found]
        rfl
      obtain ⟨properties, visit, outcome, declaredThere⟩ := record_follows declared rewritten fun part member =>
        each _ (List.mem_singleton_self _) part (by simpa [Spot.parts, here] using member)
      have sameRequired : Entries.field? left "required" = Entries.field? (treesUnder entries) "required" :=
        field?_rewriteSpots (by simp [Form.spots]) rewritten
      refine ⟨_, visit, outcome, ?_⟩
      simp only [kindForm, objectForm, declaredThere, sameRequired, listed, except_bind_ok, except_pure]
    | none =>
      simp only [record] at formed
      cases formed
      obtain ⟨visit, outcome⟩ := mapping_follows keeps rewritten fun inner additional => by
        obtain ⟨at_, found⟩ := map_of_innerAt additional
        have here : Entries.field? (treesUnder entries) "additionalProperties" = some (.map (treesUnder inner)) := by
          rw [field?_treesUnder, found]
          rfl
        rw [additional] at each
        exact each _ (List.mem_singleton_self _) _ (by simp [Spot.parts, here])
      have same : Entries.field? left "properties" = Entries.field? (treesUnder entries) "properties" := by
        refine field?_rewriteSpots ?_ rewritten
        cases innerAt entries "additionalProperties" <;> simp [Form.spots]
      refine ⟨_, visit, outcome, ?_⟩
      cases name with
      | none => rfl
      | some own =>
        have noRecord : entriesAt left "properties" = none := by
          rw [entriesAt, same, ← entriesAt, entriesAt_treesUnder]
          simpa using record
        simp only [kindForm, objectForm, noRecord]
  · cases formed
    cases rewritten
    rename_i noArray noObject
    exact ⟨_, none, outcome_unvisited .simple, by simp [kindForm]⟩
  · cases formed
    cases rewritten
    exact ⟨_, none, outcome_unvisited .simple, by simp [kindForm]⟩

/-- The members of a combination follow what they are rewritten to. -/
private theorem members_follow {key : String} {members : List Value}
    (stated : membersAt (treesUnder entries) key = some members)
    (isSpot : form.spots (treesUnder entries) = [⟨key, .items⟩])
    (rewritten : rewriteSpots g (form.spots (treesUnder entries)) (treesUnder entries) = some left)
    (each : ∀ spot ∈ form.spots (treesUnder entries), ∀ part ∈ spot.parts (treesUnder entries),
      Leads crew document g part) :
    ∃ id items schemas, members = trees items ∧ Entries.field? entries key = some (.list id items) ∧
      List.Forall₂ (Follows crew document none) items schemas ∧
      left = Entries.replace (treesUnder entries) key (.list schemas) ∧ membersAt left key = some schemas := by
  obtain ⟨id, items, found, rfl⟩ := list_of_membersAt stated
  obtain ⟨v, isList, rfl⟩ := rewritten_at found isSpot rewritten
  obtain ⟨schemas, mapped, rfl⟩ := Option.map_eq_some_iff.mp isList
  have here : Entries.field? (treesUnder entries) key = some (.list (trees items)) := (membersAt_eq_some.mp stated).1
  have follows := follows_items mapped fun part member =>
    each ⟨key, .items⟩ (by rw [isSpot]; exact List.mem_singleton_self _) part (by simpa [Spot.parts, here] using member)
  refine ⟨id, items, schemas, rfl, found, follows, rfl, membersAt_eq_some.mpr ⟨field?_replaced found _, ?_⟩⟩
  rintro rfl
  cases follows
  exact (membersAt_eq_some.mp stated).2 rfl

/-- Where other members replace the alternatives, those are the alternatives. -/
private theorem alternativesKey_replace {inner : List (Atom × Value)} {v : Value} {members : List Value}
    (there : membersAt (Entries.replace inner (alternativesKey inner) v) (alternativesKey inner) = some members) :
    alternativesKey (Entries.replace inner (alternativesKey inner) v) = alternativesKey inner := by
  cases oneOf : (membersAt inner "oneOf").isSome with
  | true =>
    have isKey : alternativesKey inner = "oneOf" := by rw [alternativesKey, oneOf, if_pos rfl]
    rw [isKey] at there ⊢
    rw [alternativesKey, there, Option.isSome_some, if_pos rfl]
  | false =>
    have isKey : alternativesKey inner = "anyOf" := by rw [alternativesKey, oneOf, if_neg Bool.false_ne_true]
    have same := membersAt_congr (Entries.field?_replace_of_ne inner v (show "anyOf" ≠ "oneOf" by decide))
    rw [isKey, alternativesKey, same, oneOf, if_neg Bool.false_ne_true]

/-- The form of a combination follows that of what the combination is rewritten to. -/
private theorem combination_follows (combination : combinationOf (treesUnder entries) = some form)
    (rewritten : rewriteSpots g (form.spots (treesUnder entries)) (treesUnder entries) = some left)
    (each : ∀ spot ∈ form.spots (treesUnder entries), ∀ part ∈ spot.parts (treesUnder entries),
      Leads crew document g part) :
    ∃ other visit, Outcome crew document entries left form other visit ∧ combinationOf left = some other := by
  rw [combinationOf_eq] at combination
  cases alternatives : membersAt (treesUnder entries) (alternativesKey (treesUnder entries)) with
  | some members =>
    rw [alternatives] at combination
    obtain rfl := Option.some.inj combination
    obtain ⟨id, items, schemas, rfl, found, follows, rfl, there⟩ := members_follow alternatives rfl rewritten each
    refine ⟨_, _, outcome_at rfl (.union found follows), ?_⟩
    rw [combinationOf_eq, alternativesKey_replace there, there]
  | none =>
    rw [alternatives] at combination
    obtain ⟨members, conjuncts, rfl⟩ := Option.map_eq_some_iff.mp combination
    obtain ⟨id, items, schemas, rfl, found, follows, rfl, there⟩ := members_follow conjuncts rfl rewritten each
    have same : ∀ key ≠ "allOf", membersAt (Entries.replace (treesUnder entries) "allOf" (.list schemas)) key =
        membersAt (treesUnder entries) key := fun key other =>
      membersAt_congr (Entries.field?_replace_of_ne _ _ other.symm)
    have sameKey : alternativesKey (Entries.replace (treesUnder entries) "allOf" (.list schemas)) =
        alternativesKey (treesUnder entries) := by
      rw [alternativesKey, same "oneOf" (by decide), ← alternativesKey]
    have noAlternatives : alternativesKey (treesUnder entries) ≠ "allOf" := by
      rw [alternativesKey]
      split <;> decide
    refine ⟨_, _, outcome_at rfl (.conjunction found follows), ?_⟩
    rw [combinationOf_eq, sameKey, same _ noAlternatives, alternatives, there]
    rfl

/-- The form of a schema follows that of what the schema is rewritten to, unless the schema lists several types. -/
theorem form_follows {types : List Value} (keeps : KeepsMaps g) (formed : formOf name (treesUnder entries) types = .ok form)
    (noCopies : ∀ copies, form ≠ .copies copies)
    (rewritten : rewriteSpots g (form.spots (treesUnder entries)) (treesUnder entries) = some left)
    (each : ∀ spot ∈ form.spots (treesUnder entries), ∀ part ∈ spot.parts (treesUnder entries),
      Leads crew document g part) :
    ∃ other visit, Outcome crew document entries left form other visit ∧ formOf name left types = .ok other := by
  rcases formOf_cases name (treesUnder entries) types with
    ⟨values, isLiterals⟩ | ⟨listed, const, combined, isCombined⟩ | isOpen
  · obtain rfl : Form.literals values = form := Except.ok.inj (isLiterals.symm.trans formed)
    cases rewritten
    exact ⟨_, none, outcome_unvisited .literals, formed⟩
  · have isForm : combined = form := by
      rw [formOf_of_combination listed const isCombined] at formed
      exact Except.ok.inj formed
    subst isForm
    obtain ⟨other, visit, outcome, there⟩ := combination_follows isCombined rewritten each
    have same : ∀ key ∉ partKeys, Entries.field? left key = Entries.field? (treesUnder entries) key := fun key other =>
      field?_rewriteSpots (fun spot isSpot isKey => other (isKey ▸ Form.spots_key isSpot)) rewritten
    refine ⟨other, visit, outcome, formOf_of_combination ?_ ?_ there⟩
    · rw [listedValues_congr (same "enum" (by decide)), listed]
    · rw [same "const" (by decide), const]
  · rw [formOf_of_open isOpen] at formed
    split at formed
    · cases formed
      exact absurd rfl (noCopies _)
    · rename_i few
      obtain ⟨kind, isKind, formed⟩ := bind_eq_ok.mp formed
      obtain ⟨other, visit, outcome, there⟩ := kind_follows keeps formed rewritten each
      obtain ⟨spots, areSpots, inner⟩ := kindForm_spots formed
      have same : ∀ key ∉ innerKeys, Entries.field? left key = Entries.field? (treesUnder entries) key := fun key other =>
        field?_rewriteSpots (fun spot isSpot isKey => other (isKey ▸ inner spot (areSpots _ ▸ isSpot))) rewritten
      have stillOpen : IsOpen left := isOpen.congr fun key isKey => same key (by revert key; decide)
      refine ⟨other, visit, outcome, ?_⟩
      rw [formOf_of_open stillOpen, if_neg few, kindIn_congr (isSome_rewriteSpots rewritten "properties"), isKind,
        except_bind_ok, there]

end

end ClientGen.SchemaType
