import ClientGen.Proofs.Reference.Chain
import ClientGen.Proofs.Schema.Nesting
import Mathlib.Algebra.Order.BigOperators.Group.List
import Mathlib.Algebra.Order.Ring.Nat
import Mathlib.Algebra.Order.Ring.Unbundled.Basic

/-!
The budget of conversion. A conversion that comes to a result before its steps are used up comes to the same result with
any more steps (`convert_mono`), and if it does with any number of steps, it does within the budget
(`convert_of_budget`).

For the second, steps are counted along the schemas that have come to a result with a number of steps (`stepsWithin`). A
schema that has not, but does with one step more, needs no more steps beyond those than its own layer asks for, and all
its parts are among the others. References may lead around in the document as they like: each schema is counted once.
-/

namespace ClientGen.SchemaType

open Entries

mutual

/-- How many steps the types of a schema ask for: lists of types can hold lists of types. -/
def typeSteps : Value → Nat
  | .list items => typesSteps items + 3
  | _ => 0

def typesSteps : List Value → Nat
  | [] => 0
  | type :: rest => typeSteps type + 1 + typesSteps rest

end

/-- How many steps the types that a schema states ask for. -/
def statedSteps (entries : List (Atom × Value)) : Nat := ((field? entries "type").map typeSteps).getD 0

/-- How many parts, or steps for types, a value under a key of a schema can stand for. -/
def spread : Value → Nat
  | .map entries => entries.length
  | v => typeSteps v

/-- The same of all values under the keys of a schema together. -/
def spreadUnder (entries : List (Atom × Value)) : Nat := (entries.map (spread ·.2)).sum

/-- The steps that the layer of a schema asks for, beyond those for its parts. -/
def layerSteps : Value → Nat
  | .map entries => 2 * spreadUnder entries + 4
  | _ => 0

/-- The steps that the layers of all schemas in a value ask for. -/
def allSteps (v : Value) : Nat := (v.contents.map layerSteps).sum

/-- A schema has fewer members and properties than a bound. -/
structure Narrow (width : Nat) (entries : List (Atom × Value)) : Prop where
  members : ∀ key ∈ ["oneOf", "anyOf", "allOf"], ∀ members, membersAt entries key = some members →
    members.length < width
  declared : (declaredIn entries).length < width

/-- A result is that of a conversion with more steps, unless the steps have run out. -/
def Extends {α : Type} (result more : Except Fault α) : Prop := result = .error tooDeep ∨ more = result

section

variable {α β : Type} {result more : Except Fault α}

theorem Extends.refl (result : Except Fault α) : Extends result result := .inr rfl

theorem Extends.bind {f g : α → Except Fault β} (extends_ : Extends result more) (onward : ∀ a, Extends (f a) (g a)) :
    Extends (result >>= f) (more >>= g) := by
  rcases extends_ with rfl | rfl
  · exact .inl rfl
  · cases more with
    | error fault => exact .inr rfl
    | ok a => exact onward a

theorem Extends.map (f : α → β) (extends_ : Extends result more) : Extends (f <$> result) (f <$> more) := by
  rcases extends_ with rfl | rfl
  · exact .inl rfl
  · exact .inr rfl

end

/-- A part converts as it does with fewer steps than a bound, if there are at least as many or as many as a base. -/
def Lifts (document : Value) (bound base : Nat) (part : Value) : Prop :=
  ∀ less ≤ bound, ∀ more, less ≤ more ∨ base ≤ more →
    Extends (convert document less none part) (convert document more none part)

section

variable {document : Value} {entries : List (Atom × Value)} {types : List Value} {name : Option String}
  {fuel more base : Nat}

theorem convertItems_extends {items : List Value} (index : Nat) (parts : ∀ item ∈ items, Lifts document fuel base item)
    (enough : fuel ≤ more ∨ base + (items.length - index) < more) :
    Extends (convertItems document fuel (.list items) index) (convertItems document more (.list items) index) := by
  induction fuel generalizing more index with
  | zero => exact .inl rfl
  | succ fuel ih =>
    obtain ⟨more, rfl⟩ : ∃ less, more = less + 1 := ⟨more - 1, by omega⟩
    rw [convertItems_list, convertItems_list]
    cases rest : items.drop index with
    | nil => exact .refl _
    | cons item others =>
      have isItem : item ∈ items := List.mem_of_mem_drop (rest ▸ List.mem_cons_self)
      have within : index < items.length := by
        have := congrArg List.length rest
        rw [List.length_drop, List.length_cons] at this
        omega
      have parts' : ∀ item ∈ items, Lifts document fuel base item :=
        fun item isItem less bound => parts item isItem less (Nat.le_succ_of_le bound)
      refine (parts item isItem fuel (Nat.le_succ _) more (by omega)).bind fun type => ?_
      exact (ih (index + 1) parts' (by omega)).bind fun _ => .refl _

theorem convertProperties_extends {required : List Value} {properties : List (Atom × Value)}
    (parts : ∀ property ∈ properties, Lifts document fuel base property.2)
    (enough : fuel ≤ more ∨ base + properties.length < more) :
    Extends (convertProperties document fuel required properties)
      (convertProperties document more required properties) := by
  induction properties generalizing fuel more with
  | nil =>
    cases fuel with
    | zero => exact .inl rfl
    | succ fuel =>
      obtain ⟨more, rfl⟩ : ∃ less, more = less + 1 := ⟨more - 1, by omega⟩
      exact .refl _
  | cons property rest ih =>
    cases fuel with
    | zero => exact .inl rfl
    | succ fuel =>
      obtain ⟨more, rfl⟩ : ∃ less, more = less + 1 := ⟨more - 1, by omega⟩
      rw [List.length_cons] at enough
      have first := parts property List.mem_cons_self
      have others : ∀ property ∈ rest, Lifts document fuel base property.2 := fun property isProperty less bound =>
        parts property (List.mem_cons_of_mem _ isProperty) less (Nat.le_succ_of_le bound)
      refine (first fuel (Nat.le_succ _) more (by omega)).bind fun type => ?_
      exact (ih others (by omega)).bind fun _ => .refl _

theorem typesSteps_filter_le (types : List Value) (keep : Value → Bool) :
    typesSteps (types.filter keep) ≤ typesSteps types := by
  induction types with
  | nil => exact Nat.le_refl _
  | cons type rest ih =>
    rw [List.filter_cons]
    split
    · simp only [typesSteps]
      omega
    · simp only [typesSteps]
      omega

theorem typeSteps_lt {type : Value} {types : List Value} (listed : type ∈ types) : typeSteps type < typesSteps types := by
  induction types with
  | nil => cases listed
  | cons first rest ih =>
    rw [typesSteps]
    rcases List.mem_cons.mp listed with rfl | later
    · omega
    · have := ih later
      omega

theorem convertCopies_extends {entries : List (Atom × Value)} {types : List Value}
    (copies : ∀ type ∈ types, ∀ less < fuel, ∀ more, less ≤ more ∨ base + typeSteps type ≤ more →
      Extends (unannounced document less none (retypedTo entries type))
        (unannounced document more none (retypedTo entries type)))
    (enough : fuel ≤ more ∨ base + typesSteps types < more) :
    Extends (convertCopies document fuel (types.map (retypedTo entries)))
      (convertCopies document more (types.map (retypedTo entries))) := by
  induction types generalizing fuel more with
  | nil =>
    cases fuel with
    | zero => exact .inl rfl
    | succ fuel =>
      obtain ⟨more, rfl⟩ : ∃ less, more = less + 1 := ⟨more - 1, by omega⟩
      exact .refl _
  | cons type rest ih =>
    cases fuel with
    | zero => exact .inl rfl
    | succ fuel =>
      obtain ⟨more, rfl⟩ : ∃ less, more = less + 1 := ⟨more - 1, by omega⟩
      rw [typesSteps] at enough
      have first := copies type List.mem_cons_self fuel (Nat.lt_succ_self _) more (by omega)
      refine first.bind fun _ => ?_
      refine (ih (fun type listed less bound => copies type (List.mem_cons_of_mem _ listed) less ?_) (by omega)).bind
        fun _ => .refl _
      exact Nat.lt_succ_of_lt bound

/-- Where there are several types, the schema lists them. -/
theorem typesSteps_le_of_several {nullable : Bool} (typed : typesOf entries = .types nullable types)
    (several : 1 < types.length) : typesSteps types + 3 ≤ statedSteps entries := by
  unfold typesOf at typed
  split at typed
  · rename_i items listed
    cases typed
    rw [statedSteps, listed]
    exact Nat.add_le_add_right (typesSteps_filter_le _ _) 3
  · cases typed
  · cases typed
    simp at several
  · cases typed
    simp at several

theorem Narrow.copy {width : Nat} (narrow : Narrow width entries) (type : Value) :
    Narrow width (retypedEntries entries type (.bool false)) where
  members key isKey members stated := by
    rw [membersAt_retyped entries type (by rintro rfl; simp at isKey) (by rintro rfl; simp at isKey)] at stated
    exact narrow.members key isKey members stated
  declared := by
    rw [declaredIn_retyped]
    exact narrow.declared

private theorem build_extends {width : Nat} {form : Form} (formed : formOf name entries types = .ok form)
    (narrow : Narrow width entries) (parts : ∀ part, Within entries part → Lifts document fuel base part)
    (copies : 1 < types.length → ∀ type ∈ types, ∀ less < fuel, ∀ more,
      less ≤ more ∨ base + width + 2 + typeSteps type ≤ more →
        Extends (unannounced document less none (retypedTo entries type))
          (unannounced document more none (retypedTo entries type)))
    (enough : fuel ≤ more ∨ base + width ≤ more)
    (enoughForCopies : 1 < types.length → fuel ≤ more ∨ base + width + 2 + typesSteps types < more) :
    Extends (form.build document fuel name) (form.build document more name) := by
  have isFormed := formed_of_formOf formed
  cases isFormed with
  | listed | const | primitive | anything => exact .refl _
  | @union key members alternative stated =>
    have isKey : key ∈ ["oneOf", "anyOf", "allOf"] := by rcases alternative with rfl | rfl <;> decide
    have few := narrow.members key isKey members stated
    exact (convertItems_extends 0 (fun item isItem => parts item (.member isKey stated isItem)) (by omega)).map _
  | @conjunction members stated =>
    have few := narrow.members "allOf" (by decide) members stated
    exact (convertItems_extends 0 (fun item isItem => parts item (.member (by decide) stated isItem)) (by omega)).map _
  | copies several => exact (convertCopies_extends (copies several) (enoughForCopies several)).map _
  | array =>
    cases stated : field? entries "items" with
    | none => exact .refl _
    | some items => exact (parts items (.items stated) fuel (Nat.le_refl _) more (by omega)).map _
  | record _ _ _ declared =>
    have few := narrow.declared
    rw [declaredIn_eq declared] at few
    refine (convertProperties_extends (fun property isProperty => parts _ (.declared ?_)) (by omega)).map _
    rwa [declaredIn_eq declared]
  | mapping =>
    cases stated : entriesAt entries "additionalProperties" with
    | none => exact .refl _
    | some inner =>
      have within := Within.additional (entriesAt_eq_some.mp stated).1
      exact (parts _ within fuel (Nat.le_refl _) more (by omega)).map _

/-- Steps that suffice beyond those for the parts of a schema. -/
theorem unannounced_extends {width : Nat} (narrow : Narrow width entries)
    (parts : ∀ part, Within entries part → Lifts document fuel base part)
    (target : ∀ target found, field? entries "$ref" = some target →
      (Reference.deref (.map entries) document : Except Fault Value) = .ok found →
      ∀ less < fuel, ∀ more, less ≤ more ∨ base ≤ more →
        Extends (unannounced document less name found) (unannounced document more name found))
    (enough : fuel ≤ more ∨ base + width + 2 + statedSteps entries ≤ more) :
    Extends (unannounced document fuel name (.map entries)) (unannounced document more name (.map entries)) := by
  induction steps : statedSteps entries using Nat.strongRecOn generalizing entries name fuel more with
  | ind n ih =>
    cases fuel with
    | zero => exact .inl rfl
    | succ fuel =>
      obtain ⟨more, rfl⟩ : ∃ less, more = less + 1 := ⟨more - 1, by omega⟩
      rw [unannounced_map, unannounced_map]
      cases reference : field? entries "$ref" with
      | some ref =>
        dsimp only
        cases component? ref.shape with
        | error fault => exact .refl _
        | ok component =>
          cases component with
          | some component => exact .refl _
          | none =>
            simp only [except_bind_ok]
            cases followed : (Reference.deref (.map entries) document : Except Fault Value) with
            | error fault => exact .refl _
            | ok found => exact target ref found reference followed fuel (Nat.lt_succ_self _) more (by omega)
      | none =>
        dsimp only
        cases typed : typesOf entries with
        | nullOnly => exact .refl _
        | types nullable types =>
          refine Extends.map _ ?_
          cases fuel with
          | zero => exact .inl rfl
          | succ fuel =>
            obtain ⟨more, rfl⟩ : ∃ less, more = less + 1 := ⟨more - 1, by omega⟩
            rw [shaped_map, shaped_map]
            cases formed : formOf name entries types with
            | error fault => exact .refl _
            | ok form =>
              have parts' : ∀ part, Within entries part → Lifts document fuel base part :=
                fun part within less bound => parts part within less (by omega)
              refine build_extends formed narrow parts' ?_ (by omega) fun several => ?_
              · intro several type listed less bound more enough
                have fewer := Nat.lt_of_lt_of_le (typeSteps_lt listed) (Nat.le_of_add_right_le
                  (typesSteps_le_of_several typed several))
                have stated : statedSteps (retypedEntries entries type (.bool false)) = typeSteps type := by
                  rw [statedSteps, type_retyped]
                  rfl
                refine ih (typeSteps type) (steps ▸ fewer) (narrow.copy type) (fun part within => ?_)
                  (fun _ _ isReference => ?_) (by rwa [stated]) stated
                · exact fun less' bound' => parts part (within_retyped within) less' (by omega)
                · rw [field?_retyped entries type (by decide) (by decide), reference] at isReference
                  cases isReference
              · have := typesSteps_le_of_several typed several
                omega

theorem spread_le {key : String} {v : Value} (stated : field? entries key = some v) : spread v ≤ spreadUnder entries := by
  obtain ⟨entry, isEntry, rfl⟩ := Option.map_eq_some_iff.mp stated
  exact List.le_sum_of_mem (List.mem_map_of_mem (List.mem_of_find?_eq_some isEntry))

theorem typeSteps_le_spread (v : Value) : typeSteps v ≤ spread v := by
  cases v <;> simp [spread, typeSteps]

theorem statedSteps_le (entries : List (Atom × Value)) : statedSteps entries ≤ spreadUnder entries := by
  unfold statedSteps
  cases stated : field? entries "type" with
  | none => exact Nat.zero_le _
  | some type => exact Nat.le_trans (typeSteps_le_spread type) (spread_le stated)

theorem length_le_typesSteps (types : List Value) : types.length ≤ typesSteps types := by
  induction types with
  | nil => exact Nat.le_refl 0
  | cons type rest ih =>
    rw [typesSteps, List.length_cons]
    omega

theorem narrow_spread (entries : List (Atom × Value)) : Narrow (spreadUnder entries + 1) entries where
  members key _ members stated := by
    have spreads := spread_le (membersAt_eq_some.mp stated).1
    have few := length_le_typesSteps members
    simp only [spread, typeSteps] at spreads
    omega
  declared := by
    unfold declaredIn
    split
    · rename_i properties stated
      exact Nat.lt_succ_of_le (spread_le stated)
    · exact Nat.succ_pos _

theorem eq_map_of_isMap {v : Value} (isMap : v.shape.isMap = true) : ∃ entries, v = .map entries := by
  cases v <;> simp [Shape.isMap] at isMap ⊢

/-- A schema that is no mapping converts in one step, so that it is enough to look into mappings. -/
theorem convert_extends {schema : Value}
    (inside : ∀ entries, schema = .map entries →
      Extends (unannounced document fuel name (.map entries)) (unannounced document more name (.map entries))) :
    Extends (convert document (fuel + 1) name schema) (convert document (more + 1) name schema) := by
  cases isMap : schema.shape.isMap with
  | false =>
    rw [convert_of_not_map name document fuel isMap, convert_of_not_map name document more isMap]
    exact .refl _
  | true =>
    obtain ⟨entries, rfl⟩ := eq_map_of_isMap isMap
    rw [convert_map, convert_map]
    exact inside entries rfl

/-- What is no mapping is not read as a schema, whatever the number of steps. -/
theorem unannounced_extends_of_map {found : Value} (some : fuel = 0 ∨ 0 < more)
    (inside : ∀ entries, found = .map entries →
      Extends (unannounced document fuel name (.map entries)) (unannounced document more name (.map entries))) :
    Extends (unannounced document fuel name found) (unannounced document more name found) := by
  cases isMap : found.shape.isMap with
  | true =>
    obtain ⟨entries, rfl⟩ := eq_map_of_isMap isMap
    exact inside entries rfl
  | false =>
    cases fuel with
    | zero => exact .inl rfl
    | succ fuel =>
      obtain ⟨more, rfl⟩ : ∃ less, more = less + 1 := ⟨more - 1, by omega⟩
      have refused : ∀ less, ∃ fault, reference? found = Except.error fault ∧
          (unannounced document (less + 1) name found : Except Fault Expr) = .error fault := by
        intro less
        cases isReference : (reference? found : Except Fault (Option Value)) with
        | ok target => exact absurd isReference (reference?_of_not_map isMap target)
        | error fault => exact ⟨fault, rfl, by rw [unannounced, isReference]; rfl⟩
      obtain ⟨fault, isFault, first⟩ := refused fuel
      obtain ⟨fault', isFault', second⟩ := refused more
      cases isFault.symm.trans isFault'
      rw [first, second]
      exact .refl _

theorem unannounced_extends_of_convert {found : Value} (some : fuel = 0 ∨ 0 < more)
    (converted : Extends (convert document (fuel + 1) name found) (convert document (more + 1) name found)) :
    Extends (unannounced document fuel name found) (unannounced document more name found) := by
  refine unannounced_extends_of_map some fun entries isMap => ?_
  rw [isMap] at converted
  rwa [convert_map, convert_map] at converted

/-- A conversion that comes to a result comes to the same with more steps. -/
theorem convert_mono {schema : Value} (enough : fuel ≤ more) :
    Extends (convert document fuel name schema) (convert document more name schema) := by
  induction fuel using Nat.strongRecOn generalizing more name schema with
  | ind fuel ih =>
    cases fuel with
    | zero => exact .inl rfl
    | succ fuel =>
      obtain ⟨more, rfl⟩ : ∃ less, more = less + 1 := ⟨more - 1, by omega⟩
      refine convert_extends fun entries _ => ?_
      have parts : ∀ part, Within entries part → Lifts document fuel fuel part :=
        fun part _ less bound more enough => ih less (by omega) (by omega)
      refine unannounced_extends (narrow_spread entries) parts (fun _ found _ _ less bound more enough => ?_)
        (.inl (Nat.le_of_succ_le_succ enough))
      exact unannounced_extends_of_convert (by omega) (ih (less + 1) (by omega) (by omega))

end

/-! ### Steps of all schemas in a value -/

mutual

theorem allSteps_le : (v : Value) → allSteps v + 2 * spread v + 2 ≤ 8 * v.size
  | .atom _ => by simp [allSteps, Value.contents, layerSteps, spread, typeSteps, Value.size]
  | .list items => by
    have inside := allSteps_of_le items
    simp only [allSteps, Value.contents, List.map_cons, List.sum_cons, layerSteps, spread, typeSteps, Value.size]
    omega
  | .tuple items => by
    have inside := allSteps_of_le items
    simp only [allSteps, Value.contents, List.map_cons, List.sum_cons, layerSteps, spread, typeSteps, Value.size]
    omega
  | .set _ => by
    simp only [allSteps, Value.contents, layerSteps, spread, typeSteps, Value.size, List.map_cons, List.map_nil,
      List.sum_cons, List.sum_nil]
    omega
  | .map entries => by
    have inside := allSteps_under_le entries
    simp only [allSteps, Value.contents, List.map_cons, List.sum_cons, layerSteps, spread, Value.size]
    omega

theorem allSteps_of_le : (items : List Value) →
    ((Value.contentsOf items).map layerSteps).sum + 2 * typesSteps items ≤ 8 * Value.sizeItems items
  | [] => Nat.le_refl 0
  | v :: rest => by
    have first := allSteps_le v
    have others := allSteps_of_le rest
    have wide := typeSteps_le_spread v
    rw [allSteps] at first
    rw [Value.contentsOf, List.map_append, List.sum_append, typesSteps, Value.sizeItems]
    omega

theorem allSteps_under_le : (entries : List (Atom × Value)) →
    ((Value.contentsUnder entries).map layerSteps).sum + 2 * spreadUnder entries + 2 * entries.length ≤
      8 * Value.sizeEntries entries
  | [] => Nat.le_refl 0
  | (_, v) :: rest => by
    have first := allSteps_le v
    have others := allSteps_under_le rest
    simp only [allSteps, spreadUnder, Value.contentsUnder, List.map_append, List.sum_append, Value.sizeEntries,
      List.map_cons, List.sum_cons, List.length_cons] at first others ⊢
    omega

end

theorem layerSteps_le_allSteps {v w : Value} (inside : v ∈ w.contents) : layerSteps v ≤ allSteps w :=
  List.le_sum_of_mem (List.mem_map_of_mem inside)

/-! ### Schemas that have come to a result -/

section

variable (document schema : Value)

/-- A value converts with a number of steps. -/
def Settled (fuel : Nat) (v : Value) : Prop := (convert document fuel none v : Except Fault Expr) ≠ .error tooDeep

open Classical in
/-- The steps that suffice for all schemas in the document and in a schema that convert with a number of steps. -/
noncomputable def stepsWithin (fuel : Nat) : Nat :=
  ((document.contents ++ schema.contents).map fun v => if Settled document fuel v then layerSteps v else 0).sum + 1

variable {document schema} {fuel less more : Nat} {v : Value}

theorem Settled.mono (settled : Settled document less v) (fewer : less ≤ more) : Settled document more v := by
  rcases convert_mono fewer with out | same
  · exact absurd out settled
  · rw [Settled, same]
    exact settled

theorem stepsWithin_mono (fewer : less ≤ more) : stepsWithin document schema less ≤ stepsWithin document schema more := by
  refine Nat.succ_le_succ (List.sum_le_sum fun v _ => ?_)
  by_cases settled : Settled document less v
  · rw [if_pos settled, if_pos (settled.mono fewer)]
  · rw [if_neg settled]
    exact Nat.zero_le _

theorem sum_add_le {α : Type} {items : List α} {f g : α → Nat} {item : α} {extra : Nat} (member : item ∈ items)
    (fewer : ∀ item, f item ≤ g item) (less : f item + extra ≤ g item) :
    (items.map f).sum + extra ≤ (items.map g).sum := by
  induction items with
  | nil => cases member
  | cons first rest ih =>
    rw [List.map_cons, List.sum_cons, List.map_cons, List.sum_cons]
    rcases List.mem_cons.mp member with rfl | later
    · have := List.sum_le_sum (l := rest) fun item _ => fewer item
      omega
    · have := ih later
      have := fewer first
      omega

/-- What converts with one step more adds the steps of its layer. -/
theorem stepsWithin_add_le (inside : v ∈ document.contents ++ schema.contents) (before : ¬ Settled document fuel v)
    (now : Settled document (fuel + 1) v) :
    stepsWithin document schema fuel + layerSteps v ≤ stepsWithin document schema (fuel + 1) := by
  rw [stepsWithin, stepsWithin, Nat.add_right_comm]
  refine Nat.succ_le_succ (sum_add_le inside (fun other => ?_) ?_)
  · by_cases settled : Settled document fuel other
    · rw [if_pos settled, if_pos (settled.mono (Nat.le_succ fuel))]
    · rw [if_neg settled]
      exact Nat.zero_le _
  · rw [if_neg before, if_pos now, Nat.zero_add]

theorem stepsWithin_le (document schema : Value) (fuel : Nat) :
    stepsWithin document schema fuel ≤ allSteps document + allSteps schema + 1 := by
  rw [allSteps, allSteps, ← List.sum_append, ← List.map_append]
  refine Nat.succ_le_succ (List.sum_le_sum fun v _ => ?_)
  split
  · exact Nat.le_refl _
  · exact Nat.zero_le _

theorem mem_contents_of_within {entries : List (Atom × Value)} {part : Value} (within : Within entries part) :
    part ∈ (Value.map entries).contents := by
  have under : ∀ {key : String} {found : Value}, field? entries key = some found →
      found.contents ⊆ (Value.map entries).contents :=
    fun stated => Value.contents_subset_of_field stated
  cases within with
  | member _ stated isMember =>
    exact under (membersAt_eq_some.mp stated).1 (Value.contents_subset_of_item isMember (Value.self_mem_contents _))
  | items stated => exact under stated (Value.self_mem_contents _)
  | @declared property isProperty =>
    have stated := (entriesAt_eq_some.mp (entriesAt_of_declared isProperty)).1
    exact under stated (Value.contents_subset_of_entry isProperty (Value.self_mem_contents _))
  | additional stated => exact under stated (Value.self_mem_contents _)

theorem mem_both_of_contents {w : Value} (inside : v ∈ document.contents ++ schema.contents) (part : w ∈ v.contents) :
    w ∈ document.contents ++ schema.contents := by
  rcases List.mem_append.mp inside with first | second
  · exact List.mem_append_left _ (Value.contents_subset first part)
  · exact List.mem_append_right _ (Value.contents_subset second part)

/-- What a reference is followed to is in the document, and is no reference. -/
theorem mem_contents_of_deref {entries : List (Atom × Value)} {ref found : Value}
    (reference : field? entries "$ref" = some ref)
    (followed : (Reference.deref (.map entries) document : Except Fault Value) = .ok found) :
    found ∈ document.contents ∧ found.field? "$ref" = none := by
  obtain ⟨⟨refs, chain⟩, noReference⟩ := Reference.deref_eq_ok_iff.mp followed
  refine ⟨?_, noReference⟩
  rcases chain.mem_contents with rfl | inside
  · cases reference.symm.trans noReference
  · exact inside

/-- Every schema in the document or in a schema converts within the steps of those that have converted. -/
theorem convert_within (inside : v ∈ document.contents ++ schema.contents)
    (enough : stepsWithin document schema fuel ≤ more) :
    Extends (convert document fuel none v) (convert document more none v) := by
  induction fuel using Nat.strongRecOn generalizing v more with
  | ind fuel ih =>
    cases fuel with
    | zero => exact .inl rfl
    | succ fuel =>
      by_cases before : Settled document fuel v
      · have earlier := ih fuel (Nat.lt_succ_self _) inside (Nat.le_trans (stepsWithin_mono (Nat.le_succ _)) enough)
        rcases convert_mono (Nat.le_succ fuel) with out | same
        · exact absurd out before
        · rwa [Extends, same]
      by_cases now : Settled document (fuel + 1) v
      case neg => exact .inl (not_not.mp now)
      obtain ⟨more, rfl⟩ : ∃ less, more = less + 1 := ⟨more - 1, by rw [stepsWithin] at enough; omega⟩
      refine convert_extends fun entries isMap => ?_
      subst isMap
      have lifts : ∀ part ∈ document.contents ++ schema.contents,
          Lifts document fuel (stepsWithin document schema fuel) part := by
        rintro part isInside less bound more (upward | above)
        · exact convert_mono upward
        · exact ih less (by omega) isInside (Nat.le_trans (stepsWithin_mono bound) above)
      have added := stepsWithin_add_le inside before now
      have stated := statedSteps_le entries
      rw [layerSteps] at added
      refine unannounced_extends (narrow_spread entries)
        (fun part within => lifts part (mem_both_of_contents inside (mem_contents_of_within within)))
        (fun ref found reference followed less bound more enough => ?_) (.inr (by omega))
      have isInside := List.mem_append_left schema.contents (mem_contents_of_deref reference followed).1
      have some : less = 0 ∨ 0 < more := by
        rw [stepsWithin] at enough
        omega
      exact unannounced_extends_of_convert some (lifts found isInside (less + 1) bound (more + 1) (by omega))

private theorem sixteen_size_le_budget (document schema : Value) :
    16 * (document.size + schema.size) ≤ budget document schema := by
  have square := four_mul_le_sq_add (document.size + schema.size) 4
  rw [budget, ← sq]
  omega

/-- A schema that converts with any number of steps converts within the budget. -/
theorem convert_of_settled (fuel : Nat) (name : Option String) (enough : budget document schema ≤ more) :
    Extends (convert document fuel name schema) (convert document more name schema) := by
  have small := sixteen_size_le_budget document schema
  have positive := schema.size_pos
  cases fuel with
  | zero => exact .inl rfl
  | succ fuel =>
    obtain ⟨more, rfl⟩ : ∃ less, more = less + 1 := ⟨more - 1, by omega⟩
    refine convert_extends fun entries isMap => ?_
    subst isMap
    have lifts : ∀ part ∈ document.contents ++ (Value.map entries).contents,
        Lifts document fuel (stepsWithin document (.map entries) fuel + allSteps document) part := by
      rintro part isInside less bound more (upward | above)
      · exact convert_mono upward
      · have higher := Nat.le_trans (Nat.le_add_right _ _) above
        exact convert_within isInside (Nat.le_trans (stepsWithin_mono bound) higher)
    have total := stepsWithin_le document (.map entries) fuel
    have inDocument := allSteps_le document
    have inSchema := allSteps_le (.map entries)
    have own := layerSteps_le_allSteps (Value.self_mem_contents (.map entries))
    have stated := statedSteps_le entries
    rw [layerSteps] at own
    refine unannounced_extends (narrow_spread entries)
      (fun part within => lifts part (List.mem_append_right _ (mem_contents_of_within within)))
      (fun ref found reference followed less bound more enough => ?_) (.inr (by omega))
    obtain ⟨isInside, noReference⟩ := mem_contents_of_deref reference followed
    have some : less = 0 ∨ 0 < more := by
      rw [stepsWithin] at enough
      omega
    refine unannounced_extends_of_map some fun inner isMap => ?_
    subst isMap
    -- the name is that of the schema, so that the layer counts once more than in the document
    have layer := layerSteps_le_allSteps isInside
    have stated := statedSteps_le inner
    rw [layerSteps] at layer
    have parts : ∀ part, Within inner part → Lifts document less (stepsWithin document (.map entries) fuel) part := by
      rintro part within less' bound' more' (upward | above)
      · exact convert_mono upward
      · refine convert_within (List.mem_append_left _ ?_) (Nat.le_trans (stepsWithin_mono ?_) above)
        · exact Value.contents_subset isInside (mem_contents_of_within within)
        · omega
    refine unannounced_extends (narrow_spread inner) parts (fun _ _ reference => ?_) (by omega)
    cases noReference.symm.trans reference

/-- Beyond the budget, more steps make no difference. -/
theorem convert_of_budget (name : Option String) (enough : budget document schema ≤ fuel) :
    (convert document fuel name schema : Except Fault Expr) = ofSchema document name schema := by
  rcases convert_mono enough with out | same
  · rcases convert_of_settled fuel name (Nat.le_refl (budget document schema)) with out' | same
    · rw [out', ofSchema, out]
    · rw [ofSchema, same]
  · rw [ofSchema, same]

/-- What converts at all converts within the budget. -/
theorem converts_iff {name : Option String} {type : Expr} :
    Converts document name schema type ↔ ofSchema document name schema = .ok type := by
  refine ⟨fun ⟨fuel, converted⟩ => ?_, converts_of_ofSchema⟩
  rcases convert_of_settled fuel name (Nat.le_refl (budget document schema)) with out | same
  · cases out.symm.trans converted
  · rw [ofSchema, same, converted]

/-- What is so at every number of steps is so within the budgets. -/
theorem ofSchema_of_convert {name : Option String} {other : Value} (f : Except Fault Expr → Except Fault Expr)
    (same : ∀ fuel, convert document fuel name other = f (convert document fuel name schema)) :
    ofSchema document name other = f (ofSchema document name schema) := by
  rw [← convert_of_budget name (Nat.le_add_right (budget document other) (budget document schema)), same,
    convert_of_budget name (Nat.le_add_left (budget document schema) (budget document other))]

end

end ClientGen.SchemaType
