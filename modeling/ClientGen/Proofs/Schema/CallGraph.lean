import ClientGen.Proofs.Schema.Calls
import ClientGen.Proofs.Schema.Nullability
import Mathlib.Data.Finite.Prod
import Mathlib.Data.Fintype.Card

/-!
The calls of a conversion as a graph. What conversion comes to from a schema stands in the document or in the schema, or
is a copy of what stands there for something that its types are made of (`mem_reachable_of_calls`): a copy of a copy is a
copy. There are therefore finitely many calls, and unless they go in a circle (`Acyclic`) they come to an end
(`acc_of_acyclic`), so that no conversion on the way runs out of steps (`halts_of_acc`).

Schemas that are listed so that each calls only for later ones do not go in a circle (`Ordered.acyclic`).
-/

namespace ClientGen.SchemaType

open Entries Relation

/-- No schema that conversion comes to from a schema comes back to itself. -/
def Acyclic (document : Value) (follows : Value → Value → Prop) (visit : Visit) : Prop :=
  ∀ v, ReflTransGen (Calls document follows) visit v → ¬ TransGen (Calls document follows) v v

/-- Every schema in a list calls only for later ones. -/
inductive Ordered (document : Value) (follows : Value → Value → Prop) : List Value → Prop
  | nil : Ordered document follows []
  | cons {v : Value} {rest : List Value}
    (calls : ∀ name next, Calls document follows (name, v) next → next.2 ∈ rest)
    (ordered : Ordered document follows rest) : Ordered document follows (v :: rest)

variable {document schema : Value} {entries : List (Atom × Value)} {name : Option String}
  {follows : Value → Value → Prop} {visit next : Visit}

/-! ### Copies of copies -/

private theorem any_set {α : Type} (entries : List (Atom × α)) (key : Atom) (value : α) (sought : Atom) :
    (entries.map fun entry => if entry.1.same key then (entry.1, value) else entry).any (·.1.same sought) =
      entries.any (·.1.same sought) := by
  rw [List.any_map]
  congr
  funext entry
  dsimp only [Function.comp_apply]
  split <;> rfl

/-- Where a key is present, it does not matter whether it is set before or after another one. -/
theorem put_put_of_ne {α : Type} {entries : List (Atom × α)} {key other : String}
    (present : entries.any (·.1.same (.text key)) = true) (differ : key ≠ other) (v w : α) :
    put (put entries (.text other) v) (.text key) w = put (put entries (.text key) w) (.text other) v := by
  have apart : ∀ a : Atom, a.same (.text key) = true → a.same (.text other) = false := by
    intro a same
    rw [Atom.same_text, decide_eq_true_iff] at same
    rw [same, Atom.same_text]
    simpa using differ
  have isSet : put entries (.text key) w =
      entries.map fun entry => if entry.1.same (.text key) then (entry.1, w) else entry := if_pos present
  by_cases also : entries.any (·.1.same (.text other)) = true
  · have isSetToo : put entries (.text other) v =
        entries.map fun entry => if entry.1.same (.text other) then (entry.1, v) else entry := if_pos also
    rw [isSet, isSetToo, put, any_set, if_pos present, put, any_set, if_pos also, List.map_map, List.map_map]
    refine List.map_congr_left fun entry _ => ?_
    dsimp only [Function.comp_apply]
    by_cases isKey : entry.1.same (.text key) = true
    · simp [isKey, apart _ isKey]
    · by_cases isOther : entry.1.same (.text other) = true
      · simp [isKey, isOther]
      · simp [isKey, isOther]
  · have last : (Atom.text other).same (.text key) = false := by
      rw [Atom.same_text]
      simpa using Ne.symm differ
    have appended : put entries (.text other) v = entries ++ [(.text other, v)] := if_neg also
    rw [isSet, appended, put, List.any_append, present, Bool.true_or, if_pos rfl, put, any_set, if_neg also,
      List.map_append]
    simp [last]

/-- A copy of a copy is a copy of the schema. -/
theorem retypedTo_retyped (entries : List (Atom × Value)) (first second : Value) :
    retypedTo (retypedEntries entries first (.bool false)) second = retypedTo entries second := by
  have present : (put entries (.text "type") first).any (·.1.same (.text "type")) = true := by
    have found := field?_put_self entries "type" first
    obtain ⟨entry, isEntry, -⟩ := Option.map_eq_some_iff.mp found
    have same := List.find?_some isEntry
    exact List.any_eq_true.mpr ⟨entry, List.mem_of_find?_eq_some isEntry, same⟩
  rw [retypedTo, retypedEntries, retypedEntries, put_put_of_ne present (by decide), put_put, put_put]
  rfl

/-! ### What conversion can come to -/

/-- The copies of a schema for whatever its types are made of. -/
def copiesOf : Value → List Value
  | .map entries => ((field? entries "type").toList.flatMap Value.contents).map (retypedTo entries)
  | _ => []

/-- The values in a document and in a schema, with the copies of those that are schemas. -/
def reachable (document schema : Value) : List Value :=
  (document.contents ++ schema.contents) ++ (document.contents ++ schema.contents).flatMap copiesOf

theorem mem_copiesOf {v : Value} : v ∈ copiesOf (.map entries) ↔
    ∃ stated, field? entries "type" = some stated ∧ ∃ type ∈ stated.contents, v = retypedTo entries type := by
  simp only [copiesOf, List.mem_map, List.mem_flatMap, Option.mem_toList]
  constructor
  · rintro ⟨type, ⟨stated, isStated, inside⟩, rfl⟩
    exact ⟨stated, isStated, type, inside, rfl⟩
  · rintro ⟨stated, isStated, type, inside, rfl⟩
    exact ⟨type, ⟨stated, isStated, inside⟩, rfl⟩

/-- The types of a schema are in what it states as its type. -/
theorem mem_contents_of_typesOf {nullable : Bool} {types : List Value} {type : Value}
    (typed : typesOf entries = .types nullable types) (listed : type ∈ types) :
    ∃ stated, field? entries "type" = some stated ∧ type ∈ stated.contents := by
  unfold typesOf at typed
  split at typed
  · rename_i items isList
    cases typed
    have isItem := (List.mem_filter.mp listed).1
    exact ⟨.list items, isList, Value.contents_subset_of_item isItem (Value.self_mem_contents type)⟩
  · cases typed
  · rename_i text _ isText
    cases typed
    obtain rfl := List.mem_singleton.mp listed
    exact ⟨.text text, isText, Value.self_mem_contents _⟩
  · cases typed
    cases listed

/-- The copies of a copy are copies of the schema. -/
theorem copiesOf_subset {copy : Value} (isCopy : copy ∈ copiesOf (.map entries)) :
    copiesOf copy ⊆ copiesOf (.map entries) := by
  obtain ⟨stated, isStated, type, inside, rfl⟩ := mem_copiesOf.mp isCopy
  intro other isOther
  obtain ⟨own, isOwn, deeper, within, rfl⟩ := mem_copiesOf.mp isOther
  obtain rfl := Option.some.inj ((type_retyped entries type).symm.trans isOwn)
  rw [retypedTo_retyped]
  exact mem_copiesOf.mpr ⟨stated, isStated, deeper, Value.contents_subset inside within, rfl⟩

/-- A mapping calls for something in the document, for a schema that stands in it, or for a copy of itself. -/
theorem Calls.found (calls : Calls document (FollowedTo document) (name, .map entries) next) :
    next.2 ∈ document.contents ∨ Within entries next.2 ∨ next.2 ∈ copiesOf (.map entries) := by
  cases calls with
  | reference leads =>
    obtain ⟨ref, refers, -, followed⟩ := leads
    exact .inl (mem_contents_of_deref refers followed).1
  | part _ typed formed comesUp =>
    rcases within_of_part formed comesUp.mem with within | ⟨type, listed, isCopy⟩
    · exact .inr (.inl within)
    · obtain ⟨stated, isStated, inside⟩ := mem_contents_of_typesOf typed listed
      exact .inr (.inr (mem_copiesOf.mpr ⟨stated, isStated, type, inside, isCopy⟩))

theorem mem_reachable_of_calls {v : Visit} (calls : Calls document (FollowedTo document) v next)
    (isReachable : v.2 ∈ reachable document schema) : next.2 ∈ reachable document schema := by
  have inPlace : ∀ {w}, w ∈ document.contents ++ schema.contents → w ∈ reachable document schema :=
    fun isThere => List.mem_append_left _ isThere
  have copied : ∀ {w holder}, holder ∈ document.contents ++ schema.contents → w ∈ copiesOf holder →
      w ∈ reachable document schema :=
    fun isThere isCopy => List.mem_append_right _ (List.mem_flatMap.mpr ⟨_, isThere, isCopy⟩)
  obtain ⟨name, v⟩ := v
  rcases List.mem_append.mp isReachable with isThere | isCopy
  · cases v with
    | map entries =>
      rcases calls.found with inDocument | within | isCopy
      · exact inPlace (List.mem_append_left _ inDocument)
      · exact inPlace (mem_both_of_contents isThere (mem_contents_of_within within))
      · exact copied isThere isCopy
    | _ => cases calls
  · obtain ⟨holder, isThere, isCopy⟩ := List.mem_flatMap.mp isCopy
    cases holder with
    | map entries =>
      have fewer := copiesOf_subset isCopy
      obtain ⟨stated, -, type, -, rfl⟩ := mem_copiesOf.mp isCopy
      rcases Calls.found calls with inDocument | within | isOther
      · exact inPlace (List.mem_append_left _ inDocument)
      · exact inPlace (mem_both_of_contents isThere (mem_contents_of_within (within_retyped within)))
      · exact copied isThere (fewer isOther)
    | _ => cases isCopy

theorem finite_calls (document : Value) (visit : Visit) :
    {v | ReflTransGen (Calls document (FollowedTo document)) visit v}.Finite := by
  have within : ∀ v, ReflTransGen (Calls document (FollowedTo document)) visit v →
      v.1 ∈ [visit.1, none] ∧ v.2 ∈ reachable document visit.2 := by
    intro v reached
    induction reached with
    | refl =>
      have own := List.mem_append_right document.contents (Value.self_mem_contents visit.2)
      exact ⟨List.mem_cons_self, List.mem_append_left _ own⟩
    | tail _ calls ih =>
      refine ⟨?_, mem_reachable_of_calls calls ih.2⟩
      cases calls with
      | reference => exact ih.1
      | part => simp
  exact ((List.finite_toSet _).prod (List.finite_toSet _)).subset fun v reached => within v reached

/-! ### Circles and ranks -/

theorem acyclic_of_acc (acc : Acc (Function.swap (Calls document follows)) visit) : Acyclic document follows visit := by
  intro v reached
  have descends : Acc (TransGen (Function.swap (Calls document follows))) v := by
    apply Acc.transGen
    induction reached with
    | refl => exact acc
    | tail _ calls ih => exact ih.inv calls
  clear reached
  induction descends with
  | intro v _ ih =>
    intro circle
    exact ih v (transGen_swap.mpr circle) circle

theorem acc_of_measure {measure : Visit → Nat}
    (less : ∀ v w, ReflTransGen (Calls document follows) visit v → Calls document follows v w →
      measure w < measure v) :
    Acc (Function.swap (Calls document follows)) visit := by
  have all : ∀ rank v, measure v = rank → ReflTransGen (Calls document follows) visit v →
      Acc (Function.swap (Calls document follows)) v := by
    intro rank
    induction rank using Nat.strongRecOn with
    | ind rank ih =>
      rintro v rfl reached
      exact ⟨v, fun w calls => ih (measure w) (less v w reached calls) w rfl (reached.tail calls)⟩
  exact all _ visit rfl .refl

/-- Of two elements that are reached from the start, one comes after the other if it is reached from that. -/
def ComesAfter {α : Type} (r : α → α → Prop) (start : α) (b a : {a // ReflTransGen r start a}) : Prop :=
  TransGen r a.1 b.1

/-- Where finitely many elements are reached, and none of them from itself, there is no endless way. -/
theorem acc_of_finite {α : Type} {r : α → α → Prop} {start : α} (finite : {a | ReflTransGen r start a}.Finite)
    (acyclic : ∀ a, ReflTransGen r start a → ¬ TransGen r a a) : Acc (Function.swap r) start := by
  have few : Finite {a // ReflTransGen r start a} := finite.to_subtype
  have transitive : IsTrans _ (ComesAfter r start) := ⟨fun _ _ _ first second => second.trans first⟩
  have irreflexive : Std.Irrefl (ComesAfter r start) := ⟨fun a => acyclic a.1 a.2⟩
  have wellFounded : WellFounded (ComesAfter r start) := Finite.wellFounded_of_trans_of_irrefl _
  have all : ∀ a : {a // ReflTransGen r start a}, Acc (Function.swap r) a.1 := by
    intro a
    induction a using wellFounded.induction with
    | _ a ih => exact ⟨a.1, fun b next => ih ⟨b, a.2.tail next⟩ (.single next)⟩
  exact all ⟨start, .refl⟩

theorem acc_of_acyclic (acyclic : Acyclic document (FollowedTo document) visit) :
    Acc (Function.swap (Calls document (FollowedTo document))) visit :=
  acc_of_finite (finite_calls document visit) acyclic

theorem halts_of_acc (acc : Acc (Function.swap (Calls document (FollowedTo document))) visit) :
    ∃ fuel, Halts document fuel visit := by
  induction acc with
  | intro visit _ ih => exact halts_of_calls fun next calls => ih next calls

theorem halts_of_reached {v : Visit} (halts : ∃ fuel, Halts document fuel visit)
    (reached : ReflTransGen (Calls document (FollowedTo document)) visit v) : ∃ fuel, Halts document fuel v := by
  induction reached with
  | refl => exact halts
  | tail _ calls ih =>
    obtain ⟨fuel, halted⟩ := ih
    obtain ⟨less, rfl⟩ := halted.succ
    exact ⟨less, calls.halts halted⟩

/-! ### Lists of schemas in the order of their calls -/

section

variable {values : List Value} {v : Value}

/-- What calls for nothing may stand anywhere. -/
theorem Ordered.idle (idle : ∀ name next, ¬ Calls document follows (name, v) next)
    (ordered : Ordered document follows values) : Ordered document follows (v :: values) :=
  .cons (fun name next calls => absurd calls (idle name next)) ordered

theorem not_calls_of_not_map (noMap : v.shape.isMap = false) (name : Option String) (next : Visit) :
    ¬ Calls document follows (name, v) next := by
  intro calls
  cases calls <;> cases noMap

theorem Ordered.mem_of_calls (ordered : Ordered document follows values) (member : v ∈ values)
    (calls : Calls document follows (name, v) next) : next.2 ∈ values := by
  induction ordered with
  | nil => cases member
  | cons later _ ih =>
    rcases List.mem_cons.mp member with rfl | further
    · exact List.mem_cons_of_mem _ (later name next calls)
    · exact List.mem_cons_of_mem _ (ih further)

theorem Ordered.mem_of_reached (ordered : Ordered document follows values) (member : visit.2 ∈ values)
    (reached : ReflTransGen (Calls document follows) visit next) : next.2 ∈ values := by
  induction reached with
  | refl => exact member
  | tail _ calls ih => exact ordered.mem_of_calls ih calls

theorem Ordered.acc (ordered : Ordered document follows values) (member : v ∈ values) (name : Option String) :
    Acc (Function.swap (Calls document follows)) (name, v) := by
  induction ordered generalizing v name with
  | nil => cases member
  | cons later _ ih =>
    rcases List.mem_cons.mp member with rfl | further
    · exact ⟨_, fun next calls => ih (later name next calls) next.1⟩
    · exact ih further name

theorem Ordered.acyclic (ordered : Ordered document follows values) (member : v ∈ values) (name : Option String) :
    Acyclic document follows (name, v) :=
  acyclic_of_acc (ordered.acc member name)

end

end ClientGen.SchemaType
