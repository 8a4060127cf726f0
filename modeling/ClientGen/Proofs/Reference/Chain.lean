import ClientGen.Proofs.Contents
import ClientGen.Proofs.Reference
import Mathlib.Data.List.Dedup
import Mathlib.Data.List.Perm.Subperm

/-!
Chains of references. From a value that is a reference a chain leads to the value that it refers to, and on from there
as long as that is a reference as well (`Chain`). There are three ways in which a chain can end: at a value that is no
reference, at a reference that occurs in the chain already, and at one that cannot be followed (`Exit`). It takes one of
them after no more steps than there are different references, and following a chain has the outcome that belongs to it
(`deref_exact`).
-/

namespace ClientGen.Reference

/-- The text that a value refers to something by. -/
def refOf? (v : Value) : Option String :=
  match v.field? "$ref" with
  | some (.text ref) => some ref
  | _ => none

/-- The references in a value, at whatever depth they stand. -/
def references (v : Value) : List String := v.contents.filterMap refOf?

/-- The references that a chain from a value may consist of: its own, and those in the document. -/
def referencesFrom (document start : Value) : List String := (refOf? start).toList ++ references document

/-- What the value under `$ref` leads to. For a text this is what the reference leads to. -/
def follow (document target : Value) : Except Fault Value := do resolve (← refText target.shape) document

@[simp] theorem follow_text (document : Value) (ref : String) : follow document (.text ref) = resolve ref document := rfl

/-- A chain from one value to another by the references that are followed on the way. -/
inductive Chain (document : Value) : Value → List String → Value → Prop
  | none (v : Value) : Chain document v [] v
  | more {v found last : Value} {ref : String} {refs : List String} (refers : v.field? "$ref" = some (.text ref))
    (leads : (resolve ref document : Except Fault Value) = .ok found) (rest : Chain document found refs last) :
    Chain document v (ref :: refs) last

/-- The end of a chain that has not repeated a reference so far, and what comes of it. -/
inductive Exit (document start : Value) : Except Fault Value → Prop
  | value {refs v} (chain : Chain document start refs v) (noReference : v.field? "$ref" = none) :
    Exit document start (.ok v)
  | circular {refs v ref} (chain : Chain document start refs v) (different : refs.Nodup)
    (refers : v.field? "$ref" = some (.text ref)) (again : ref ∈ refs) :
    Exit document start (.error (.reference (.circular ref)))
  | failure {refs v target fault} (chain : Chain document start refs v) (refers : v.field? "$ref" = some target)
    (failed : follow document target = .error fault) : Exit document start (.error fault)

/-! ### References in a document -/

theorem mem_of_itemAt? {α : Type} {items : List α} {index : Int} {a : α} (found : itemAt? items index = some a) :
    a ∈ items := by
  unfold itemAt? at found
  split at found
  · exact List.mem_of_getElem? found
  · split at found
    · exact List.mem_of_getElem? found
    · cases found

theorem contents_subset_of_walk {ref : String} {segments : List (List Char)} {v found : Value}
    (walked : (walk ref segments v : Except Fault Value) = .ok found) : found.contents ⊆ v.contents := by
  induction segments generalizing v with
  | nil =>
    cases walked
    exact List.Subset.refl _
  | cons segment rest ih =>
    obtain ⟨next, stepped, walked⟩ := bind_eq_ok.mp walked
    refine List.Subset.trans (ih walked) ?_
    rcases step_ok stepped with stated | ⟨items, index, rfl, -, isItem⟩
    · exact Value.contents_subset_of_field stated
    · exact Value.contents_subset_of_item (mem_of_itemAt? isItem)

/-- What a reference leads to is in the document, with all that it consists of. -/
theorem contents_subset_of_resolve {ref : String} {document found : Value}
    (resolved : (resolve ref document : Except Fault Value) = .ok found) : found.contents ⊆ document.contents := by
  unfold resolve at resolved
  split at resolved
  · exact contents_subset_of_walk resolved
  · cases resolved

theorem refOf?_eq_some {v : Value} {ref : String} : refOf? v = some ref ↔ v.field? "$ref" = some (.text ref) := by
  unfold refOf?
  split
  · rename_i stated
    rw [stated]
    simp
  · rename_i other
    constructor
    · exact nofun
    · exact fun stated => absurd stated (other ref)

theorem mem_references {v holder : Value} {ref : String} (isRef : refOf? holder = some ref)
    (inside : holder ∈ v.contents) : ref ∈ references v :=
  List.mem_filterMap.mpr ⟨holder, inside, isRef⟩

private theorem length_refOf?_le (v : Value) : (refOf? v).toList.length ≤ 1 := by
  cases refOf? v <;> simp

theorem length_references_le (v : Value) : (references v).length ≤ v.size :=
  Nat.le_trans (List.length_filterMap_le refOf? v.contents) v.length_contents_le

/-- There are no more different references than the document and the value together are large. -/
theorem length_dedup_referencesFrom_le (document start : Value) :
    (referencesFrom document start).dedup.length ≤ document.size + start.size := by
  have fewer := (List.dedup_sublist (referencesFrom document start)).length_le
  have own := length_refOf?_le start
  have inside := length_references_le document
  have positive := start.size_pos
  have together : (referencesFrom document start).length = _ := List.length_append
  omega

/-! ### Chains -/

section

variable {document start v w : Value} {refs others : List String} {ref : String}

theorem Chain.append {u : Value} (first : Chain document start refs v) (second : Chain document v others u) :
    Chain document start (refs ++ others) u := by
  induction first with
  | none => exact second
  | more refers leads _ ih => exact .more refers leads (ih second)

/-- A chain goes on by one more reference. -/
theorem Chain.snoc {found : Value} (chain : Chain document start refs v) (refers : v.field? "$ref" = some (.text ref))
    (leads : (resolve ref document : Except Fault Value) = .ok found) : Chain document start (refs ++ [ref]) found :=
  chain.append (.more refers leads (.none found))

/-- A chain that goes anywhere goes into the document. -/
theorem Chain.mem_contents (chain : Chain document start refs v) : v = start ∨ v ∈ document.contents := by
  induction chain with
  | none => exact .inl rfl
  | more refers leads rest ih =>
    rcases ih with rfl | inside
    · exact .inr (contents_subset_of_resolve leads (Value.self_mem_contents _))
    · exact .inr inside

theorem Chain.subset (chain : Chain document start refs v) : refs ⊆ referencesFrom document start := by
  induction chain with
  | none => exact List.nil_subset _
  | more refers leads _ ih =>
    refine List.cons_subset.mpr ⟨?_, fun other member => ?_⟩
    · exact List.mem_append_left _ (Option.mem_toList.mpr (refOf?_eq_some.mpr refers))
    · rcases List.mem_append.mp (ih member) with own | inside
      · have found := contents_subset_of_resolve leads (Value.self_mem_contents _)
        exact List.mem_append_right _ (mem_references (Option.mem_toList.mp own) found)
      · exact List.mem_append_right _ inside

/-- What a reference in a chain leads to, and the chain from there on. -/
theorem Chain.split (chain : Chain document start refs v) (member : ref ∈ refs) :
    ∃ before after found, refs = before ++ ref :: after ∧ (resolve ref document : Except Fault Value) = .ok found ∧
      Chain document found after v := by
  induction chain with
  | none => cases member
  | @more _ found _ first refs _ leads rest ih =>
    rcases List.mem_cons.mp member with rfl | later
    · exact ⟨[], refs, found, rfl, leads, rest⟩
    · obtain ⟨before, after, found, rfl, leads, rest⟩ := ih later
      exact ⟨first :: before, after, found, rfl, leads, rest⟩

/-- Of two chains from one value one is the beginning of the other. -/
theorem Chain.comparable (first : Chain document start refs v) (second : Chain document start others w) :
    (∃ more, others = refs ++ more ∧ Chain document v more w) ∨
      ∃ more, refs = others ++ more ∧ Chain document w more v := by
  induction first generalizing others with
  | none => exact .inl ⟨others, rfl, second⟩
  | more refers leads rest ih =>
    cases second with
    | none => exact .inr ⟨_, rfl, .more refers leads rest⟩
    | more refers' leads' rest' =>
      cases refers.symm.trans refers'
      cases leads.symm.trans leads'
      rcases ih rest' with ⟨more, rfl, chain⟩ | ⟨more, rfl, chain⟩
      · exact .inl ⟨more, rfl, chain⟩
      · exact .inr ⟨more, rfl, chain⟩

/-- No reference leads on from a value. -/
def IsEnd (document v : Value) : Prop :=
  ∀ ref found, v.field? "$ref" = some (.text ref) → (resolve ref document : Except Fault Value) ≠ .ok found

theorem isEnd_of_noReference (noReference : v.field? "$ref" = none) : IsEnd document v := by
  intro ref found refers
  rw [noReference] at refers
  cases refers

theorem isEnd_of_failure {target : Value} {fault : Fault} (refers : v.field? "$ref" = some target)
    (failed : follow document target = .error fault) : IsEnd document v := by
  intro ref found refersBy leads
  obtain rfl := Option.some.inj (refers.symm.trans refersBy)
  rw [follow_text, leads] at failed
  cases failed

/-- Every chain is the beginning of one that has come to an end. -/
theorem Chain.toEnd (second : Chain document start others w) (first : Chain document start refs v)
    (isEnd : IsEnd document v) : ∃ more, refs = others ++ more ∧ Chain document w more v := by
  rcases first.comparable second with ⟨more, rfl, chain⟩ | further
  · cases chain with
    | none => exact ⟨[], by rw [List.append_nil, List.append_nil], .none _⟩
    | more refers leads => exact absurd leads (isEnd _ _ refers)
  · exact further

/-- A chain that has come to an end has not repeated a reference: it would have gone round for ever. -/
theorem Chain.nodup (chain : Chain document start refs v) (isEnd : IsEnd document v) : refs.Nodup := by
  induction chain with
  | none => exact List.nodup_nil
  | more refers leads rest ih =>
    refine List.nodup_cons.mpr ⟨fun member => ?_, ih isEnd⟩
    obtain ⟨before, after, found, rfl, leadsAgain, shorter⟩ := rest.split member
    cases leads.symm.trans leadsAgain
    obtain ⟨more, equal, -⟩ := rest.toEnd shorter isEnd
    have length := congrArg List.length equal
    simp only [List.length_append, List.length_cons] at length
    omega

/-- A chain that has come to an end is not about to repeat a reference on its way. -/
theorem Chain.not_again (chain : Chain document start refs v) (isEnd : IsEnd document v)
    (other : Chain document start others w) (refers : w.field? "$ref" = some (.text ref)) : ref ∉ others := by
  intro again
  obtain ⟨_, _, found, -, leads, -⟩ := other.split again
  obtain ⟨more, rfl, -⟩ := (other.snoc refers leads).toEnd chain isEnd
  have different := chain.nodup isEnd
  rw [List.append_assoc, List.nodup_append] at different
  exact different.2.2 ref again ref (List.mem_append_left _ (List.mem_singleton_self ref)) rfl

/-- A chain that is about to repeat a reference for the first time does not go on without repeating it. -/
private theorem not_more {more : List String} (refers : v.field? "$ref" = some (.text ref)) (again : ref ∈ refs)
    (chain : Chain document v more w) (different : (refs ++ more).Nodup) : more = [] ∧ v = w := by
  cases chain with
  | none => exact ⟨rfl, rfl⟩
  | more refers' leads rest =>
    cases refers.symm.trans refers'
    exact absurd rfl ((List.nodup_append.mp different).2.2 ref again ref List.mem_cons_self)

/-- There is one reference that is the first to be repeated. -/
theorem Chain.first_again {ref' : String} (first : Chain document start refs v) (different : refs.Nodup)
    (refers : v.field? "$ref" = some (.text ref)) (again : ref ∈ refs) (second : Chain document start others w)
    (different' : others.Nodup) (refers' : w.field? "$ref" = some (.text ref')) (again' : ref' ∈ others) :
    ref = ref' := by
  have same : v = w := by
    rcases first.comparable second with ⟨more, rfl, chain⟩ | ⟨more, rfl, chain⟩
    · exact (not_more refers again chain different').2
    · exact (not_more refers' again' chain different).2.symm
  subst same
  cases refers.symm.trans refers'
  rfl

end

/-! ### Ends of chains -/

section

variable {document start : Value}

/-- A failure to follow a reference is never reported as a circle. -/
theorem step_ne_circular {ref again : String} {segment : List Char} {v : Value} :
    (step ref segment v : Except Fault Value) ≠ .error (.reference (.circular again)) := by
  intro failed
  cases v with
  | map entries =>
    simp only [step, shape_except, Value.shape_map, except_bind_ok] at failed
    split at failed <;> cases failed
  | list items =>
    simp only [step, shape_except, Value.shape_list, except_bind_ok] at failed
    split at failed <;> cases failed
  | _ => cases failed

theorem resolve_ne_circular {ref again : String} :
    (resolve ref document : Except Fault Value) ≠ .error (.reference (.circular again)) := by
  have walked : ∀ (segments : List (List Char)) (v : Value),
      (walk ref segments v : Except Fault Value) ≠ .error (.reference (.circular again)) := by
    intro segments
    induction segments with
    | nil =>
      intro v failed
      cases failed
    | cons segment rest ih =>
      intro v
      rw [walk]
      cases stepped : (step ref segment v : Except Fault Value) with
      | ok next => exact ih next
      | error fault =>
        rintro failed
        cases failed
        exact step_ne_circular stepped
  unfold resolve
  split
  · exact walked _ _
  · intro failed
    cases failed

theorem follow_ne_circular {target : Value} {again : String} :
    follow document target ≠ .error (.reference (.circular again)) := by
  cases target with
  | atom a =>
    cases a with
    | text ref => exact resolve_ne_circular
    | _ => exact nofun
  | _ => exact nofun

/-- Chains from one value come to the same end. -/
theorem Exit.unique {outcome other : Except Fault Value} (first : Exit document start outcome)
    (second : Exit document start other) : outcome = other := by
  -- two chains that have come to their ends are equally long
  have sameEnd : ∀ {refs others v w}, Chain document start refs v → IsEnd document v → Chain document start others w →
      IsEnd document w → v = w := by
    intro refs others v w chain isEnd other otherEnd
    obtain ⟨more, rfl, rest⟩ := other.toEnd chain isEnd
    cases rest with
    | none => rfl
    | more refers leads => exact absurd leads (otherEnd _ _ refers)
  cases first with
  | value chain noReference =>
    have isEnd : IsEnd document _ := isEnd_of_noReference noReference
    cases second with
    | value other noReference' => rw [sameEnd chain isEnd other (isEnd_of_noReference noReference')]
    | circular other _ refers again => exact absurd again (chain.not_again isEnd other refers)
    | failure other refers failed =>
      cases sameEnd chain isEnd other (isEnd_of_failure refers failed)
      cases noReference.symm.trans refers
  | circular chain different refers again =>
    cases second with
    | value other noReference => exact absurd again (other.not_again (isEnd_of_noReference noReference) chain refers)
    | circular other different' refers' again' =>
      rw [chain.first_again different refers again other different' refers' again']
    | failure other refers' failed => exact absurd again (other.not_again (isEnd_of_failure refers' failed) chain refers)
  | failure chain refers failed =>
    have isEnd := isEnd_of_failure refers failed
    cases second with
    | value other noReference =>
      cases sameEnd chain isEnd other (isEnd_of_noReference noReference)
      cases noReference.symm.trans refers
    | circular other _ refers' again => exact absurd again (chain.not_again isEnd other refers')
    | failure other refers' failed' =>
      cases sameEnd chain isEnd other (isEnd_of_failure refers' failed')
      cases refers.symm.trans refers'
      rw [← failed, ← failed']

private theorem text_of_refText {target : Value} {ref : String} (isText : refText target.shape = .ok ref) :
    target = .text ref := by
  cases target with
  | atom a =>
    cases a with
    | text s =>
      cases isText
      rfl
    | _ => cases isText
  | _ => cases isText

/-- One look at a chain: at a value that is no reference it stops, and otherwise it follows the reference, unless it
has done so before. -/
private theorem chase_succ (fuel : Nat) (seen : List String) (v : Value) :
    (chase document (fuel + 1) seen v : Except Fault Value) =
      match v.field? "$ref" with
      | none => .ok v
      | some target => refText target.shape >>= fun ref =>
        if ref ∈ seen then .error (.reference (.circular ref))
        else resolve ref document >>= chase document fuel (ref :: seen) := by
  rw [chase, shape_except, except_bind_ok]
  have isField : v.shape.field? "$ref" = v.field? "$ref" := rfl
  rw [isField]
  cases v.field? "$ref" with
  | none => rfl
  | some target =>
    simp only [shape_except, except_bind_ok, lift_except]
    cases refText target.shape with
    | error fault => rfl
    | ok ref =>
      by_cases again : ref ∈ seen
      · simp [again]
      · simp [again]

/-- As long as there are more looks than references that are still to come, a chain is followed to its end. -/
theorem chase_exit {fuel : Nat} {seen : List String} {v : Value} (chain : Chain document start seen.reverse v)
    (different : seen.Nodup) (enough : (referencesFrom document start).dedup.length < fuel + seen.length) :
    Exit document start (chase document fuel seen v) := by
  induction fuel generalizing seen v with
  | zero =>
    have within : seen ⊆ (referencesFrom document start).dedup := fun ref member =>
      List.mem_dedup.mpr (chain.subset (List.mem_reverse.mpr member))
    have fewer := (List.subperm_of_subset different within).length_le
    omega
  | succ fuel ih =>
    rw [chase_succ]
    cases refers : v.field? "$ref" with
    | none => exact .value chain refers
    | some target =>
      dsimp only
      cases isText : refText target.shape with
      | error fault => exact .failure chain refers (by rw [follow, isText]; rfl)
      | ok ref =>
        obtain rfl := text_of_refText isText
        rw [except_bind_ok]
        split
        · rename_i again
          exact .circular chain (List.nodup_reverse.mpr different) refers (List.mem_reverse.mpr again)
        · rename_i new
          cases leads : (resolve ref document : Except Fault Value) with
          | error fault => exact .failure chain refers leads
          | ok found =>
            rw [except_bind_ok]
            refine ih ?_ (List.nodup_cons.mpr ⟨new, different⟩) ?_
            · rw [List.reverse_cons]
              exact chain.snoc refers leads
            · rw [List.length_cons]
              omega

theorem deref_exit (document start : Value) : Exit document start (deref start document) := by
  have few := length_dedup_referencesFrom_le document start
  exact chase_exit (.none start) List.nodup_nil (Nat.lt_succ_of_le few)

/-- Following the references yields the end of the chain that is no reference. -/
theorem deref_eq_ok_iff {v : Value} : (deref start document : Except Fault Value) = .ok v ↔
    (∃ refs, Chain document start refs v) ∧ v.field? "$ref" = none := by
  have isExit := deref_exit document start
  constructor
  · intro isValue
    rw [isValue] at isExit
    cases isExit with
    | value chain noReference => exact ⟨⟨_, chain⟩, noReference⟩
  · rintro ⟨⟨refs, chain⟩, noReference⟩
    exact isExit.unique (.value chain noReference)

end

/-- Following the references from a value has one of three outcomes. It yields a value exactly if the chain reaches this
value and it is no reference. It reports a circle at a reference exactly if this is the first one that the chain repeats.
It fails in any other way exactly if the chain reaches a reference that cannot be followed, and fails for the same reason
as this does. It has its outcome after no more steps than there are different references in the document, with that of
the value itself: as many looks and one more are as good as any number. A chain that repeats no reference, however long
it is, is not reported as a circle. -/
theorem deref_exact (document start : Value) :
    (∀ looks, (referencesFrom document start).dedup.length < looks →
      (chase document looks [] start : Except Fault Value) = deref start document) ∧
    (∀ v, (deref start document : Except Fault Value) = .ok v ↔
      (∃ refs, Chain document start refs v) ∧ v.field? "$ref" = none) ∧
    (∀ ref, (deref start document : Except Fault Value) = .error (.reference (.circular ref)) ↔
      ∃ refs v, Chain document start refs v ∧ refs.Nodup ∧ v.field? "$ref" = some (.text ref) ∧ ref ∈ refs) ∧
    (∀ fault, (deref start document : Except Fault Value) = .error fault ∧
        (∀ ref, fault ≠ .reference (.circular ref)) ↔
      ∃ refs v target, Chain document start refs v ∧ v.field? "$ref" = some target ∧
        follow document target = .error fault) ∧
    ((∀ refs v, Chain document start refs v → refs.Nodup) →
      ∀ ref, (deref start document : Except Fault Value) ≠ .error (.reference (.circular ref))) := by
  have isExit := deref_exit document start
  refine ⟨fun looks enough => ?_, fun v => deref_eq_ok_iff, fun ref => ?_, fun fault => ?_,
    fun acyclic ref isCircular => ?_⟩
  · exact (chase_exit (.none start) List.nodup_nil enough).unique isExit
  · constructor
    · intro isCircular
      rw [isCircular] at isExit
      cases isExit with
      | circular chain different refers again => exact ⟨_, _, chain, different, refers, again⟩
      | failure chain refers failed => exact absurd failed follow_ne_circular
    · rintro ⟨refs, v, chain, different, refers, again⟩
      exact isExit.unique (.circular chain different refers again)
  · constructor
    · rintro ⟨failed, noCircle⟩
      rw [failed] at isExit
      cases isExit with
      | circular => exact absurd rfl (noCircle _)
      | failure chain refers failed => exact ⟨_, _, _, chain, refers, failed⟩
    · rintro ⟨refs, v, target, chain, refers, failed⟩
      refine ⟨isExit.unique (.failure chain refers failed), fun ref circular => ?_⟩
      exact follow_ne_circular (circular ▸ failed)
  · rw [isCircular] at isExit
    cases isExit with
    | circular chain _ refers again =>
      obtain ⟨_, _, found, -, leads, -⟩ := chain.split again
      have repeated := acyclic _ _ (chain.snoc refers leads)
      exact (List.nodup_append.mp repeated).2.2 ref again ref (List.mem_singleton_self ref) rfl
    | failure chain refers failed => exact follow_ne_circular failed

/-- Another spelling of a place is another reference, so that the circle is found one step later. -/
example : (deref (.ofFields [("$ref", .text "#/0~")]) (.ofFields [("0~", .ofFields [("$ref", .text "#/0~0")])]) :
    Except Fault Value) = .error (.reference (.circular "#/0~0")) := rfl

end ClientGen.Reference
