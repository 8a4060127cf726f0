import ClientGen.Operation
import ClientGen.Proofs.Reading
import Mathlib.Data.List.Nodup

/-!
Parameters of operations. Those of the path item and those of the operation are merged under their names and
the places that they are sent to; what is merged has each such pair once, and every parameter is merged under
the pair that stands in it (`parameters_ok`).
-/

namespace ClientGen.Operation

/-- What a parameter is merged under. -/
def Merged.pair (p : Merged Value) : String × String := (p.name, p.location)

/-- A parameter is merged under its name and its place, as they are shown. -/
structure Merged.IsRead (p : Merged Value) : Prop where
  isMap : p.node.shape.isMap = true
  name : ∃ name, p.node.field? "name" = some name ∧ name.shown = .ok p.name
  location : ((p.node.field? "in").getD .null).shown = .ok p.location

/-- Parameters that are merged under different pairs, each under its own. -/
structure IsMerged (merged : List (Merged Value)) : Prop where
  distinct : (merged.map Merged.pair).Nodup
  read : ∀ p ∈ merged, p.IsRead

theorem isMerged_nil : IsMerged [] := ⟨.nil, nofun⟩

/-- A new parameter under a pair that is present takes the old one's place. -/
theorem IsMerged.replace {merged : List (Merged Value)} (isMerged : IsMerged merged) {p : Merged Value}
    (read : p.IsRead) :
    IsMerged (merged.map fun q =>
      if q.name = p.name && q.location = p.location then { q with node := p.node } else q) := by
  constructor
  · have samePairs : ∀ q : Merged Value,
        Merged.pair (if q.name = p.name && q.location = p.location then { q with node := p.node } else q) = q.pair := by
      intro q
      split <;> rfl
    rw [List.map_map]
    simpa only [Function.comp_def, samePairs] using isMerged.distinct
  · intro later member
    obtain ⟨q, before, rfl⟩ := List.mem_map.mp member
    split
    · rename_i same
      simp only [Bool.and_eq_true, decide_eq_true_eq] at same
      exact ⟨read.isMap, by simpa only [same.1] using read.name, by simpa only [same.2] using read.location⟩
    · exact isMerged.read q before

/-- A new parameter under a new pair is put behind the others. -/
theorem IsMerged.snoc {merged : List (Merged Value)} (isMerged : IsMerged merged) {p : Merged Value}
    (read : p.IsRead) (fresh : ∀ q ∈ merged, q.pair ≠ p.pair) : IsMerged (merged ++ [p]) := by
  constructor
  · rw [List.map_append, List.nodup_append]
    refine ⟨isMerged.distinct, List.nodup_singleton _, ?_⟩
    rintro pair before _ last rfl
    obtain ⟨q, member, equal⟩ := List.mem_map.mp before
    exact fresh q member (equal.trans (List.mem_singleton.mp last))
  · intro q member
    rcases List.mem_append.mp member with before | last
    · exact isMerged.read q before
    · rwa [List.mem_singleton.mp last]

theorem shownOf_ok {node : Option Value} {text : String} (done : (shownOf node : Except Fault String) = .ok text) :
    (node.getD .null).shown = .ok text := by
  simpa [shownOf] using done

theorem mergeInto_ok {document : Value} {nodes : List Value} {merged later : List (Merged Value)}
    (done : (mergeInto document nodes merged : Except Fault (List (Merged Value))) = .ok later)
    (isMerged : IsMerged merged) : IsMerged later := by
  induction nodes generalizing merged with
  | nil =>
    cases done
    exact isMerged
  | cons raw rest ih =>
    obtain ⟨node, -, done⟩ := bind_eq_ok.mp done
    simp only [shape_except, except_bind_ok] at done
    split at done
    · rename_i entries isEntries
      split at done
      · exact ih done isMerged
      · rename_i stated hasName
        simp only [whole_except, lift_except, except_bind_ok, bind_eq_ok] at done
        obtain ⟨name, isName, location, isLocation, done⟩ := done
        have read : Merged.IsRead ⟨name, location, node⟩ := by
          have fields : ∀ key, node.field? key = Entries.field? entries key := fun key => by
            rw [Value.field?, isEntries, Shape.field?]
          refine ⟨by rw [isEntries, Shape.isMap], ⟨stated, by rw [fields, hasName], isName⟩, ?_⟩
          rw [fields]
          exact shownOf_ok isLocation
        split at done
        · exact ih done (isMerged.replace read)
        · rename_i fresh
          refine ih done (isMerged.snoc read fun q member same => fresh ?_)
          rw [List.any_eq_true]
          exact ⟨q, member, by simpa [Merged.pair] using same⟩
    · exact ih done isMerged

/-- The parameters of an operation come from merging. -/
theorem parameters_ok {document operation : Value} {item : Option Value} {nodes : List Value}
    (done : (parameters document operation item : Except Fault (List Value)) = .ok nodes) :
    ∃ merged, IsMerged merged ∧ nodes = merged.map (·.node) := by
  have merges : ∀ shared : List Value,
      (do
        let merged ← mergeInto document shared []
        let own ← listedParameters operation
        return (← mergeInto document own merged).map (·.node) : Except Fault (List Value)) = .ok nodes →
      ∃ merged, IsMerged merged ∧ nodes = merged.map (·.node) := by
    intro shared done
    simp only [bind_eq_ok] at done
    obtain ⟨first, isFirst, own, -, merged, isMerged, done⟩ := done
    cases done
    exact ⟨merged, mergeInto_ok isMerged (mergeInto_ok isFirst isMerged_nil), rfl⟩
  obtain ⟨pathItem, -, done⟩ := bind_eq_ok.mp done
  cases pathItem with
  | none => exact merges [] done
  | some pathItem =>
    obtain ⟨shared, -, done⟩ := bind_eq_ok.mp done
    exact merges shared done

end ClientGen.Operation
