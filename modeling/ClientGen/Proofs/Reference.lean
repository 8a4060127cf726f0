import ClientGen.Proofs.Reading
import ClientGen.Reference

/-!
References to component schemas. A reference names a component as soon as it begins with the place of the
component schemas, and leads to this component only if no further way follows (`IsDeep`).
-/

namespace ClientGen

namespace Reference

/-- A reference leads further than to a component schema. -/
def IsDeep (ref : String) : Prop :=
  ∃ rest, Text.dropLeading? schemaPlace.toList ref.toList = some rest ∧ '/' ∈ rest

theorem componentName?_eq_some {ref component : String} :
    componentName? ref = some component ↔
      ∃ rest, ref.toList = schemaPlace.toList ++ rest ∧ component = String.ofList (unescape rest) := by
  simp only [componentName?, Option.map_eq_some_iff, Text.dropLeading?_eq_some, eq_comm (a := component)]

/-- The way of a reference to a component schema itself. -/
theorem segments?_of_component {ref component : String} (named : componentName? ref = some component)
    (flat : ¬ IsDeep ref) : segments? ref = some ["components".toList, "schemas".toList, component.toList] := by
  obtain ⟨rest, text, rfl⟩ := componentName?_eq_some.mp named
  have single : ∀ c ∈ rest, decide (c = '/') = false := by
    intro c member
    refine decide_eq_false fun slash => flat ⟨rest, ?_, slash ▸ member⟩
    exact Text.dropLeading?_eq_some.mpr text
  have place : schemaPlace.toList = '#' :: '/' :: ("components".toList ++ '/' :: ("schemas".toList ++ ['/'])) := by
    decide
  have way : segments? ref = some ((Text.fields (· = '/')
      ("components".toList ++ '/' :: ("schemas".toList ++ '/' :: rest))).map unescape) := by
    rw [segments?, text, place]
    simp
  have outer : ∀ c ∈ "components".toList, decide (c = '/') = false := by simp
  have inner : ∀ c ∈ "schemas".toList, decide (c = '/') = false := by simp
  rw [way, Text.fields_append outer rfl, Text.fields_append inner rfl, Text.fields_of_none single]
  have first : unescape "components".toList = "components".toList := by decide
  have second : unescape "schemas".toList = "schemas".toList := by decide
  rw [List.map_cons, List.map_cons, List.map_singleton, first, second, String.toList_ofList (l := unescape rest)]

/-- A step leads to a value under a key, or to an item of a list. -/
theorem step_ok {ref : String} {segment : List Char} {node found : Value}
    (done : (step ref segment node : Except Fault Value) = .ok found) :
    node.field? (String.ofList segment) = some found ∨
      ∃ items index, node = .list items ∧ Number.limitedWhole? segment = some index ∧
        itemAt? items index = some found := by
  cases node with
  | map entries =>
    simp only [step, shape_except, Value.shape_map, except_bind_ok] at done
    split at done
    · rename_i next isNext
      cases done
      exact .inl isNext
    · cases done
  | list items =>
    simp only [step, shape_except, Value.shape_list, except_bind_ok] at done
    split at done
    · rename_i next isNext
      cases done
      obtain ⟨index, isIndex, isItem⟩ := Option.bind_eq_some_iff.mp isNext
      exact .inr ⟨items, index, rfl, isIndex, isItem⟩
    · cases done
  | _ => cases done

/-- A step by a segment that is no number leads to a value under a key. -/
theorem step_key_ok {ref : String} {segment : List Char} {node found : Value}
    (noNumber : Number.limitedWhole? segment = none)
    (done : (step ref segment node : Except Fault Value) = .ok found) :
    node.field? (String.ofList segment) = some found := by
  rcases step_ok done with under | ⟨_, _, -, isNumber, -⟩
  · exact under
  · rw [noNumber] at isNumber
    cases isNumber

/-- A reference to a component schema that can be followed leads to what stands under its name, among schemas that
are not empty. -/
theorem resolve_component_ok {ref component : String} {document found : Value}
    (named : componentName? ref = some component) (flat : ¬ IsDeep ref)
    (done : (resolve ref document : Except Fault Value) = .ok found) :
    ∃ schemas, (document.field? "components").bind (·.field? "schemas") = some schemas ∧ schemas.truthy = true ∧
      (schemas.shape.isMap = true → schemas.field? component = some found) := by
  rw [resolve, segments?_of_component named flat] at done
  simp only [walk, bind_eq_ok] at done
  obtain ⟨components, first, schemas, second, last, third, ended⟩ := done
  cases ended
  have isFirst := step_key_ok (by decide +kernel) first
  have isSecond := step_key_ok (by decide +kernel) second
  rw [String.ofList_toList] at isFirst isSecond
  refine ⟨schemas, by rw [isFirst, Option.bind_some, isSecond], ?_⟩
  rcases step_ok third with under | ⟨items, index, rfl, -, isItem⟩
  · rw [String.ofList_toList] at under
    refine ⟨?_, fun _ => under⟩
    cases schemas with
    | map entries =>
      cases entries with
      | nil => cases under
      | cons => rfl
    | _ => cases under
  · refine ⟨?_, nofun⟩
    cases items with
    | nil =>
      simp only [itemAt?, List.getElem?_nil, ite_self] at isItem
      cases isItem
    | cons => rfl

end Reference

end ClientGen
