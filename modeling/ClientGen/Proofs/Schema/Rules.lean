import ClientGen.Proofs.Schema.Form
import Mathlib.Data.List.Forall2
import Mathlib.Logic.Relation

/-!
The rules of conversion as one induction principle. A schema converts to a type if some number of steps
suffices (`Converts`). Whatever holds of the type of every form whose parts have it holds of the type of
every schema (`converts_induction`). The parts of a schema are the schemas whose types its own type is
built from (`Part`); what conversion reaches are the parts of parts (`Reaches`).
-/

namespace ClientGen.SchemaType

/-- A schema has a type, given enough steps. -/
def Converts (document : Value) (name : Option String) (schema : Value) (type : Expr) : Prop :=
  ∃ fuel, (convert document fuel name schema : Except Fault Expr) = .ok type

theorem converts_of_ofSchema {document schema : Value} {name : Option String} {type : Expr}
    (converted : ofSchema document name schema = .ok type) : Converts document name schema type :=
  ⟨_, converted⟩

/-- The schemas that are parts of a form, in the order in which they are converted. -/
def Form.parts : Form → List Value
  | literals _ => []
  | union members => members
  | conjunction members => members
  | copies members => members
  | array items => items.toList
  | record _ properties => properties.map (·.2)
  | mapping values => values.toList
  | simple _ => []

/-- The types of properties with their names; required ones are marked. -/
def recordEntry (required : List Value) (name : Atom) (type : Expr) : Expr × Expr :=
  (.constant (.atom name),
    if required.any (Value.same (.atom name)) then .index "Required" [type] else type)

/-- The type of a form whose parts have the given types. -/
inductive Form.Built (name : Option String) (P : Value → Expr → Prop) : Form → Expr → Prop
  | literals {values} : Built name P (.literals values) (literalType values)
  | union {members types} (parts : List.Forall₂ P members types) :
    Built name P (.union members) (unionType types)
  | conjunction {members types} (parts : List.Forall₂ P members types) :
    Built name P (.conjunction members) (intersectionType types)
  | copies {members types} (parts : List.Forall₂ P members types) :
    Built name P (.copies members) (unionType types)
  | arrayOfAny : Built name P (.array none) (.index "list" [.anything])
  | array {items type} (part : P items type) : Built name P (.array (some items)) (.index "list" [type])
  | record {required properties types} (parts : List.Forall₂ (fun property type => P property.2 type) properties types) :
    Built name P (.record required properties)
      (typedMapping (name.getD "")
        (List.zipWith (fun property type => recordEntry required property.1 type) properties types))
  | mappingToAny : Built name P (.mapping none) (.mappingTo .anything)
  | mapping {values type} (part : P values type) : Built name P (.mapping (some values)) (.mappingTo type)
  | simple {type} : Built name P (.simple type) type

theorem Form.Built.mono {name : Option String} {P Q : Value → Expr → Prop} (weaker : ∀ v t, P v t → Q v t)
    {form : Form} {type : Expr} (built : form.Built name P type) : form.Built name Q type := by
  cases built with
  | literals => exact .literals
  | union parts => exact .union (parts.imp fun _ _ => weaker _ _)
  | conjunction parts => exact .conjunction (parts.imp fun _ _ => weaker _ _)
  | copies parts => exact .copies (parts.imp fun _ _ => weaker _ _)
  | arrayOfAny => exact .arrayOfAny
  | array part => exact .array (weaker _ _ part)
  | record parts => exact .record (parts.imp fun _ _ => weaker _ _)
  | mappingToAny => exact .mappingToAny
  | mapping part => exact .mapping (weaker _ _ part)
  | simple => exact .simple

/-- What the types of parts have, they have as types of parts. -/
theorem Form.Built.attach {name : Option String} {P : Value → Expr → Prop} {form : Form} {type : Expr}
    (built : form.Built name P type) :
    form.Built name (fun schema type => schema ∈ form.parts ∧ P schema type) type := by
  cases built with
  | literals => exact .literals
  | union parts => exact .union ((List.forall₂_and_left _ _).mpr ⟨fun _ => id, parts⟩)
  | conjunction parts => exact .conjunction ((List.forall₂_and_left _ _).mpr ⟨fun _ => id, parts⟩)
  | copies parts => exact .copies ((List.forall₂_and_left _ _).mpr ⟨fun _ => id, parts⟩)
  | arrayOfAny => exact .arrayOfAny
  | array part => exact .array ⟨List.mem_singleton_self _, part⟩
  | record parts => exact .record ((List.forall₂_and_left _ _).mpr ⟨fun _ => List.mem_map_of_mem, parts⟩)
  | mappingToAny => exact .mappingToAny
  | mapping part => exact .mapping ⟨List.mem_singleton_self _, part⟩
  | simple => exact .simple

section

variable {document : Value}

/-- What has been converted with fewer steps than a bound. -/
private def Below (document : Value) (fuel : Nat) (schema : Value) (type : Expr) : Prop :=
  ∃ less < fuel, (convert document less none schema : Except Fault Expr) = .ok type

private theorem convertItems_built {fuel index : Nat} {items : List Value} {types : List Expr}
    (converted : (convertItems document fuel (.list items) index : Except Fault (List Expr)) = .ok types) :
    List.Forall₂ (Below document fuel) (items.drop index) types := by
  induction fuel generalizing index types with
  | zero => simp [convertItems] at converted
  | succ fuel ih =>
    rw [convertItems_list] at converted
    cases rest : items.drop index with
    | nil =>
      simp only [rest, Except.ok.injEq] at converted
      subst converted
      exact .nil
    | cons item others =>
      simp only [rest, bind_eq_ok, except_pure, Except.ok.injEq] at converted
      obtain ⟨first, firstConverted, later, laterConverted, rfl⟩ := converted
      have tail : items.drop (index + 1) = others := by rw [← List.tail_drop, rest, List.tail_cons]
      have laterBuilt := ih laterConverted
      rw [tail] at laterBuilt
      refine .cons ⟨fuel, by omega, firstConverted⟩ (laterBuilt.imp ?_)
      rintro schema type ⟨less, bound, done⟩
      exact ⟨less, by omega, done⟩

private theorem convertProperties_built {fuel : Nat} {required : List Value} {properties : List (Atom × Value)}
    {entries : List (Expr × Expr)}
    (converted : (convertProperties document fuel required properties : Except Fault (List (Expr × Expr))) =
      .ok entries) :
    ∃ types, List.Forall₂ (fun property type => Below document fuel property.2 type) properties types ∧
      entries = List.zipWith (fun property type => recordEntry required property.1 type) properties types := by
  induction properties generalizing fuel entries with
  | nil =>
    cases fuel with
    | zero => simp [convertProperties] at converted
    | succ fuel =>
      simp only [convertProperties, except_pure, Except.ok.injEq] at converted
      exact ⟨[], .nil, converted.symm⟩
  | cons property rest ih =>
    cases fuel with
    | zero => simp [convertProperties] at converted
    | succ fuel =>
      obtain ⟨name, schema⟩ := property
      simp only [convertProperties, bind_eq_ok, except_pure, Except.ok.injEq] at converted
      obtain ⟨first, firstConverted, later, laterConverted, rfl⟩ := converted
      obtain ⟨types, built, rfl⟩ := ih laterConverted
      refine ⟨first :: types, .cons ⟨fuel, by omega, firstConverted⟩ (built.imp ?_), rfl⟩
      rintro property type ⟨less, bound, done⟩
      exact ⟨less, by omega, done⟩

private theorem convertCopies_built {fuel : Nat} {copies : List Value} {types : List Expr}
    (converted : (convertCopies document fuel copies : Except Fault (List Expr)) = .ok types) :
    List.Forall₂ (fun schema type => ∃ less < fuel,
      (unannounced document less none schema : Except Fault Expr) = .ok type) copies types := by
  induction copies generalizing fuel types with
  | nil =>
    cases fuel with
    | zero => simp [convertCopies] at converted
    | succ fuel =>
      simp only [convertCopies, except_pure, Except.ok.injEq] at converted
      subst converted
      exact .nil
  | cons copy rest ih =>
    cases fuel with
    | zero => simp [convertCopies] at converted
    | succ fuel =>
      simp only [convertCopies, bind_eq_ok, except_pure, Except.ok.injEq] at converted
      obtain ⟨first, firstConverted, later, laterConverted, rfl⟩ := converted
      refine .cons ⟨fuel, by omega, firstConverted⟩ ((ih laterConverted).imp ?_)
      rintro schema type ⟨less, bound, done⟩
      exact ⟨less, by omega, done⟩

/-- Only mappings are read as schemas. -/
private theorem map_of_unannounced {fuel : Nat} {name : Option String} {schema : Value} {type : Expr}
    (done : (unannounced document fuel name schema : Except Fault Expr) = .ok type) :
    ∃ entries, schema = .map entries := by
  cases fuel with
  | zero => simp [unannounced] at done
  | succ fuel =>
    rw [unannounced, bind_eq_ok] at done
    obtain ⟨found, reference, -⟩ := done
    cases schema with
    | map entries => exact ⟨entries, rfl⟩
    | _ => exact absurd reference (reference?_of_not_map rfl found)

/-- A copy of a schema for one of its types is a mapping, so that it may as well be announced. -/
private theorem built_of_copies {fuel : Nat} {entries : List (Atom × Value)} {listed : List Value}
    {P : Option String → Value → Expr → Prop}
    (unannouncedIH : ∀ less < fuel, ∀ name inner type,
      (unannounced document less name (.map inner) : Except Fault Expr) = .ok type → P name (.map inner) type)
    {types : List Expr}
    (parts : List.Forall₂ (fun schema type => ∃ less < fuel,
      (unannounced document less none schema : Except Fault Expr) = .ok type) (listed.map (retypedTo entries)) types) :
    List.Forall₂ (fun schema type => Converts document none schema type ∧ P none schema type)
      (listed.map (retypedTo entries)) types := by
  rw [List.forall₂_map_left_iff] at parts ⊢
  refine parts.imp ?_
  rintro listedType type ⟨less, bound, done⟩
  exact ⟨⟨less + 1, by rw [retypedTo, convert_map]; exact done⟩, unannouncedIH less bound none _ type done⟩

private theorem formed_built {fuel : Nat} {name : Option String} {entries : List (Atom × Value)}
    {listed : List Value} {form : Form} {P : Option String → Value → Expr → Prop}
    (convertIH : ∀ less ≤ fuel, ∀ name schema type,
      (convert document less name schema : Except Fault Expr) = .ok type → P name schema type)
    (unannouncedIH : ∀ less ≤ fuel, ∀ name inner type,
      (unannounced document less name (.map inner) : Except Fault Expr) = .ok type → P name (.map inner) type)
    (formed : formOf name entries listed = .ok form) {type : Expr}
    (built : form.build document fuel name = .ok type) :
    form.Built name (fun schema type => Converts document none schema type ∧ P none schema type) type := by
  have lower : ∀ schema type, Below document fuel schema type →
      Converts document none schema type ∧ P none schema type := by
    rintro schema type ⟨less, bound, done⟩
    exact ⟨⟨less, done⟩, convertIH less (Nat.le_of_lt bound) none schema type done⟩
  cases form with
  | literals values => cases built; exact .literals
  | union members =>
    obtain ⟨types, converted, rfl⟩ := map_eq_ok.mp built
    exact .union ((convertItems_built converted).imp lower)
  | conjunction members =>
    obtain ⟨types, converted, rfl⟩ := map_eq_ok.mp built
    exact .conjunction ((convertItems_built converted).imp lower)
  | copies members =>
    obtain ⟨types, converted, rfl⟩ := map_eq_ok.mp built
    have isCopies := formed_of_formOf formed
    cases isCopies with
    | copies several =>
      have copied : ∀ less < fuel, ∀ name inner type,
          (unannounced document less name (.map inner) : Except Fault Expr) = .ok type → P name (.map inner) type :=
        fun less bound => unannouncedIH less (Nat.le_of_lt bound)
      exact .copies (built_of_copies copied (convertCopies_built converted))
  | array items =>
    cases items with
    | none => cases built; exact .arrayOfAny
    | some items =>
      obtain ⟨type, converted, rfl⟩ := map_eq_ok.mp built
      exact .array ⟨⟨fuel, converted⟩, convertIH fuel (Nat.le_refl _) none items type converted⟩
  | record required properties =>
    obtain ⟨entries, converted, rfl⟩ := map_eq_ok.mp built
    obtain ⟨types, parts, rfl⟩ := convertProperties_built converted
    exact .record (parts.imp fun _ _ => lower _ _)
  | mapping values =>
    cases values with
    | none => cases built; exact .mappingToAny
    | some values =>
      obtain ⟨type, converted, rfl⟩ := map_eq_ok.mp built
      exact .mapping ⟨⟨fuel, converted⟩, convertIH fuel (Nat.le_refl _) none values type converted⟩
  | simple type => cases built; exact .simple

/-- What holds of the types that the rules give, if it holds of the types of the parts, holds of the type
of every schema. -/
theorem converts_induction {P : Option String → Value → Expr → Prop}
    (other : ∀ name schema, schema.shape.isMap = false → P name schema .anything)
    (component : ∀ name entries target component, Entries.field? entries "$ref" = some target →
      component? target.shape = .ok (some component) →
      P name (.map entries) (.text (Naming.typeName component)))
    (follow : ∀ name entries target inner type, Entries.field? entries "$ref" = some target →
      component? target.shape = .ok none →
      (Reference.deref (.map entries) document : Except Fault Value) = .ok (.map inner) →
      P name (.map inner) type → P name (.map entries) type)
    (nullOnly : ∀ name entries, Entries.field? entries "$ref" = none → typesOf entries = .nullOnly →
      P name (.map entries) (.constant .null))
    (formed : ∀ name entries nullable types form type, Entries.field? entries "$ref" = none →
      typesOf entries = .types nullable types → formOf name entries types = .ok form →
      form.Built name (fun schema type => Converts document none schema type ∧ P none schema type) type →
      P name (.map entries) (admitNull (nullable || listsNull entries) type))
    {name : Option String} {schema : Value} {type : Expr} (converted : Converts document name schema type) :
    P name schema type := by
  have all : ∀ fuel,
      (∀ name schema type, (convert document fuel name schema : Except Fault Expr) = .ok type →
        P name schema type) ∧
      (∀ name entries type, (unannounced document fuel name (.map entries) : Except Fault Expr) = .ok type →
        P name (.map entries) type) := by
    intro fuel
    induction fuel using Nat.strongRecOn with
    | ind fuel ih =>
      cases fuel with
      | zero => exact ⟨by simp [convert], by simp [unannounced]⟩
      | succ fuel =>
        refine ⟨?_, ?_⟩
        · intro name schema type done
          cases isMap : schema.shape.isMap with
          | false =>
            rw [convert_of_not_map name document fuel isMap] at done
            cases done
            exact other name schema isMap
          | true =>
            obtain ⟨entries, rfl⟩ : ∃ entries, schema = .map entries := by
              cases schema <;> simp [Shape.isMap] at isMap ⊢
            rw [convert_map] at done
            exact (ih fuel (by omega)).2 name entries type done
        · intro name entries type done
          rw [unannounced_map] at done
          cases reference : Entries.field? entries "$ref" with
          | some target =>
            simp only [reference, bind_eq_ok] at done
            obtain ⟨found, named, done⟩ := done
            cases found with
            | some name' =>
              cases done
              exact component name entries target name' reference named
            | none =>
              simp only [bind_eq_ok] at done
              obtain ⟨node, followed, done⟩ := done
              obtain ⟨inner, rfl⟩ := map_of_unannounced done
              exact follow name entries target inner type reference named followed
                ((ih fuel (by omega)).2 name inner type done)
          | none =>
            simp only [reference] at done
            cases typed : typesOf entries with
            | nullOnly =>
              simp only [typed, Except.ok.injEq] at done
              subst done
              exact nullOnly name entries reference typed
            | types nullable types =>
              simp only [typed, map_eq_ok] at done
              obtain ⟨inner, done, rfl⟩ := done
              cases fuel with
              | zero => simp [shaped] at done
              | succ fuel =>
                rw [shaped_map, bind_eq_ok] at done
                obtain ⟨form, isForm, built⟩ := done
                refine formed name entries nullable types form inner reference typed isForm ?_
                exact formed_built (fun less bound => (ih less (by omega)).1)
                  (fun less bound => (ih less (by omega)).2) isForm built
  obtain ⟨fuel, done⟩ := converted
  exact (all fuel).1 name schema type done

end

end ClientGen.SchemaType
