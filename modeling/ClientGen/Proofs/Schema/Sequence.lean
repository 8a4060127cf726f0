import ClientGen.Proofs.Schema.Budget

/-!
Schemas that are converted one after another. The members of a union, the copies for several types and the properties
of a record are converted in order, until one of them fails (`inSequence`). A schema among them comes up if those before
it have types (`ComesUp`). A sequence does not run out of steps if no schema that comes up does (`inSequence_halts`),
and a schema that comes up in a sequence that has not run out of steps needs fewer (`halts_of_comesUp`). Whatever form a
schema has, the same holds of the parts of its form (`build_halts`, `halts_of_build`).
-/

namespace ClientGen.SchemaType

/-- A schema with the name that it is to have, if any. -/
abbrev Visit := Option String × Value

/-- The conversion of a schema does not run out of a number of steps. -/
def Halts (document : Value) (fuel : Nat) (visit : Visit) : Prop :=
  (convert document fuel visit.1 visit.2 : Except Fault Expr) ≠ .error tooDeep

/-- The types of several schemas, with fewer and fewer steps left. What is not announced has steps to spare. -/
def inSequence (document : Value) (spare : Nat) : Nat → List Value → Except Fault (List Expr)
  | 0, _ => .error tooDeep
  | _ + 1, [] => .ok []
  | fuel + 1, schema :: rest => do
    let first ← convert document (fuel + spare) none schema
    return first :: (← inSequence document spare fuel rest)

/-- A schema comes up among several that are converted in order: those before it have types. -/
inductive ComesUp (document : Value) : List Value → Value → Prop
  | first {schema : Value} {rest : List Value} : ComesUp document (schema :: rest) schema
  | later {schema earlier : Value} {rest : List Value} {type : Expr} (typed : Converts document none earlier type)
    (comesUp : ComesUp document rest schema) : ComesUp document (earlier :: rest) schema

section

variable {document schema : Value} {schemas : List Value} {fuel less more spare : Nat}

theorem ComesUp.mem (comesUp : ComesUp document schemas schema) : schema ∈ schemas := by
  induction comesUp with
  | first => exact List.mem_cons_self
  | later _ _ ih => exact List.mem_cons_of_mem _ ih

theorem map_eq_error {α β : Type} {f : α → β} {result : Except Fault α} {fault : Fault} :
    f <$> result = .error fault ↔ result = .error fault := by
  cases result with
  | ok a => exact ⟨nofun, nofun⟩
  | error other => exact ⟨fun failed => by cases failed; rfl, fun failed => by cases failed; rfl⟩

theorem Extends.eq {α : Type} {result more : Except Fault α} (extends_ : Extends result more)
    (ended : result ≠ .error tooDeep) : more = result := extends_.resolve_left ended

theorem not_halts_zero (visit : Visit) : ¬ Halts document 0 visit := by
  intro halts
  apply halts
  simp [convert]

/-- With more steps than suffice a conversion comes to the same result. -/
theorem Halts.eq {visit : Visit} (halts : Halts document less visit) (fewer : less ≤ more) :
    (convert document more visit.1 visit.2 : Except Fault Expr) = convert document less visit.1 visit.2 :=
  (convert_mono fewer).eq halts

theorem Halts.mono {visit : Visit} (halts : Halts document less visit) (fewer : less ≤ more) :
    Halts document more visit := by
  rwa [Halts, halts.eq fewer]

/-- A schema that has a type has it with any number of steps that suffices. -/
theorem Halts.typed {visit : Visit} {type : Expr} (halts : Halts document fuel visit)
    (typed : Converts document visit.1 visit.2 type) :
    (convert document fuel visit.1 visit.2 : Except Fault Expr) = .ok type := by
  obtain ⟨steps, converted⟩ := typed
  have halted : Halts document steps visit := by
    rw [Halts, converted]
    exact nofun
  rw [← halts.eq (Nat.le_max_left fuel steps), halted.eq (Nat.le_max_right fuel steps), converted]

/-! ### Sequences -/

/-- The items of a list from an index on are converted in sequence. -/
theorem convertItems_eq (document : Value) (fuel index : Nat) (items : List Value) :
    convertItems document fuel (.list items) index = inSequence document 0 fuel (items.drop index) := by
  induction fuel generalizing index with
  | zero => rfl
  | succ fuel ih =>
    rw [convertItems_list, ih]
    cases rest : items.drop index with
    | nil => rfl
    | cons item others =>
      have tail : items.drop (index + 1) = others := by rw [← List.tail_drop, rest, List.tail_cons]
      rw [tail]
      rfl

/-- Copies are mappings that are not announced, which takes a step less. -/
theorem convertCopies_eq (document : Value) (fuel : Nat) (entries : List (Atom × Value)) (types : List Value) :
    convertCopies document fuel (types.map (retypedTo entries)) =
      inSequence document 1 fuel (types.map (retypedTo entries)) := by
  induction types generalizing fuel with
  | nil => cases fuel <;> rfl
  | cons type rest ih =>
    cases fuel with
    | zero => rfl
    | succ fuel =>
      have announced : (convert document (fuel + 1) none (retypedTo entries type) : Except Fault Expr) =
          unannounced document fuel none (retypedTo entries type) := convert_map _ none document fuel
      simp only [List.map_cons, convertCopies, inSequence, announced, ih]

/-- The entries of a record are its properties with the types that they have in sequence. -/
theorem convertProperties_eq (document : Value) (fuel : Nat) (required : List Value)
    (properties : List (Atom × Value)) :
    convertProperties document fuel required properties =
      (List.zipWith (fun property type => recordEntry required property.1 type) properties ·) <$>
        inSequence document 0 fuel (properties.map (·.2)) := by
  induction properties generalizing fuel with
  | nil => cases fuel <;> rfl
  | cons property rest ih =>
    cases fuel with
    | zero => rfl
    | succ fuel =>
      simp only [convertProperties, List.map_cons, inSequence, Nat.add_zero, ih]
      cases (convert document fuel none property.2 : Except Fault Expr) with
      | error fault => rfl
      | ok first => cases inSequence document 0 fuel (rest.map (·.2)) <;> rfl

theorem inSequence_cons {rest : List Value} {type : Expr}
    (first : (convert document (fuel + spare) none schema : Except Fault Expr) = .ok type) :
    inSequence document spare (fuel + 1) (schema :: rest) = (type :: ·) <$> inSequence document spare fuel rest := by
  rw [inSequence, first, except_bind_ok]
  cases inSequence document spare fuel rest <;> rfl

theorem inSequence_of_error {rest : List Value} {fault : Fault}
    (failed : (convert document (fuel + spare) none schema : Except Fault Expr) = .error fault) :
    inSequence document spare (fuel + 1) (schema :: rest) = .error fault := by
  rw [inSequence, failed]
  rfl

theorem inSequence_mono (enough : fuel ≤ more) :
    Extends (inSequence document spare fuel schemas) (inSequence document spare more schemas) := by
  induction schemas generalizing fuel more with
  | nil =>
    cases fuel with
    | zero => exact .inl rfl
    | succ fuel =>
      obtain ⟨more, rfl⟩ : ∃ less, more = less + 1 := ⟨more - 1, by omega⟩
      exact .refl _
  | cons schema rest ih =>
    cases fuel with
    | zero => exact .inl rfl
    | succ fuel =>
      obtain ⟨more, rfl⟩ : ∃ less, more = less + 1 := ⟨more - 1, by omega⟩
      have first : Extends (convert document (fuel + spare) none schema) (convert document (more + spare) none schema) :=
        convert_mono (by omega)
      exact first.bind fun _ => (ih (by omega)).bind fun _ => .refl _

/-- Where a sequence has not run out of steps, a schema that comes up in it needs fewer. -/
theorem halts_of_comesUp (ended : inSequence document spare fuel schemas ≠ .error tooDeep)
    (comesUp : ComesUp document schemas schema) : ∃ less < fuel, Halts document (less + spare) (none, schema) := by
  induction comesUp generalizing fuel with
  | first =>
    cases fuel with
    | zero => exact absurd rfl ended
    | succ fuel => exact ⟨fuel, Nat.lt_succ_self fuel, fun out => ended (inSequence_of_error out)⟩
  | @later _ earlier rest type typed _ ih =>
    cases fuel with
    | zero => exact absurd rfl ended
    | succ fuel =>
      have halts : Halts document (fuel + spare) (none, earlier) := fun out => ended (inSequence_of_error out)
      rw [inSequence_cons (halts.typed typed), Ne, map_eq_error] at ended
      obtain ⟨less, fewer, halts⟩ := ih ended
      exact ⟨less, Nat.lt_succ_of_lt fewer, halts⟩

/-- If no schema that comes up runs out of steps, neither does the sequence. -/
theorem inSequence_halts (spare : Nat)
    (each : ∀ schema, ComesUp document schemas schema → ∃ fuel, Halts document fuel (none, schema)) :
    ∃ fuel, inSequence document spare fuel schemas ≠ .error tooDeep := by
  induction schemas with
  | nil => exact ⟨1, nofun⟩
  | cons schema rest ih =>
    obtain ⟨steps, halts⟩ := each schema .first
    cases converted : (convert document steps none schema : Except Fault Expr) with
    | error fault =>
      have failed := (halts.eq (Nat.le_add_right steps spare)).trans converted
      refine ⟨steps + 1, ?_⟩
      rw [inSequence_of_error failed]
      rintro ⟨⟩
      exact halts converted
    | ok type =>
      obtain ⟨others, ended⟩ := ih fun later comesUp => each later (.later ⟨steps, converted⟩ comesUp)
      have enough : steps ≤ max steps others + spare := by omega
      have first := (halts.eq enough).trans converted
      refine ⟨max steps others + 1, ?_⟩
      rw [inSequence_cons first, Ne, map_eq_error, (inSequence_mono (Nat.le_max_right steps others)).eq ended]
      exact ended

end

/-! ### Parts of a form -/

section

variable {document part : Value} {entries : List (Atom × Value)} {types : List Value} {name : Option String}
  {form : Form} {fuel : Nat}

/-- The type of a form is made from nothing, from the type of its only part, or from those of its parts in sequence. -/
theorem build_cases (formed : formOf name entries types = .ok form) (document : Value) :
    (form.parts = [] ∧ ∃ type, ∀ fuel, form.build document fuel name = .ok type) ∨
    (∃ part, form.parts = [part] ∧ ∃ assemble : Expr → Expr, ∀ fuel,
      form.build document fuel name = assemble <$> convert document fuel none part) ∨
    ∃ spare ≤ 1, ∃ assemble : List Expr → Expr, ∀ fuel,
      form.build document fuel name = assemble <$> inSequence document spare fuel form.parts := by
  have isFormed := formed_of_formOf formed
  cases isFormed with
  | listed | const | primitive | anything => exact .inl ⟨rfl, _, fun _ => rfl⟩
  | union =>
    refine .inr (.inr ⟨0, Nat.zero_le 1, unionType, fun fuel => ?_⟩)
    rw [Form.build, convertItems_eq]
    rfl
  | conjunction =>
    refine .inr (.inr ⟨0, Nat.zero_le 1, intersectionType, fun fuel => ?_⟩)
    rw [Form.build, convertItems_eq]
    rfl
  | copies =>
    refine .inr (.inr ⟨1, Nat.le_refl 1, unionType, fun fuel => ?_⟩)
    rw [Form.build, convertCopies_eq]
    rfl
  | array =>
    cases Entries.field? entries "items" with
    | none => exact .inl ⟨rfl, _, fun _ => rfl⟩
    | some items => exact .inr (.inl ⟨items, rfl, _, fun _ => rfl⟩)
  | @record own properties required =>
    refine .inr (.inr ⟨0, Nat.zero_le 1, fun types => typedMapping (name.getD "")
      (List.zipWith (fun property type => recordEntry required property.1 type) properties types), fun fuel => ?_⟩)
    rw [Form.build, convertProperties_eq]
    exact Functor.map_map _ _ _
  | mapping =>
    cases entriesAt entries "additionalProperties" with
    | none => exact .inl ⟨rfl, _, fun _ => rfl⟩
    | some inner => exact .inr (.inl ⟨.map inner, rfl, _, fun _ => rfl⟩)

/-- The steps that suffice for a form suffice for each of its parts that comes up. -/
theorem halts_of_build (formed : formOf name entries types = .ok form)
    (ended : form.build document fuel name ≠ .error tooDeep) (comesUp : ComesUp document form.parts part) :
    Halts document fuel (none, part) := by
  rcases build_cases formed document with
    ⟨none, -⟩ | ⟨single, isSingle, assemble, build⟩ | ⟨spare, few, assemble, build⟩
  · rw [none] at comesUp
    cases comesUp
  · rw [isSingle] at comesUp
    cases comesUp with
    | first =>
      rw [build, Ne, map_eq_error] at ended
      exact ended
    | later _ further => cases further
  · rw [build, Ne, map_eq_error] at ended
    obtain ⟨less, fewer, halts⟩ := halts_of_comesUp ended comesUp
    exact halts.mono (by omega)

/-- If every part of a form that comes up can be converted, so can the form. -/
theorem build_halts (formed : formOf name entries types = .ok form)
    (each : ∀ part, ComesUp document form.parts part → ∃ fuel, Halts document fuel (none, part)) :
    ∃ fuel, form.build document fuel name ≠ .error tooDeep := by
  rcases build_cases formed document with
    ⟨-, type, build⟩ | ⟨single, isSingle, assemble, build⟩ | ⟨spare, -, assemble, build⟩
  · refine ⟨0, ?_⟩
    rw [build]
    exact nofun
  · obtain ⟨fuel, halts⟩ := each single (by rw [isSingle]; exact .first)
    refine ⟨fuel, ?_⟩
    rw [build, Ne, map_eq_error]
    exact halts
  · obtain ⟨fuel, ended⟩ := inSequence_halts spare each
    refine ⟨fuel, ?_⟩
    rw [build, Ne, map_eq_error]
    exact ended

end

end ClientGen.SchemaType
