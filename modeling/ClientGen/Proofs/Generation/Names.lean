import ClientGen.Proofs.Generation.Module
import ClientGen.Proofs.Naming
import Mathlib.Data.List.Nodup
import Mathlib.Tactic.FinCases

/-!
The names of a module. A run without plugins binds the names of the head, the identifiers of the component
schemas, and the names of the functions, in this order. Functions always get names of their own; the
identifiers of types are taken as they come (`distinct_names_iff`).
-/

namespace ClientGen.Generation

open Run

/-- The names that the head of a module binds. -/
def headNames : List String :=
  ["annotations", "Any", "Literal", "Optional", "Required", "TypedDict", "Union", "quote", "httpx", "defaults",
    "servers", "_request"]

/-- The names of the head that are written like types. -/
def headTypes : List String := ["Any", "Literal", "Optional", "Required", "TypedDict", "Union", "_request"]

/-- The names of the head that are written like functions. -/
def headFunctions : List String := ["annotations", "quote", "httpx", "defaults", "servers"]

/-- The names that statements bind, one after the other. -/
def boundNames (statements : List Statement) : List String := statements.flatMap Statement.binds

private theorem boundNames_module (defaults servers : List (Expr × Expr)) (parts : List (String × Expr))
    (functions : List Function) :
    boundNames (headOf defaults servers ++ parts.map (fun part => .assign part.1 part.2) ++ functions.map .define) =
      headNames ++ parts.map (·.1) ++ functions.map (·.name) := by
  have types : boundNames (parts.map fun part => .assign part.1 part.2) = parts.map (·.1) := by
    rw [boundNames, List.flatMap_map, List.map_eq_flatMap]
    rfl
  have defined : boundNames (functions.map .define) = functions.map (·.name) := by
    rw [boundNames, List.flatMap_map, List.map_eq_flatMap]
    rfl
  simp only [boundNames, List.flatMap_append] at types defined ⊢
  rw [types, defined]
  rfl

theorem wantedName_begins {method path base : String} {operation : Value} (isMethod : method ∈ methods)
    (wanted : (Operation.wantedName method path operation : Except Fault String) = .ok base) :
    Naming.beginsSnake base.toList = true := by
  have fits : Naming.IsUnguarded method.toList := by
    fin_cases isMethod <;> exact ⟨_, _, rfl, .inl (by decide)⟩
  simp only [Operation.wantedName, bind_eq_ok] at wanted
  obtain ⟨stated, -, id, -, wanted⟩ := wanted
  cases id with
  | none =>
    rw [lift_except] at wanted
    exact Naming.functionName_begins fits wanted
  | some id =>
    obtain ⟨layer, -, wanted⟩ := bind_eq_ok.mp wanted
    split at wanted
    · rw [lift_except] at wanted
      exact Naming.functionName_begins fits wanted
    · cases wanted

theorem convert_name {document operation : Value} {method path : String} {item : Option Value} {taken : List String}
    {function : Function}
    (converted : (Operation.convert (Operation.typeOf document) document method path operation item (some taken) :
      Except Fault Function) = .ok function) :
    ∃ base, (Operation.wantedName method path operation : Except Fault String) = .ok base ∧
      function.name = Operation.freshName taken base := by
  simp only [Operation.convert, bind_eq_ok] at converted
  obtain ⟨base, wanted, _, -, _, -, _, -, _, -, _, -, ended⟩ := converted
  exact ⟨base, wanted, by cases ended; rfl⟩

/-- Functions get names of their own, which begin like names of functions. -/
theorem converted_names {document : Value} {taken : List String} {visits : List Visit} {functions : List Function}
    (converted : Converted document taken visits functions) (areMethods : ∀ visit ∈ visits, visit.method ∈ methods) :
    (functions.map (·.name)).Nodup ∧ (∀ function ∈ functions, function.name ∉ taken) ∧
      ∀ function ∈ functions, Naming.beginsSnake function.name.toList = true := by
  induction converted with
  | nil => simp
  | cons first rest ih =>
    rename_i taken visit function visits functions
    obtain ⟨base, wanted, named⟩ := convert_name first
    obtain ⟨distinct, free, begin⟩ := ih fun visit member => areMethods visit (List.mem_cons_of_mem _ member)
    have fresh : function.name ∉ taken := named ▸ Operation.freshName_not_mem taken base
    have begins : Naming.beginsSnake function.name.toList = true := by
      obtain ⟨more, text⟩ := Operation.freshName_begins taken base
      rw [named, text]
      exact Naming.beginsSnake_append (wantedName_begins (areMethods visit List.mem_cons_self) wanted) more
    refine ⟨?_, ?_, ?_⟩
    · refine List.nodup_cons.mpr ⟨fun member => ?_, distinct⟩
      obtain ⟨other, isLater, same⟩ := List.mem_map.mp member
      exact free other isLater (by simp [same])
    · intro other member
      rcases List.mem_cons.mp member with rfl | later
      · exact fresh
      · exact fun isTaken => free other later (List.mem_append_left _ isTaken)
    · intro other member
      rcases List.mem_cons.mp member with rfl | later
      · exact begins
      · exact begin other later

/-- A name that begins like the name of a function is none of those in the head that are written like types. -/
private theorem not_headTypes {name : String} (begins : Naming.beginsSnake name.toList = true) : name ∉ headTypes := by
  intro member
  fin_cases member <;> exact absurd begins (by decide)

/-- The name of a type is none of those in the head that are written like functions. -/
private theorem not_headFunctions (name : String) : Naming.typeName name ∉ headFunctions := by
  intro member
  have begins := fun c rest => @Naming.typeName_begins name c rest
  generalize Naming.typeName name = text at member begins
  fin_cases member <;> exact absurd (begins _ _ rfl) (by decide)

private theorem mem_headNames {name : String} : name ∈ headNames ↔ name ∈ headTypes ∨ name ∈ headFunctions := by
  simp only [headNames, headTypes, headFunctions, List.mem_cons, List.not_mem_nil]
  tauto

/-- Names that follow those of the head are distinct if they are so among themselves, and none of them is in the
head. -/
private theorem nodup_module_iff {types functions : List String} (distinct : functions.Nodup)
    (noFunction : ∀ name ∈ types, name ∉ headFunctions) (noType : ∀ name ∈ functions, name ∉ headTypes) :
    (headNames ++ types ++ functions).Nodup ↔
      types.Nodup ∧ (∀ name ∈ types, name ∉ headTypes) ∧ (∀ name ∈ functions, name ∉ headFunctions) ∧
        ∀ name ∈ functions, name ∉ types := by
  have head : headNames.Nodup := by decide
  rw [List.nodup_append', List.nodup_append', List.disjoint_append_left]
  constructor
  · rintro ⟨⟨-, types, apart⟩, -, apart', disjoint⟩
    refine ⟨types, fun name member inHead => ?_, fun name member inHead => ?_, fun name member inTypes => ?_⟩
    · exact apart (mem_headNames.mpr (.inl inHead)) member
    · exact apart' (mem_headNames.mpr (.inr inHead)) member
    · exact disjoint inTypes member
  · rintro ⟨types, apart, apart', disjoint⟩
    refine ⟨⟨head, types, fun name inHead member => ?_⟩, distinct, fun name inHead member => ?_,
      fun name inTypes member => disjoint name member inTypes⟩
    · rcases mem_headNames.mp inHead with isType | isFunction
      · exact apart name member isType
      · exact noFunction name member isFunction
    · rcases mem_headNames.mp inHead with isType | isFunction
      · exact noType name member isType
      · exact apart' name member isFunction

/-- The names of a module are those of the head, the identifiers of the component schemas and the names of the
functions. The functions are told apart; all names are distinct exactly if the identifiers are told apart as
well, and neither identifiers nor functions take a name of the head or of one another. -/
theorem distinct_names_iff {document : Value} {world later : World} {outcome : Outcome}
    (done : on (plain document) { world with draft := {} } = (.ok outcome, later)) :
    boundNames later.draft.toList = headNames ++ outcome.types ++ outcome.functions ∧
      outcome.types = (componentsOf document).map identifierOf ∧ outcome.functions.Nodup ∧
      ((boundNames later.draft.toList).Nodup ↔
        outcome.types.Nodup ∧ (∀ name ∈ outcome.types, name ∉ headTypes) ∧
          (∀ name ∈ outcome.functions, name ∉ headFunctions) ∧ ∀ name ∈ outcome.functions, name ∉ outcome.types) := by
  obtain ⟨defaults, servers, parts, visits, functions, extended, converted, types, selects, isConverted, names, -⟩ :=
    plain_generated done
  have bound : boundNames later.draft.toList = headNames ++ outcome.types ++ outcome.functions := by
    rw [extended.toList, boundNames_module, types, names]
  have areMethods : ∀ visit ∈ visits, visit.method ∈ methods := by
    intro visit member
    obtain ⟨_, _, _, -, -, -, isVisit⟩ := (selects visit).mp member
    exact isVisit.method
  have identifiers : outcome.types = (componentsOf document).map identifierOf := by
    rw [types, identifiers_of_parts converted]
  obtain ⟨distinct, -, begin⟩ := converted_names isConverted areMethods
  rw [← names] at distinct
  refine ⟨bound, identifiers, distinct, ?_⟩
  rw [bound]
  refine nodup_module_iff distinct ?_ ?_
  · intro name member
    rw [identifiers] at member
    obtain ⟨entry, -, rfl⟩ := List.mem_map.mp member
    exact not_headFunctions _
  · intro name member
    rw [names] at member
    obtain ⟨function, isFunction, rfl⟩ := List.mem_map.mp member
    exact not_headTypes (begin function isFunction)

/-- A document with component schemas under the given keys that admit everything, and no operations. -/
def componentsNamed (keys : List String) : Value :=
  .ofFields [("components", .ofFields [("schemas", .ofFields (keys.map fun key => (key, .map [])))])]

theorem distinct_names_pet_owner : ∃ outcome later,
    on (plain (componentsNamed ["pet", "owner"])) { ({} : World) with draft := {} } = (.ok outcome, later) ∧
      (boundNames later.draft.toList).Nodup := by
  obtain ⟨outcome, later, done⟩ : ∃ outcome later,
      on (plain (componentsNamed ["pet", "owner"])) { ({} : World) with draft := {} } = (.ok outcome, later) :=
    succeeds_of_isSome (by decide +kernel)
  obtain ⟨-, types, -, iff⟩ := distinct_names_iff done
  have functions : outcome.functions = [] := by
    have computed : ((on (plain (componentsNamed ["pet", "owner"])) { ({} : World) with draft := {} }).1.toOption.map
        Outcome.functions) = some [] := by decide +kernel
    simpa [done, Except.toOption] using computed
  have types' : outcome.types = ["Pet", "Owner"] := types.trans (by decide +kernel)
  refine ⟨outcome, later, done, iff.mpr ?_⟩
  rw [functions, types']
  decide

/-- Two keys can have one identifier. -/
theorem shared_identifier :
    ¬ ∀ (document : Value) (world later : World) (outcome : Outcome),
      on (plain document) { world with draft := {} } = (.ok outcome, later) →
        (boundNames later.draft.toList).Nodup := by
  intro always
  obtain ⟨outcome, later, done⟩ : ∃ outcome later,
      on (plain (componentsNamed ["pet", "Pet"])) { ({} : World) with draft := {} } = (.ok outcome, later) :=
    succeeds_of_isSome (by decide +kernel)
  have distinct := always _ _ _ _ done
  have repeated : ¬ (boundNames
      (on (plain (componentsNamed ["pet", "Pet"])) { ({} : World) with draft := {} }).2.draft.toList).Nodup := by
    decide +kernel
  rw [done] at repeated
  exact repeated distinct

end ClientGen.Generation
