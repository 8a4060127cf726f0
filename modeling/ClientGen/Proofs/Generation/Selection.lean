import ClientGen.Proofs.PlainReading

/-!
Which operations become functions. The settings choose operations by their tags and by whether they are
deprecated (`Chosen`). The chosen operations of a document come by paths in document order, and below a path by
methods in their fixed order (`visitsIn`).
-/

namespace ClientGen

/-- The members that a loop over a value visits; what no loop can go over has none. -/
def Value.members (v : Value) : List Value := v.members?.toOption.getD []

namespace Generation

open Run

/-- The tags of an operation. -/
def tagsOf (operation : Value) : List Value := ((operation.field? "tags").map Value.members).getD []

/-- An operation that the document calls deprecated. -/
def isDeprecated (operation : Value) : Bool := (operation.field? "deprecated").any Value.truthy

/-- An operation has one of the listed tags. -/
def SharesTag (operation listed : Value) : Prop :=
  ∃ tag ∈ tagsOf operation, ∃ other ∈ listed.members, tag.same other = true

instance (operation listed : Value) : Decidable (SharesTag operation listed) :=
  inferInstanceAs (Decidable (∃ tag ∈ tagsOf operation, ∃ other ∈ listed.members, tag.same other = true))

/-- The settings choose an operation: it has one of the wanted tags, if any tags are wanted, it has none of the
excluded tags, and it is not deprecated, unless deprecated operations are included. -/
def Chosen (settings : Settings) (operation : Value) : Prop :=
  ((settings.get "include_tags").truthy = false ∨ SharesTag operation (settings.get "include_tags")) ∧
    ¬ SharesTag operation (settings.get "exclude_tags") ∧
    (isDeprecated operation = false ∨ (settings.get "include_deprecated").truthy = true)

instance (settings : Settings) (operation : Value) : Decidable (Chosen settings operation) :=
  inferInstanceAs (Decidable (_ ∧ _ ∧ _))

/-- An operation with its place in the document. -/
structure Visit where
  path : String
  method : String
  operation : Value
  item : Value

/-- The chosen operations of a path item under some methods, in the order of the methods. -/
def visitsUnder (settings : Settings) (path : Atom) (item : Value) (methods : List String) : List Visit :=
  methods.filterMap fun method =>
    match item.field? method with
    | some operation =>
      if operation.shape.isMap = true ∧ Chosen settings operation then
        some ⟨(Value.atom path).displayed, method, operation, item⟩
      else none
    | none => none

/-- The chosen operations below some paths of a document, in the order of the paths. What a path leads to may be
given by reference, and counts if it is a mapping. -/
def visitsIn (document : Value) (settings : Settings) (paths : List (Atom × Value)) : List Visit :=
  paths.flatMap fun entry =>
    match (Reference.deref entry.2 document : Except Fault Value) with
    | .ok item => if item.shape.isMap = true then visitsUnder settings entry.1 item methods else []
    | .error _ => []

theorem visitsUnder_cons_of_chosen {settings : Settings} {path : Atom} {item operation : Value} {method : String}
    {rest : List String} (found : item.field? method = some operation) (isMap : operation.shape.isMap = true)
    (chosen : Chosen settings operation) :
    visitsUnder settings path item (method :: rest) =
      ⟨(Value.atom path).displayed, method, operation, item⟩ :: visitsUnder settings path item rest := by
  rw [visitsUnder, List.filterMap_cons_some (by rw [found]; exact if_pos ⟨isMap, chosen⟩)]
  rfl

theorem visitsUnder_cons_of_not_chosen {settings : Settings} {path : Atom} {item : Value} {method : String}
    {rest : List String} (passed : ∀ operation, item.field? method = some operation → operation.shape.isMap = true →
      ¬ Chosen settings operation) :
    visitsUnder settings path item (method :: rest) = visitsUnder settings path item rest := by
  rw [visitsUnder, List.filterMap_cons_none ?_]
  · rfl
  · cases found : item.field? method with
    | none => rfl
    | some operation => exact if_neg fun both => passed operation found both.1 both.2

theorem visitsIn_cons {document raw item : Value} {settings : Settings} {path : Atom} {rest : List (Atom × Value)}
    (followed : (Reference.deref raw document : Except Fault Value) = .ok item) :
    visitsIn document settings ((path, raw) :: rest) =
      (if item.shape.isMap = true then visitsUnder settings path item methods else []) ++
        visitsIn document settings rest := by
  rw [visitsIn, List.flatMap_cons, followed]
  rfl

private theorem toSet?_ok {v : Value} {members : List Value} (done : v.toSet? = .ok members) : members = v.members := by
  obtain ⟨found, isFound, ended⟩ := bind_eq_ok.mp done
  split at ended
  · cases ended
    simp [Value.members, isFound, Except.toOption]
  · cases ended

private theorem members_of_falsy {v : Value} (falsy : v.truthy = false) : v.members = [] := by
  cases v with
  | atom a =>
    cases a with
    | text s => simp_all [Value.truthy, Value.shape, Shape.truthy, Atom.truthy, Value.members, Value.members?, Except.toOption]
    | bytes b => simp_all [Value.truthy, Value.shape, Shape.truthy, Atom.truthy, Value.members, Value.members?, Except.toOption]
    | _ => rfl
  | _ => simp_all [Value.truthy, Value.shape, Shape.truthy, Value.members, Value.members?, Except.toOption]

private theorem toSetOrEmpty?_ok {stated : Option Value} {tags : List Value}
    (done : Value.toSetOrEmpty? stated = .ok tags) : tags = (stated.map Value.members).getD [] := by
  cases stated with
  | none => exact (Except.ok.inj done).symm
  | some v =>
    by_cases holds : v.truthy = true
    · rw [Value.toSetOrEmpty?, if_pos holds] at done
      exact toSet?_ok done
    · rw [Value.toSetOrEmpty?, if_neg holds] at done
      cases done
      exact (members_of_falsy (eq_false_of_ne_true holds)).symm

private theorem intersect_iff (operation listed : Value) :
    intersect (tagsOf operation) listed.members = true ↔ SharesTag operation listed := by
  simp [intersect, SharesTag]

variable {α β : Type} {world later : World}

/-- What follows a step that reads goes on from a world with the same settings. -/
private theorem goesOn {step : Run α} {result : Except Fault α} {next : α → Run β} {b : β} (reads : Reads step result)
    (done : on (step >>= next) world = (.ok b, later)) :
    ∃ a between, result = .ok a ∧ between.settings = world.settings ∧ on (next a) between = (.ok b, later) := by
  obtain ⟨a, between, first, rest⟩ := on_bind_ok.mp done
  obtain ⟨equal, _, isBetween⟩ := reads.eq_ok first
  exact ⟨a, between, equal, by rw [isBetween], rest⟩

private theorem on_setting_bind {name : String} {next : Value → Run α} :
    on (setting name >>= next) world = on (next (world.settings.get name)) world := rfl

/-- The settings choose by whether an operation is deprecated. -/
private theorem deprecation_ok {operation : Value} {chosen : Bool}
    (done : on (do
      if ← isTrue (← fieldOf operation "deprecated") then
        return (← setting "include_deprecated" : Value).truthy
      return true) world = (.ok chosen, later)) :
    chosen = true ↔ isDeprecated operation = false ∨ (world.settings.get "include_deprecated").truthy = true := by
  obtain ⟨stated, w₁, isField, same₁, done⟩ := goesOn (reads.of_fieldOf operation "deprecated") done
  obtain rfl := fieldOf_ok isField
  obtain ⟨deprecated, w₂, isTrue, same₂, done⟩ := goesOn (reads.of_isTrue _) done
  rw [isTrue_except] at isTrue
  have stated : deprecated = isDeprecated operation := by
    rw [isDeprecated, ← Except.ok.inj isTrue]
    cases operation.field? "deprecated" <;> rfl
  split at done
  · rename_i holds
    rw [on_setting_bind, same₂, same₁] at done
    obtain ⟨rfl, -⟩ := on_pure_ok.mp done
    simp [← stated, holds]
  · rename_i holds
    obtain ⟨rfl, -⟩ := on_pure_ok.mp done
    simp [← stated, holds]

/-- Where it can be said whether an operation is selected, it is so exactly if the settings choose it. -/
theorem selected_chosen {operation : Value} {chosen : Bool}
    (done : on (selected operation) world = (.ok chosen, later)) :
    chosen = true ↔ Chosen world.settings operation := by
  rw [selected] at done
  obtain ⟨stated, w₁, isField, same₁, done⟩ := goesOn (reads.of_fieldOf operation "tags") done
  obtain rfl := fieldOf_ok isField
  obtain ⟨whole, w₂, isWhole, same₂, done⟩ := goesOn (reads.of_wholeOf _) done
  obtain rfl := Except.ok.inj ((wholeOf_except _).symm.trans isWhole)
  obtain ⟨tags, w₃, isTags, same₃, done⟩ := goesOn (reads.of_lift _) done
  rw [lift_except] at isTags
  obtain rfl : tags = tagsOf operation := toSetOrEmpty?_ok isTags
  rw [on_setting_bind, same₃, same₂, same₁] at done
  extract_lets decide at done
  -- whether none of the wanted tags is there, and what is decided from it
  obtain ⟨unwanted, w₄, isUnwanted, same₄, done⟩ : ∃ unwanted w₄,
      (unwanted = false ↔ (world.settings.get "include_tags").truthy = false ∨
        SharesTag operation (world.settings.get "include_tags")) ∧
      w₄.settings = w₃.settings ∧ on (decide unwanted) w₄ = (.ok chosen, later) := by
    split at done
    · rename_i wants
      obtain ⟨listed, w₄, isListed, same₄, done⟩ := goesOn (reads.of_lift _) done
      rw [lift_except] at isListed
      obtain rfl := toSet?_ok isListed
      exact ⟨!intersect (tagsOf operation) _, w₄, by simp [wants, intersect_iff], same₄, done⟩
    · rename_i wants
      exact ⟨false, w₃, by simp [wants], rfl, done⟩
  have settings : w₄.settings = world.settings := same₄.trans (same₃.trans (same₂.trans same₁))
  rw [Chosen, ← isUnwanted]
  dsimp only [decide] at done
  split at done
  · rename_i isTrue
    obtain ⟨rfl, -⟩ := on_pure_ok.mp done
    simp [isTrue]
  · rename_i isFalse
    rw [on_setting_bind, settings] at done
    obtain ⟨listed, w₅, isListed, same₅, done⟩ := goesOn (reads.of_lift _) done
    rw [lift_except] at isListed
    obtain rfl := toSet?_ok isListed
    split at done
    · rename_i shares
      obtain ⟨rfl, -⟩ := on_pure_ok.mp done
      simp [(intersect_iff _ _).mp shares]
    · rename_i shares
      rw [deprecation_ok done, same₅, settings]
      simp [isFalse, ← intersect_iff, shares]

end Generation

end ClientGen
