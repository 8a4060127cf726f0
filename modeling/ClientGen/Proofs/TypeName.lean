import ClientGen.Proofs.Text.Letters

/-!
Names of types. The name of a type is an identifier, whatever the key of the component is
(`isIdentifier_typeName`). It is a reserved word only where the key spells one of the constants `None`, `True` and
`False`, with a small letter in front or as the only word of a key that cannot be kept; everywhere else the name can
be bound (`typeName_bindable_iff`).
-/

namespace ClientGen

namespace Text

/-- No piece between separators holds one. -/
theorem not_separator_of_mem_fields {separator : Char → Bool} {text piece : List Char}
    (member : piece ∈ fields separator text) : ∀ c ∈ piece, separator c = false := by
  induction text generalizing piece with
  | nil =>
    rw [fields, List.mem_singleton] at member
    subst member
    exact fun c isIn => absurd isIn List.not_mem_nil
  | cons d text ih =>
    rw [fields] at member
    split at member
    · rcases List.mem_cons.mp member with rfl | later
      · exact fun c isIn => absurd isIn List.not_mem_nil
      · exact ih later
    · rename_i inside
      have first : separator d = false := by simpa using inside
      split at member
      · rw [List.mem_singleton.mp member]
        intro c isFirst
        rwa [List.mem_singleton.mp isFirst]
      · rename_i begun pieces equal
        rcases List.mem_cons.mp member with rfl | later
        · intro c isIn
          rcases List.mem_cons.mp isIn with rfl | behind
          · exact first
          · exact ih (equal ▸ List.mem_cons_self) c behind
        · exact ih (equal ▸ List.mem_cons_of_mem _ later)

theorem isIdentifierContinue_of_isWord {c : Char} (isWord : Text.isWord c = true) : isIdentifierContinue c = true := by
  rw [isIdentifierContinue, if_pos (isAscii_of_isWord isWord), isWord, Bool.true_or]

/-- The upper case of a letter or digit of ASCII is one, and no small letter. -/
theorem upper_of_isWord {c : Char} (isWord : Text.isWord c = true) :
    ∃ d, upper c = [d] ∧ Text.isWord d = true ∧ isAsciiLower d = false := by
  by_cases lower : isAsciiLower c = true
  · obtain ⟨d, equal, capital⟩ := upper_of_lower lower
    refine ⟨d, equal, by rw [Text.isWord, capital]; simp, ?_⟩
    rw [← Bool.not_eq_true, isAsciiLower_iff]
    have range := (isAsciiUpper_iff d).mp capital
    omega
  · refine ⟨c, ?_, isWord, by simpa using lower⟩
    rw [upper, if_pos (isAscii_of_isWord isWord), if_neg lower]

end Text

namespace Naming

/-- Whether a name can be bound as it stands. -/
def isBindable (name : List Char) : Bool := isIdentifier name && !isKeyword name

/-- The words of a name: its longest stretches of letters and digits of ASCII. -/
def wordsOf (name : List Char) : List (List Char) :=
  (Text.fields (fun c => !Text.isWord c) name).filter (!·.isEmpty)

section

variable {cs : List Char}

theorem isIdentifier_capitalize (isName : isIdentifier cs = true) : isIdentifier (capitalize cs) = true := by
  cases cs with
  | nil => cases isName
  | cons c rest =>
    simp only [isIdentifier, Bool.and_eq_true, List.all_eq_true] at isName
    obtain ⟨first, others, upper, start, continues⟩ := Text.upper_of_start isName.1
    rw [capitalize, upper, List.cons_append, isIdentifier, start, Bool.true_and, List.all_append,
      List.all_eq_true.mpr continues, List.all_eq_true.mpr isName.2]
    rfl

theorem isIdentifier_guardDigit (isName : isIdentifier cs = true) : isIdentifier (guardDigit cs) = true := by
  cases cs with
  | nil => cases isName
  | cons c rest =>
    rw [guardDigit]
    split
    · simp only [isIdentifier, Bool.and_eq_true] at isName
      rw [isIdentifier, List.all_cons, Text.isIdentifierContinue_of_start isName.1, isName.2]
      decide
    · exact isName

/-- Letters and digits of ASCII are an identifier once a leading digit has a low line in front. -/
theorem isIdentifier_guardDigit_of_isWord (some : cs ≠ []) (areWords : ∀ c ∈ cs, Text.isWord c = true) :
    isIdentifier (guardDigit cs) = true := by
  cases cs with
  | nil => exact absurd rfl some
  | cons c rest =>
    have continues : (c :: rest).all Text.isIdentifierContinue = true :=
      List.all_eq_true.mpr fun d member => Text.isIdentifierContinue_of_isWord (areWords d member)
    have isWord := areWords c List.mem_cons_self
    rw [guardDigit]
    split
    · rw [isIdentifier, continues]
      decide
    · rename_i noDigit
      rw [Text.isDigit, if_pos (Text.isAscii_of_isWord isWord)] at noDigit
      rw [List.all_cons, Bool.and_eq_true] at continues
      rw [isIdentifier, continues.2, Bool.and_true, Text.isIdentifierStart, if_pos (Text.isAscii_of_isWord isWord)]
      have letter : Text.isAsciiLower c = true ∨ Text.isAsciiUpper c = true := by simpa [Text.isWord, noDigit] using isWord
      rcases letter with lower | upper
      · rw [lower]
        rfl
      · rw [upper, Bool.or_true, Bool.true_or]

/-! ### Words -/

theorem word_of_mem_wordsOf {word : List Char} (member : word ∈ wordsOf cs) :
    word ≠ [] ∧ ∀ c ∈ word, Text.isWord c = true := by
  obtain ⟨piece, some⟩ := List.mem_filter.mp member
  refine ⟨by simpa using some, fun c isIn => ?_⟩
  simpa using Text.not_separator_of_mem_fields piece c isIn

/-- A word with its first letter in upper case. -/
theorem capitalize_word {word : List Char} (member : word ∈ wordsOf cs) :
    ∃ d rest, capitalize word = d :: rest ∧ Text.isAsciiLower d = false ∧ ∀ c ∈ d :: rest, Text.isWord c = true := by
  obtain ⟨some, areWords⟩ := word_of_mem_wordsOf member
  cases word with
  | nil => exact absurd rfl some
  | cons c rest =>
    obtain ⟨d, upper, isWord, noLower⟩ := Text.upper_of_isWord (areWords c List.mem_cons_self)
    refine ⟨d, rest, by rw [capitalize, upper]; rfl, noLower, fun e isIn => ?_⟩
    rcases List.mem_cons.mp isIn with rfl | later
    · exact isWord
    · exact areWords e (List.mem_cons_of_mem c later)

/-- All words of a name with their first letters in upper case, one behind the other. -/
def joinedWords (name : List Char) : List Char := (wordsOf name).flatMap capitalize

theorem joinedWords_eq : (Text.fields (fun c => !Text.isWord c) cs).flatMap capitalize = joinedWords cs := by
  rw [joinedWords, wordsOf]
  induction Text.fields (fun c => !Text.isWord c) cs with
  | nil => rfl
  | cons piece pieces ih =>
    cases piece with
    | nil =>
      rw [List.flatMap_cons, ih]
      rfl
    | cons c rest =>
      rw [List.flatMap_cons, ih, List.filter_cons_of_pos rfl, List.flatMap_cons]

theorem isWord_of_mem_joinedWords : ∀ c ∈ joinedWords cs, Text.isWord c = true := by
  intro c isIn
  obtain ⟨word, member, isIn⟩ := List.mem_flatMap.mp isIn
  obtain ⟨d, rest, equal, -, areWords⟩ := capitalize_word member
  exact areWords c (equal ▸ isIn)

/-- The name of a type before it is guarded against a leading digit. -/
def unguarded (name : List Char) : List Char :=
  if isBindable name then capitalize name
  else if (joinedWords name).isEmpty then "Schema".toList else joinedWords name

theorem toList_typeName (name : String) : (typeName name).toList = guardDigit (unguarded name.toList) := by
  rw [typeName, String.toList_ofList, unguarded, isBindable, ← joinedWords_eq]

theorem isIdentifier_typeName (name : String) : isIdentifier (typeName name).toList = true := by
  rw [toList_typeName, unguarded]
  split
  · rename_i kept
    rw [isBindable, Bool.and_eq_true] at kept
    exact isIdentifier_guardDigit (isIdentifier_capitalize kept.1)
  · split
    · decide
    · rename_i some
      exact isIdentifier_guardDigit_of_isWord (by simpa using some) isWord_of_mem_joinedWords

/-! ### Reserved words -/

/-- The reserved words that do not begin with a small letter. -/
def constants : List (List Char) := ["None", "True", "False"].map String.toList

private theorem constants_or_small : ∀ word ∈ keywords,
    word.toList ∈ constants ∨ word.toList.head?.any Text.isAsciiLower = true := by
  decide

/-- A text without a small letter in front is a reserved word only as one of the constants. -/
theorem isKeyword_guardDigit_iff (noLower : ∀ c rest, cs = c :: rest → Text.isAsciiLower c = false) :
    isKeyword (guardDigit cs) = true ↔ cs ∈ constants := by
  have constantsKept : ∀ word ∈ constants, isKeyword (guardDigit word) = true := by decide
  refine ⟨fun reserved => ?_, constantsKept cs⟩
  obtain ⟨word, isWord, same⟩ := List.any_eq_true.mp reserved
  rw [decide_eq_true_eq] at same
  cases cs with
  | nil =>
    have none : ∀ word ∈ keywords, word.toList ≠ [] := by decide
    exact absurd same (none word isWord)
  | cons c rest =>
    rw [guardDigit] at same
    split at same
    · have noLowLine : ∀ word ∈ keywords, word.toList.head? ≠ some '_' := by decide
      exact absurd (congrArg List.head? same) (noLowLine word isWord)
    · rcases constants_or_small word isWord with constant | lower
      · exact same ▸ constant
      · rw [same, List.head?_cons, Option.any_some, noLower c rest rfl] at lower
        cases lower

/-- The spellings that upper case turns into constants: the constants themselves, and with a small letter in front. -/
def constantSpellings : List (List Char) := ["none", "None", "true", "True", "false", "False"].map String.toList

/-- Each constant is `F`, `N` or `T` with small letters behind. -/
private theorem constants_spelled {word : List Char} (constant : word ∈ constants) :
    ∃ first second more, word = first :: second :: more ∧ first ∈ ['F', 'N', 'T'] ∧
      (second :: more).all Text.isAsciiLower = true ∧ first :: second :: more ∈ constantSpellings ∧
      Char.ofNat (first.toNat + 0x20) :: second :: more ∈ constantSpellings := by
  simp only [constants, List.map_cons, List.map_nil, List.mem_cons, List.not_mem_nil, or_false] at constant
  rcases constant with rfl | rfl | rfl <;> exact ⟨_, _, _, rfl, by decide⟩

theorem capitalize_mem_constants : capitalize cs ∈ constants ↔ cs ∈ constantSpellings := by
  have spelled : ∀ word ∈ constantSpellings, capitalize word ∈ constants := by decide
  refine ⟨fun constant => ?_, spelled cs⟩
  cases cs with
  | nil => exact absurd constant (by decide)
  | cons c rest =>
    obtain ⟨first, second, more, equal, capital, small, kept, lowered⟩ := constants_spelled constant
    have lower : Text.isAsciiLower second = true := List.all_eq_true.mp small second List.mem_cons_self
    obtain ⟨same | code, rfl⟩ := Text.upper_spells capital lower equal
    · rwa [same]
    · rwa [← code, Char.ofNat_toNat] at lowered

/-- Several words make no constant: there is a letter that is not small, or a digit, behind the first. -/
theorem joinedWords_mem_constants : joinedWords cs ∈ constants ↔ ∃ word ∈ constantSpellings, wordsOf cs = [word] := by
  constructor
  · intro constant
    obtain ⟨first, second, more, equal, -, small, -⟩ := constants_spelled constant
    cases words : wordsOf cs with
    | nil =>
      rw [joinedWords, words] at equal
      cases equal
    | cons word others =>
      cases others with
      | nil =>
        rw [joinedWords, words, List.flatMap_singleton] at constant
        exact ⟨word, capitalize_mem_constants.mp constant, rfl⟩
      | cons next others =>
        exfalso
        obtain ⟨c, rest, isFirst, -⟩ := capitalize_word (show word ∈ wordsOf cs by simp [words])
        obtain ⟨d, behind, isNext, noLower, -⟩ := capitalize_word (show next ∈ wordsOf cs by simp [words])
        rw [joinedWords, words, List.flatMap_cons, List.flatMap_cons, isFirst, isNext] at equal
        have member : d ∈ second :: more := by
          rw [← (List.cons.inj equal).2]
          simp
        rw [List.all_eq_true.mp small d member] at noLower
        cases noLower
  · rintro ⟨word, spelling, words⟩
    rw [joinedWords, words, List.flatMap_singleton]
    exact capitalize_mem_constants.mpr spelling

/-- A name that becomes a constant of the language: one that can be kept and has a constant's letters, or one that
cannot be kept and has no other word than one of the constants, in either spelling. -/
def SpellsConstant (name : List Char) : Prop :=
  if isBindable name then name ∈ constantSpellings else ∃ word ∈ constantSpellings, wordsOf name = [word]

theorem unguarded_begins {c : Char} {rest : List Char} (begins : unguarded cs = c :: rest) :
    Text.isAsciiLower c = false := by
  rw [unguarded] at begins
  split at begins
  · exact capitalize_begins cs begins
  · split at begins
    · rw [← (List.cons.inj begins).1]
      decide
    · exact capitalizeAll_begins _ begins

theorem unguarded_mem_constants : unguarded cs ∈ constants ↔ SpellsConstant cs := by
  rw [unguarded, SpellsConstant]
  split
  · exact capitalize_mem_constants
  · split
    · rename_i none
      rw [← joinedWords_mem_constants, List.isEmpty_iff.mp none]
      decide
    · exact joinedWords_mem_constants

end

/-- The name of a type is an identifier. It can be bound unless the key spells a constant. -/
theorem typeName_bindable_iff (name : String) :
    isIdentifier (typeName name).toList = true ∧
      (isBindable (typeName name).toList = true ↔ ¬ SpellsConstant name.toList) := by
  have isName := isIdentifier_typeName name
  refine ⟨isName, ?_⟩
  have reserved : isKeyword (typeName name).toList = true ↔ SpellsConstant name.toList := by
    rw [toList_typeName, ← unguarded_mem_constants]
    exact isKeyword_guardDigit_iff fun c rest => unguarded_begins
  rw [isBindable, isName, Bool.true_and, Bool.not_eq_true', ← Bool.not_eq_true, reserved]

/-- A key in small letters can become a reserved word. -/
theorem none_not_bindable : ¬ ∀ name, isBindable (typeName name).toList = true :=
  fun always => absurd (always "none") (by decide)

end Naming

end ClientGen
