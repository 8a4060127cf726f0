import ClientGen.Proofs.Naming

/-!
Names of arguments. The name of an argument is an identifier that is no reserved word and no name of the
helper that makes requests (`IsArgumentName`). A name that is taken is spelled out with the place that the
argument comes from, and then with low lines behind it, until it is free (`argumentName_not_mem`); none of
this makes it another kind of name (`isArgumentName_argumentName`).
-/

namespace ClientGen

namespace Naming

/-- What arguments can be named: small letters, digits and low lines that begin like a name and are no
reserved word. -/
structure IsArgumentName (name : String) : Prop where
  snake : ∀ c ∈ name.toList, IsSnake c
  begins : beginsSnake name.toList = true
  unreserved : isKeyword name.toList = false

/-- No reserved word holds a low line. -/
theorem isKeyword_of_lowLine {cs : List Char} (lowLine : '_' ∈ cs) : isKeyword cs = false := by
  have none : ∀ word ∈ keywords, '_' ∉ word.toList := by decide +kernel
  rw [isKeyword, List.any_eq_false]
  intro word isWord same
  exact none word isWord (of_decide_eq_true same ▸ lowLine)

/-- A name with a low line and more behind it is a name. -/
theorem IsArgumentName.extend {name : String} (isName : IsArgumentName name) {more : List Char}
    (snake : ∀ c ∈ more, IsSnake c) : IsArgumentName (name ++ String.ofList ('_' :: more)) := by
  have spelled : (name ++ String.ofList ('_' :: more)).toList = name.toList ++ '_' :: more := by simp
  constructor
  · rw [spelled]
    intro c member
    rcases List.mem_append.mp member with before | behind
    · exact isName.snake c before
    · rcases List.mem_cons.mp behind with rfl | last
      · exact .inr (.inr rfl)
      · exact snake c last
  · rw [spelled]
    exact beginsSnake_append isName.begins _
  · rw [spelled]
    exact isKeyword_of_lowLine (List.mem_append_right _ List.mem_cons_self)

theorem isAscii_of_isSnake {c : Char} (snake : IsSnake c) : Text.isAscii c = true := by
  rw [Text.isAscii, decide_eq_true_eq]
  rcases snake with lower | digit | rfl
  · have := (Text.isAsciiLower_iff c).mp lower
    omega
  · have := (Text.isAsciiDigit_iff c).mp digit
    omega
  · decide

theorem isIdentifierContinue_of_isSnake {c : Char} (snake : IsSnake c) : Text.isIdentifierContinue c = true := by
  rw [Text.isIdentifierContinue, if_pos (isAscii_of_isSnake snake)]
  rcases snake with lower | digit | rfl
  · simp [Text.isWord, lower]
  · simp [Text.isWord, digit]
  · simp

/-- Names of arguments can be bound, and the helper that makes requests is named otherwise. -/
theorem IsArgumentName.isIdentifier {name : String} (isName : IsArgumentName name) :
    Naming.isIdentifier name.toList = true := by
  have snake := isName.snake
  have begins := isName.begins
  cases spelled : name.toList with
  | nil => simp [spelled, beginsSnake] at begins
  | cons c rest =>
    rw [spelled] at snake begins
    have start : Text.isIdentifierStart c = true := by
      rw [Text.isIdentifierStart, if_pos (isAscii_of_isSnake (snake c List.mem_cons_self))]
      cases rest with
      | nil =>
        have lower : Text.isAsciiLower c = true := begins
        simp [lower]
      | cons d more =>
        simp only [beginsSnake, Bool.or_eq_true, Bool.and_eq_true, decide_eq_true_eq] at begins
        rcases begins with lower | ⟨rfl, -⟩
        · simp [lower]
        · simp
    rw [Naming.isIdentifier, start, Bool.true_and, List.all_eq_true]
    exact fun d member => isIdentifierContinue_of_isSnake (snake d (List.mem_cons_of_mem _ member))

theorem IsArgumentName.ne_request {name : String} (isName : IsArgumentName name) : name ≠ "_request" := by
  rintro rfl
  exact absurd isName.begins (by decide)

private theorem isSnake_guardDigit {cs : List Char} (snake : ∀ c ∈ cs, IsSnake c) : ∀ c ∈ guardDigit cs, IsSnake c := by
  cases cs with
  | nil => exact nofun
  | cons d rest =>
    rw [guardDigit]
    split
    · intro c member
      rcases List.mem_cons.mp member with rfl | inside
      · exact .inr (.inr rfl)
      · exact snake c inside
    · exact snake

/-- Names in lower case, joined by low lines, are names of arguments. -/
theorem isArgumentName_snakeCase {name fallback result : String} (snake : ∀ c ∈ fallback.toList, IsSnake c)
    (fits : IsUnguarded fallback.toList) (done : snakeCase name fallback = .ok result) : IsArgumentName result := by
  have begins := snakeCase_begins fits done
  unfold snakeCase at done
  extract_lets words chosen at done
  split at done
  · cases done
  · obtain rfl := Except.ok.inj done
    have isSnake : ∀ c ∈ guardDigit chosen, IsSnake c := by
      refine isSnake_guardDigit fun c member => ?_
      dsimp only [chosen] at member
      split at member
      · exact snake c member
      · exact isSnake_snakeWords _ c member
    refine ⟨?_, begins, ?_⟩
    · rw [String.toList_ofList, guardKeyword]
      split
      · intro c member
        rcases List.mem_append.mp member with inside | last
        · exact isSnake c inside
        · exact .inr (.inr (List.mem_singleton.mp last))
      · exact isSnake
    · rw [String.toList_ofList, guardKeyword]
      split
      · exact isKeyword_of_lowLine (by simp)
      · rename_i unreserved
        simpa using unreserved

end Naming

namespace Operation

open Naming (IsArgumentName IsSnake)

/-- A name with low lines behind it. -/
def spaced (name : String) (k : Nat) : String := name ++ String.ofList (List.replicate k '_')

private theorem spaced_zero (name : String) : spaced name 0 = name := by simp [spaced]

private theorem spaced_append (name : String) (k : Nat) : spaced (name ++ "_") k = spaced name (k + 1) := by
  apply String.toList_injective
  simp [spaced, List.replicate_succ]

theorem spaced_injective {name : String} {j k : Nat} (same : spaced name j = spaced name k) : j = k := by
  simpa using congrArg String.length ((String.append_right_inj _).mp same)

/-- The name that is found has some number of low lines, and is free unless all of the names that were tried are
taken. -/
theorem spacedName_eq (taken : List String) (fuel : Nat) (name : String) :
    ∃ k, spacedName taken fuel name = spaced name k ∧ (spaced name k ∉ taken ∨ ∀ i < fuel, spaced name i ∈ taken) := by
  induction fuel generalizing name with
  | zero => exact ⟨0, (spaced_zero name).symm, .inr nofun⟩
  | succ fuel ih =>
    rw [spacedName]
    split
    · rename_i isTaken
      obtain ⟨k, found, free⟩ := ih (name ++ "_")
      simp only [spaced_append] at found free
      refine ⟨k + 1, found, free.imp_right fun all i bound => ?_⟩
      cases i with
      | zero => simpa [spaced_zero] using isTaken
      | succ i => exact all i (by omega)
    · rename_i isFree
      exact ⟨0, (spaced_zero name).symm, .inl (by simpa [spaced_zero] using isFree)⟩

theorem spacedName_not_mem (taken : List String) (name : String) :
    spacedName taken (taken.length + 1) name ∉ taken := by
  obtain ⟨k, found, free | all⟩ := spacedName_eq taken (taken.length + 1) name
  · rwa [found]
  · have few := le_length_of_injective (fun _ _ => spaced_injective) all
    omega

/-- The name of an argument is free. -/
theorem argumentName_not_mem (taken : List String) (name suffix : String) :
    argumentName taken name suffix ∉ taken := spacedName_not_mem taken _

private theorem isArgumentName_spaced {name : String} (isName : IsArgumentName name) (k : Nat) :
    IsArgumentName (spaced name k) := by
  cases k with
  | zero => rwa [spaced_zero]
  | succ k =>
    refine isName.extend fun c member => ?_
    exact .inr (.inr (List.eq_of_mem_replicate member))

/-- What is added to a name that is taken leaves it the name of an argument. -/
theorem isArgumentName_argumentName {taken : List String} {name suffix : String} (isName : IsArgumentName name)
    (snake : ∀ c ∈ suffix.toList, IsSnake c) : IsArgumentName (argumentName taken name suffix) := by
  have suffixed : name ++ "_" ++ suffix = name ++ String.ofList ('_' :: suffix.toList) := by
    apply String.toList_injective
    simp
  have first : IsArgumentName (if taken.contains name then name ++ "_" ++ suffix else name) := by
    split
    · rw [suffixed]
      exact isName.extend snake
    · exact isName
  obtain ⟨k, found, -⟩ := spacedName_eq taken (taken.length + 1)
    (if taken.contains name then name ++ "_" ++ suffix else name)
  rw [argumentName, found]
  exact isArgumentName_spaced first k

end Operation

end ClientGen
