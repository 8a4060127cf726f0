import ClientGen.Operation
import Mathlib.Data.Char
import Mathlib.Data.List.Nodup
import Mathlib.Data.List.Perm.Subperm
import Mathlib.Data.List.TakeWhile
import Mathlib.Tactic.IntervalCases

/-!
How names begin, and that new names are new. The name of a type never begins with a small letter of ASCII
(`typeName_begins`); the name of a function begins with one, or with a low line in front of a digit
(`snakeCase_begins`). A fresh name is not among those that are taken (`freshName_not_mem`).
-/

namespace ClientGen

namespace Text

theorem isAsciiLower_iff (c : Char) : isAsciiLower c = true ↔ 97 ≤ c.toNat ∧ c.toNat ≤ 122 := by
  simp only [isAsciiLower, Bool.and_eq_true, decide_eq_true_eq, Char.le_def, UInt32.le_iff_toNat_le]
  rfl

theorem isAsciiUpper_iff (c : Char) : isAsciiUpper c = true ↔ 65 ≤ c.toNat ∧ c.toNat ≤ 90 := by
  simp only [isAsciiUpper, Bool.and_eq_true, decide_eq_true_eq, Char.le_def, UInt32.le_iff_toNat_le]
  rfl

theorem isAsciiDigit_iff (c : Char) : isAsciiDigit c = true ↔ 48 ≤ c.toNat ∧ c.toNat ≤ 57 := by
  simp only [isAsciiDigit, Bool.and_eq_true, decide_eq_true_eq, Char.le_def, UInt32.le_iff_toNat_le]
  rfl

theorem isAscii_of_isWord {c : Char} (isWord : Text.isWord c = true) : isAscii c = true := by
  simp only [Text.isWord, Bool.or_eq_true, isAsciiLower_iff, isAsciiUpper_iff, isAsciiDigit_iff] at isWord
  rw [isAscii, decide_eq_true_eq]
  omega

/-- The code of a character made from a number is that number, or zero. -/
theorem toNat_ofNat (n : Nat) : (Char.ofNat n).toNat = n ∨ (Char.ofNat n).toNat = 0 := by
  by_cases valid : n.isValidChar
  · have same : Char.ofNat n = Char.ofNatAux n valid := dif_pos valid
    exact .inl (congrArg Char.toNat same)
  · have same : Char.ofNat n = '\x00' := dif_neg valid
    exact .inr (congrArg Char.toNat same)

private theorem isAsciiLower_ofNat {n : Nat} (outside : n < 97 ∨ 122 < n) : isAsciiLower (Char.ofNat n) = false := by
  rw [← Bool.not_eq_true, isAsciiLower_iff]
  rcases toNat_ofNat n with code | code <;> omega

private theorem expansions_begin : ∀ entry ∈ upperCaseExpansions,
    ∃ code rest, entry.2 = code :: rest ∧ isAsciiLower (Char.ofNat code) = false := by
  have checked : upperCaseExpansions.all (fun entry => match entry.2 with
      | [] => false
      | code :: _ => !isAsciiLower (Char.ofNat code)) = true := by decide +kernel
  intro entry member
  have single := List.all_eq_true.mp checked entry member
  split at single
  · cases single
  · rename_i code rest equal
    exact ⟨code, rest, equal, by simpa using single⟩

private theorem runs_leave : ∀ run ∈ upperCaseRuns,
    (run.2.1 : Int) + run.2.2.2 < 97 ∨ 122 < (run.1 : Int) + run.2.2.2 := by
  decide +kernel

/-- The upper case of a character begins with no small letter of ASCII. -/
theorem upper_begins (c : Char) : ∃ first rest, upper c = first :: rest ∧ isAsciiLower first = false := by
  unfold upper
  split
  · refine ⟨_, [], rfl, ?_⟩
    split
    · rename_i lower
      have range := (isAsciiLower_iff c).mp lower
      exact isAsciiLower_ofNat (by omega)
    · rename_i other
      simpa using other
  · rename_i noAscii
    split
    · rename_i code codes found
      obtain ⟨first, rest, equal, noLower⟩ := expansions_begin _ (List.mem_of_find?_eq_some found)
      exact ⟨Char.ofNat first, rest.map Char.ofNat, congrArg (List.map Char.ofNat) equal, noLower⟩
    · split
      · rename_i first last step distance found
        have run := runs_leave _ (List.mem_of_find?_eq_some found)
        have within := List.find?_some found
        simp only [Bool.and_eq_true, decide_eq_true_eq] at within run
        exact ⟨_, [], rfl, isAsciiLower_ofNat (by omega)⟩
      · refine ⟨c, [], rfl, ?_⟩
        rw [← Bool.not_eq_true, isAsciiLower_iff]
        simp only [isAscii, decide_eq_true_eq] at noAscii
        omega

/-- No small or capital letter has a capital letter in its lower case. -/
theorem lower_noUpper (c d : Char) (member : d ∈ lower c) : isAsciiUpper d = false := by
  rw [← Bool.not_eq_true, isAsciiUpper_iff]
  unfold lower at member
  split at member
  · rename_i isUpper
    have range := (isAsciiUpper_iff c).mp isUpper
    rw [List.mem_singleton.mp member]
    rcases toNat_ofNat (c.toNat + 0x20) with code | code <;> omega
  · rename_i noUpper
    rw [isAsciiUpper_iff] at noUpper
    split at member
    · rcases List.mem_cons.mp member with rfl | last
      · decide
      · rw [List.mem_singleton.mp last]
        decide
    · split at member
      · rw [List.mem_singleton.mp member]
        decide
      · rwa [List.mem_singleton.mp member]

theorem trimEnd_sublist (p : Char → Bool) (cs : List Char) : (trimEnd p cs).Sublist cs := by
  rw [trimEnd, ← List.reverse_sublist, List.reverse_reverse]
  exact List.dropWhile_sublist p

/-- What is left between the ends is part of the text. -/
private theorem trim_sublist (p : Char → Bool) (cs : List Char) : (trim p cs).Sublist cs :=
  (trimEnd_sublist p _).trans (List.dropWhile_sublist p)

/-- A trimmed text begins with no character that is trimmed. -/
theorem trim_begins (p : Char → Bool) (cs : List Char) {c : Char} {rest : List Char} (begins : trim p cs = c :: rest) :
    p c = false := by
  have front : trim p cs <+: cs.dropWhile p := by
    rw [trim, trimEnd, ← List.reverse_suffix, List.reverse_reverse]
    exact List.dropWhile_suffix p
  rw [begins] at front
  obtain ⟨more, equal⟩ := front
  have kept : cs.dropWhile p = c :: (rest ++ more) := by rw [← equal, List.cons_append]
  have first := List.head_dropWhile_not p (l := cs) (by simp [kept])
  simpa [kept] using first

theorem trimEnd_append_of_pos {p : Char → Bool} {cs back : List Char} (trimmed : ∀ c ∈ back, p c = true)
    (ends : ∀ c ∈ cs.getLast?, p c = false) : trimEnd p (cs ++ back) = cs := by
  have turned : ∀ c ∈ back.reverse, p c = true := fun c member => trimmed c (List.mem_reverse.mp member)
  rw [trimEnd, List.reverse_append, List.dropWhile_append_of_pos turned]
  cases last : cs.reverse with
  | nil => exact (List.reverse_eq_nil_iff.mp last).symm
  | cons c rest =>
    have isLast : cs.getLast? = some c := by rw [← List.head?_reverse, last, List.head?_cons]
    rw [List.dropWhile_cons_of_neg (by simp [ends c isLast]), ← last, List.reverse_reverse]

/-- Trimming takes away what stands on either side of a text that needs no trimming. -/
theorem trim_between {p : Char → Bool} {front cs back : List Char} (before : ∀ c ∈ front, p c = true)
    (behind : ∀ c ∈ back, p c = true) (begins : ∀ c ∈ cs.head?, p c = false)
    (ends : ∀ c ∈ cs.getLast?, p c = false) : trim p (front ++ (cs ++ back)) = cs := by
  rw [trim, List.dropWhile_append_of_pos before]
  cases cs with
  | nil =>
    rw [List.nil_append, List.dropWhile_eq_nil_iff.mpr behind]
    rfl
  | cons c rest =>
    rw [List.cons_append, List.dropWhile_cons_of_neg (by simp [begins c rfl]), ← List.cons_append]
    exact trimEnd_append_of_pos behind ends

/-- A trimmed text ends with no character that is trimmed. -/
theorem trim_ends (p : Char → Bool) (cs : List Char) : ∀ c ∈ (trim p cs).getLast?, p c = false := by
  intro c last
  rw [trim, trimEnd, List.getLast?_reverse] at last
  have first := List.head?_dropWhile_not p (cs.dropWhile p).reverse
  rw [last] at first
  simpa using first

/-- What is left by trimming is a stretch of the text. -/
theorem trim_isInfix (p : Char → Bool) (cs : List Char) : trim p cs <:+: cs := by
  have front : trim p cs <+: cs.dropWhile p := by
    rw [trim, trimEnd, ← List.reverse_suffix, List.reverse_reverse]
    exact List.dropWhile_suffix p
  exact front.isInfix.trans (List.dropWhile_suffix p).isInfix

end Text

namespace Naming

/-- A character that names of functions are made of. -/
def IsSnake (c : Char) : Prop := Text.isAsciiLower c = true ∨ Text.isAsciiDigit c = true ∨ c = '_'

/-- A text begins with a small letter, or with a low line in front of a digit. -/
def beginsSnake : List Char → Bool
  | [] => false
  | [c] => Text.isAsciiLower c
  | c :: d :: _ => Text.isAsciiLower c || (c = '_' && Text.isAsciiDigit d)

theorem beginsSnake_append {cs : List Char} (begins : beginsSnake cs = true) (more : List Char) :
    beginsSnake (cs ++ more) = true := by
  match cs, more with
  | [c], [] => exact begins
  | [c], d :: _ =>
    have lower : Text.isAsciiLower c = true := begins
    simp [beginsSnake, lower]
  | c :: d :: _, _ => exact begins

private theorem squeeze_sublist (cs : List Char) : (squeeze cs).Sublist cs := by
  induction cs with
  | nil => exact .refl _
  | cons a rest ih =>
    cases rest with
    | nil => exact .refl _
    | cons b rest =>
      rw [squeeze]
      split
      · exact ih.cons _
      · exact ih.cons_cons _

theorem isSnake_snakeWords (name : List Char) : ∀ c ∈ snakeWords name, IsSnake c := by
  intro c member
  have inside := (squeeze_sublist _).subset ((Text.trim_sublist _ _).subset member)
  obtain ⟨d, lowered, rfl⟩ := List.mem_map.mp inside
  obtain ⟨e, -, lowered⟩ := List.mem_flatMap.mp lowered
  have noUpper := Text.lower_noUpper e d lowered
  unfold nameChar
  split
  · rename_i kept
    simp only [Text.isWord, noUpper, Bool.or_false, Bool.or_eq_true, decide_eq_true_eq] at kept
    rcases kept with (lower | digit) | low
    · exact .inl lower
    · exact .inr (.inl digit)
    · exact .inr (.inr low)
  · exact .inr (.inr rfl)

/-- A text of a name, not yet guarded against leading digits and reserved words. -/
def IsUnguarded (cs : List Char) : Prop :=
  ∃ c rest, cs = c :: rest ∧ (Text.isAsciiLower c = true ∨ Text.isAsciiDigit c = true)

private theorem isUnguarded_snakeWords {name : List Char} (some : (snakeWords name).isEmpty = false) :
    IsUnguarded (snakeWords name) := by
  cases words : snakeWords name with
  | nil => simp [words] at some
  | cons c rest =>
    refine ⟨c, rest, rfl, ?_⟩
    have noLow := Text.trim_begins _ _ words
    rcases isSnake_snakeWords name c (by simp [words]) with lower | digit | low
    · exact .inl lower
    · exact .inr digit
    · simp [low] at noLow

theorem beginsSnake_guardDigit {cs : List Char} (unguarded : IsUnguarded cs) : beginsSnake (guardDigit cs) = true := by
  obtain ⟨c, rest, rfl, lower | digit⟩ := unguarded
  · have range := (Text.isAsciiLower_iff c).mp lower
    have ascii : Text.isAscii c = true := by simp [Text.isAscii]; omega
    have noDigit : Text.isDigit c = false := by
      rw [Text.isDigit, if_pos ascii, ← Bool.not_eq_true, Text.isAsciiDigit_iff]
      omega
    rw [guardDigit, noDigit]
    have alone : beginsSnake [c] = true := lower
    exact beginsSnake_append alone rest
  · have range := (Text.isAsciiDigit_iff c).mp digit
    have ascii : Text.isAscii c = true := by simp [Text.isAscii]; omega
    have isDigit : Text.isDigit c = true := by rwa [Text.isDigit, if_pos ascii]
    rw [guardDigit, isDigit]
    simp [beginsSnake, digit]

/-- With a fallback there is always a name. -/
theorem snakeCase_ok (name : String) {fallback : String} (some : fallback.toList ≠ []) :
    ∃ result, snakeCase name fallback = .ok result := by
  unfold snakeCase
  extract_lets words chosen
  have nonempty : ¬chosen.isEmpty = true := by
    dsimp only [chosen]
    split
    · simpa using some
    · rename_i found
      exact found
  exact ⟨_, if_neg nonempty⟩

theorem snakeCase_begins {name fallback result : String} (fits : IsUnguarded fallback.toList)
    (done : snakeCase name fallback = .ok result) : beginsSnake result.toList = true := by
  unfold snakeCase at done
  extract_lets words chosen at done
  split at done
  · cases done
  · obtain rfl := Except.ok.inj done
    have unguarded : IsUnguarded chosen := by
      dsimp only [chosen]
      split
      · exact fits
      · rename_i some
        exact isUnguarded_snakeWords (by simpa using some)
    rw [String.toList_ofList, guardKeyword]
    split
    · exact beginsSnake_append (beginsSnake_guardDigit unguarded) _
    · exact beginsSnake_guardDigit unguarded

theorem functionName_begins {operationId : Option String} {method path name : String} (fits : IsUnguarded method.toList)
    (done : functionName operationId method path = .ok name) : beginsSnake name.toList = true := by
  have fromPath : functionName.fromPath method path = .ok name → beginsSnake name.toList = true := by
    intro done
    rw [functionName.fromPath] at done
    exact snakeCase_begins fits done
  unfold functionName at done
  split at done
  · split at done
    · exact fromPath done
    · exact snakeCase_begins fits done
  · exact fromPath done

theorem capitalize_begins (cs : List Char) {c : Char} {rest : List Char} (begins : capitalize cs = c :: rest) :
    Text.isAsciiLower c = false := by
  cases cs with
  | nil => cases begins
  | cons d more =>
    obtain ⟨first, others, upper, noLower⟩ := Text.upper_begins d
    rw [capitalize, upper, List.cons_append] at begins
    rw [← (List.cons.inj begins).1]
    exact noLower

theorem capitalizeAll_begins (words : List (List Char)) {c : Char} {rest : List Char}
    (begins : words.flatMap capitalize = c :: rest) : Text.isAsciiLower c = false := by
  induction words with
  | nil => cases begins
  | cons word others ih =>
    rw [List.flatMap_cons] at begins
    cases first : capitalize word with
    | nil =>
      rw [first, List.nil_append] at begins
      exact ih begins
    | cons d more =>
      rw [first, List.cons_append] at begins
      rw [← (List.cons.inj begins).1]
      exact capitalize_begins word first

theorem guardDigit_begins {cs : List Char} (noLower : ∀ c rest, cs = c :: rest → Text.isAsciiLower c = false) :
    ∀ c rest, guardDigit cs = c :: rest → Text.isAsciiLower c = false := by
  intro c rest begins
  cases cs with
  | nil => cases begins
  | cons d more =>
    rw [guardDigit] at begins
    split at begins
    · rw [← (List.cons.inj begins).1]
      decide
    · rw [← (List.cons.inj begins).1]
      exact noLower d more rfl

/-- No name of a type begins with a small letter of ASCII. -/
theorem typeName_begins (name : String) {c : Char} {rest : List Char} (begins : (typeName name).toList = c :: rest) :
    Text.isAsciiLower c = false := by
  unfold typeName at begins
  extract_lets cs words together joined at begins
  rw [String.toList_ofList] at begins
  refine guardDigit_begins ?_ c rest begins
  intro c rest begins
  dsimp only [joined] at begins
  split at begins
  · exact capitalize_begins cs begins
  · split at begins
    · rw [← (List.cons.inj begins).1]
      decide
    · exact capitalizeAll_begins _ begins

end Naming

namespace Operation

theorem toString_injective {m n : Nat} (same : toString m = toString n) : m = n := by
  have digits : Nat.toDigits 10 m = Nat.toDigits 10 n := by
    simpa [Nat.toString_eq_ofList_toDigits] using congrArg String.toList same
  rw [← Nat.ofDigitChars_ten_toDigits (n := m), digits, Nat.ofDigitChars_ten_toDigits]

/-- A name with a number behind it. -/
def numbered (base : String) (k : Nat) : String := base ++ "_" ++ toString k

theorem numbered_injective {base : String} {j k : Nat} (same : numbered base j = numbered base k) : j = k :=
  toString_injective ((String.append_right_inj _).mp same)

/-- Names that are all taken are no more than the taken ones, if they differ. -/
theorem le_length_of_injective {α : Type} {taken : List α} {names : Nat → α} {n : Nat}
    (injective : ∀ i j, names i = names j → i = j) (within : ∀ i < n, names i ∈ taken) : n ≤ taken.length := by
  have distinct : ((List.range n).map names).Nodup := List.nodup_range.map injective
  have inside : (List.range n).map names ⊆ taken := by
    intro name member
    obtain ⟨i, bound, rfl⟩ := List.mem_map.mp member
    exact within i (List.mem_range.mp bound)
  simpa using (List.subperm_of_subset distinct inside).length_le

private theorem numbered_ne (base : String) (k : Nat) : numbered base k ≠ base := by
  intro same
  have lengths := congrArg String.length same
  simp only [numbered, String.length_append] at lengths
  have one : "_".length = 1 := rfl
  omega

/-- A search for a name fails only if every name that it tries is taken. -/
theorem numberedName_fresh (taken : List String) (base : String) (fuel k : Nat) :
    numberedName taken base fuel k ∉ taken ∨ ∀ i < fuel, numbered base (k + i) ∈ taken := by
  induction fuel generalizing k with
  | zero => exact .inr nofun
  | succ fuel ih =>
    unfold numberedName
    extract_lets candidate
    split
    · rename_i isTaken
      rcases ih (k + 1) with fresh | all
      · exact .inl fresh
      · refine .inr fun i bound => ?_
        cases i with
        | zero =>
          have first : taken.contains (numbered base k) = true := isTaken
          simpa using first
        | succ i =>
          have later := all i (by omega)
          rwa [Nat.add_right_comm, Nat.add_assoc] at later
    · rename_i isFree
      exact .inl (by simpa using isFree)

/-- A name and its numbered forms from the second on are different names: where all of them are taken, there are no
more of them than taken names. -/
theorem numbered_taken {taken : List String} {base : String} {n : Nat} (isTaken : base ∈ taken)
    (all : ∀ i < n, numbered base (2 + i) ∈ taken) : n < taken.length := by
  let tried : Nat → String
    | 0 => base
    | i + 1 => numbered base (2 + i)
  have injective : ∀ i j, tried i = tried j → i = j := by
    intro i j same
    rcases i with _ | i <;> rcases j with _ | j
    · rfl
    · exact absurd same.symm (numbered_ne base _)
    · exact absurd same (numbered_ne base _)
    · have := numbered_injective same
      omega
  have within : ∀ i < n + 1, tried i ∈ taken := by
    intro i bound
    cases i with
    | zero => exact isTaken
    | succ i => exact all i (by omega)
  exact le_length_of_injective injective within

/-- A fresh name is not taken: there are more names to try than there are taken ones. -/
theorem freshName_not_mem (taken : List String) (base : String) : freshName taken base ∉ taken := by
  unfold freshName
  split
  · rename_i isTaken
    rcases numberedName_fresh taken base taken.length 2 with fresh | all
    · exact fresh
    · have few := numbered_taken (by simpa using isTaken) all
      omega
  · rename_i isFree
    simpa using isFree

/-- A fresh name is the wanted one or begins with it. -/
theorem freshName_begins (taken : List String) (base : String) :
    ∃ more, (freshName taken base).toList = base.toList ++ more := by
  have numberedBegins : ∀ fuel k, ∃ more, (numberedName taken base fuel k).toList = base.toList ++ more := by
    intro fuel
    induction fuel with
    | zero => exact fun k => ⟨"_".toList ++ (toString k).toList, by simp [numberedName]⟩
    | succ fuel ih =>
      intro k
      unfold numberedName
      extract_lets candidate
      split
      · exact ih (k + 1)
      · exact ⟨"_".toList ++ (toString k).toList, by simp [candidate]⟩
  unfold freshName
  split
  · exact numberedBegins _ _
  · exact ⟨[], by simp⟩

end Operation

end ClientGen
