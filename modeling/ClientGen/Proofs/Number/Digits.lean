import ClientGen.Proofs.Naming
import ClientGen.Value.Printer
import Mathlib.Data.List.Induction

/-!
Reading digits. A text of ASCII digits that is not too long is read as the number that it spells
(`limitedWhole?_digits`), and a number that may be written is read back from its text (`limitedWhole?_toString`).
Digits that do not begin with a zero are the text of the number that they spell (`toDigits_ofDigitChars`).
-/

namespace ClientGen.Number

variable {cs : List Char} {c : Char}

private theorem decimalValue?_digit (digit : Text.isAsciiDigit c = true) :
    Text.decimalValue? c = some (c.toNat - '0'.toNat) := by
  have range := (Text.isAsciiDigit_iff c).mp digit
  have ascii : Text.isAscii c = true := by
    rw [Text.isAscii, decide_eq_true_eq]
    omega
  rw [Text.decimalValue?, if_pos ascii, if_pos digit]
  rfl

private theorem digitValue?_digit (digit : Text.isAsciiDigit c = true) :
    digitValue? 10 c = some (c.toNat - '0'.toNat) := by
  have range := (Text.isAsciiDigit_iff c).mp digit
  have noLower : Text.isAsciiLower c = false := by
    rw [← Bool.not_eq_true, Text.isAsciiLower_iff]
    omega
  have noUpper : Text.isAsciiUpper c = false := by
    rw [← Bool.not_eq_true, Text.isAsciiUpper_iff]
    omega
  have below : c.toNat - 48 < 10 := by omega
  simp [digitValue?, noLower, noUpper, decimalValue?_digit digit, below]

/-- Digits are read one by one, each as ten times what was read before with itself added. -/
theorem digitsValue?_digits (digits : ∀ c ∈ cs, Text.isAsciiDigit c = true) (some : cs ≠ []) (value : Nat) :
    digitsValue? 10 value cs = .some (Nat.ofDigitChars 10 cs value) := by
  induction cs generalizing value with
  | nil => exact absurd rfl some
  | cons c rest ih =>
    have first := digitValue?_digit (digits c List.mem_cons_self)
    have others := fun d member => digits d (List.mem_cons_of_mem c member)
    cases rest with
    | nil => simp [digitsValue?, first, Nat.ofDigitChars]
    | cons d rest =>
      have noLow : d ≠ '_' := by
        rintro rfl
        exact absurd (others '_' List.mem_cons_self) (by decide)
      rw [digitsValue?, first]
      · exact ih others (List.cons_ne_nil d rest) _
      · simp
      · intro _ same
        exact noLow (List.cons.inj same).1

theorem whole?_digits (digits : ∀ c ∈ cs, Text.isAsciiDigit c = true) (some : cs ≠ []) :
    whole? cs = .some (Nat.ofDigitChars 10 cs 0 : Nat) := by
  have noMargin : ∀ c ∈ cs, isMargin c = false := by
    intro c member
    have range := (Text.isAsciiDigit_iff c).mp (digits c member)
    rw [← Bool.not_eq_true]
    simp only [isMargin, Text.isBlank, Bool.and_eq_true, Bool.or_eq_true, decide_eq_true_eq]
    omega
  have trimmed : Text.trim isMargin cs = cs := by
    have between : Text.trim isMargin ([] ++ (cs ++ [])) = cs :=
      Text.trim_between nofun nofun (fun c first => noMargin c (List.mem_of_head? first)) fun c last =>
        noMargin c (List.mem_of_getLast? last)
    simpa using between
  have unsigned : takeSign cs = (false, cs) := by
    unfold takeSign
    split
    · exact absurd (digits '-' List.mem_cons_self) (by decide)
    · exact absurd (digits '+' List.mem_cons_self) (by decide)
    · rfl
  have plain : dropBase 10 cs = cs := by
    unfold dropBase
    split
    · rfl
    · rfl
  rw [whole?, wholeIn?, trimmed, unsigned]
  simp only [plain, digitsValue?_digits digits some]
  rfl

private theorem filter_digits (digits : ∀ c ∈ cs, Text.isAsciiDigit c = true) :
    cs.filter (fun c => (Text.decimalValue? c).isSome) = cs := by
  rw [List.filter_eq_self]
  intro c member
  rw [decimalValue?_digit (digits c member)]
  rfl

/-- Digits are read as the number that they spell, unless there are too many of them. -/
theorem limitedWhole?_digits (digits : ∀ c ∈ cs, Text.isAsciiDigit c = true) (some : cs ≠ [])
    (short : cs.length ≤ digitLimit) : limitedWhole? cs = .some (Nat.ofDigitChars 10 cs 0 : Nat) := by
  rw [limitedWhole?, filter_digits digits, if_neg (Nat.not_lt.mpr short), whole?_digits digits some]

theorem limitedWhole?_long (digits : ∀ c ∈ cs, Text.isAsciiDigit c = true) (long : digitLimit < cs.length) :
    limitedWhole? cs = none := by
  rw [limitedWhole?, filter_digits digits, if_pos long]

/-- The digits of a number. -/
theorem isAsciiDigit_toString {n : Nat} : ∀ c ∈ (toString n).toList, Text.isAsciiDigit c = true := by
  intro c member
  rw [Nat.toString_eq_ofList_toDigits, String.toList_ofList] at member
  have digit := Nat.isDigit_of_mem_toDigits (by decide) (by decide) member
  simp only [Char.isDigit, Bool.and_eq_true, decide_eq_true_eq, UInt32.le_iff_toNat_le] at digit
  exact (Text.isAsciiDigit_iff c).mpr digit

/-- A number that may be written is read back from its digits. -/
theorem limitedWhole?_toString {n : Nat} (writable : (Atom.int n).isWritable = true) :
    limitedWhole? (toString n).toList = some (n : Int) := by
  have spelled : (toString n).toList = Nat.toDigits 10 n := by
    rw [Nat.toString_eq_ofList_toDigits, String.toList_ofList]
  have some : (toString n).toList ≠ [] := by
    rw [spelled]
    exact Nat.toDigits_ne_nil
  have few : (toString n).toList.length ≤ digitLimit := by
    rw [Atom.isWritable, decide_eq_true_eq, Int.natAbs_natCast, Nat.pow_eq,
      ← Nat.length_toDigits_le_iff (by decide) (by decide)] at writable
    rw [spelled]
    exact writable
  rw [limitedWhole?_digits isAsciiDigit_toString some few, spelled, Nat.ofDigitChars_ten_toDigits]

/-- The decimal of a positive number does not begin with a zero. -/
theorem head?_toDigits {n : Nat} (positive : 0 < n) : (Nat.toDigits 10 n).head? ≠ some '0' := by
  induction n using Nat.strong_induction_on with
  | _ n ih =>
    rcases Nat.lt_or_ge n 10 with below | above
    · rw [Nat.toDigits_of_lt_base below, List.head?_cons, ne_eq, Option.some.injEq, Nat.digitChar_eq_zero]
      omega
    · rw [Nat.toDigits_of_base_le (by decide) above, List.head?_append_of_ne_nil _ Nat.toDigits_ne_nil]
      exact ih (n / 10) (by omega) (by omega)

private theorem digitChar_of_isAsciiDigit (digit : Text.isAsciiDigit c = true) :
    (c.toNat - '0'.toNat).digitChar = c ∧ c.toNat - '0'.toNat < 10 := by
  have range := (Text.isAsciiDigit_iff c).mp digit
  have below : c.toNat - '0'.toNat < 10 := by
    have zero : '0'.toNat = 48 := rfl
    omega
  refine ⟨Char.toNat_inj.mp ?_, below⟩
  have zero : '0'.toNat = 48 := rfl
  rw [Nat.toNat_digitChar_of_lt_ten below]
  omega

/-- Digits that do not begin with a zero are the decimal of the number that they spell. -/
theorem toDigits_ofDigitChars (digits : ∀ c ∈ cs, Text.isAsciiDigit c = true) (some : cs ≠ [])
    (noZero : cs.head? ≠ .some '0') : Nat.toDigits 10 (Nat.ofDigitChars 10 cs 0) = cs := by
  induction cs using List.reverseRecOn with
  | nil => exact absurd rfl some
  | append_singleton front last ih =>
    obtain ⟨isLast, below⟩ := digitChar_of_isAsciiDigit (digits last (by simp))
    rw [Nat.ofDigitChars_append, Nat.ofDigitChars_cons, Nat.ofDigitChars_nil]
    by_cases single : front = []
    · subst single
      rw [Nat.ofDigitChars_nil, Nat.mul_zero, Nat.zero_add, Nat.toDigits_of_lt_base below, isLast]
      rfl
    · have more : front.head? ≠ .some '0' := by rwa [List.head?_append_of_ne_nil _ single] at noZero
      have spelled := ih (fun c member => digits c (List.mem_append_left _ member)) single more
      have positive : 0 < Nat.ofDigitChars 10 front 0 := by
        rw [Nat.pos_iff_ne_zero]
        intro zero
        rw [zero, Nat.toDigits_zero] at spelled
        exact more (by rw [← spelled]; rfl)
      rw [← Nat.toDigits_append_toDigits (by decide) positive below, spelled, Nat.toDigits_of_lt_base below, isLast]

end ClientGen.Number
