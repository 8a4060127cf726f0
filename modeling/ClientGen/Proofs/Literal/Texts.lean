import ClientGen.Proofs.Literal.Reader
import ClientGen.Text.Quoted
import Mathlib.Algebra.Group.Nat.Defs
import Mathlib.Tactic.SplitIfs

/-!
Quoted texts read back. Every character of a text is read from what is written for it, whatever stands behind
(`textBody_quoteChar`); so the characters are read up to the closing quote, which none of them is taken for
(`textBody_quoted`).
-/

namespace ClientGen.Literal

/-! ### Code points -/

private theorem hexValue?_hexDigit (n : Nat) : Json.hexValue? (Text.hexDigit n) = some (n % 16) := by
  have digits : ∀ d < 16, Json.hexValue? (Text.hexDigit d) = some d := by decide
  have same : Text.hexDigit n = Text.hexDigit (n % 16) := by rw [Text.hexDigit, Text.hexDigit, Nat.mod_mod]
  rw [same, digits _ (Nat.mod_lt n (by decide))]

private theorem hexNumber?_hexDigits (width n : Nat) :
    Json.hexNumber? (Text.hexDigits width n) = some (n % 16 ^ width) := by
  induction width generalizing n with
  | zero => rw [Nat.pow_zero, Nat.mod_one]; rfl
  | succ width ih =>
    have front := ih (n / 16)
    rw [Json.hexNumber?] at front ⊢
    rw [Text.hexDigits, List.foldl_append, front]
    simp only [List.foldl_cons, List.foldl_nil, hexValue?_hexDigit]
    rw [Nat.pow_succ', Nat.mod_mul]
    simp [Nat.add_comm]

private theorem length_hexDigits (width n : Nat) : (Text.hexDigits width n).length = width := by
  induction width generalizing n with
  | zero => rfl
  | succ width ih => rw [Text.hexDigits, List.length_append, ih]; rfl

private theorem character?_toNat (c : Char) : character? c.toNat = some c := by
  have valid : c.toNat.isValidChar := c.valid
  rw [character?, if_pos valid, Char.ofNat_toNat]

private theorem escape_hexDigits {letter c : Char} {width : Nat} (notSimple : simpleEscape? letter = none)
    (isWidth : escapeWidth? letter = some width) (fits : c.toNat < 16 ^ width) (behind : List Char) :
    escape (letter :: (Text.hexDigits width c.toNat ++ behind)) = some (c, behind) := by
  rw [escape, notSimple]
  simp [isWidth, length_hexDigits, List.take_left' (length_hexDigits width _),
    List.drop_left' (length_hexDigits width _), hexNumber?_hexDigits, Nat.mod_eq_of_lt fits, character?_toNat]

/-- The escape of a character, behind its backslash, is read as the character. -/
theorem escape_escapeCode (c : Char) (behind : List Char) :
    ∃ inner, Text.escapeCode c.toNat = '\\' :: inner ∧ escape (inner ++ behind) = some (c, behind) := by
  rw [Text.escapeCode]
  split
  case isTrue byte => exact ⟨_, rfl, escape_hexDigits rfl rfl byte behind⟩
  case isFalse =>
    split
    case isTrue unit => exact ⟨_, rfl, escape_hexDigits rfl rfl unit behind⟩
    case isFalse =>
      have fits : c.toNat < 16 ^ 8 := Nat.lt_of_lt_of_le c.val.toNat_lt (by decide)
      exact ⟨_, rfl, escape_hexDigits rfl rfl fits behind⟩

/-! ### Texts -/

variable {quote : Char}

private theorem textBody_escape (isQuote : quote = '\'' ∨ quote = '"') {c : Char} {inner behind : List Char}
    (escaped : escape (inner ++ behind) = some (c, behind)) (fuel : Nat) :
    textBody quote (fuel + 1) ('\\' :: inner ++ behind) =
      (textBody quote fuel behind).map fun (chars, behind) => (c :: chars, behind) := by
  have noQuote : '\\' ≠ quote := by
    rcases isQuote with rfl | rfl <;> decide
  rw [List.cons_append, textBody, if_neg noQuote, if_pos rfl, escaped]
  cases found : textBody quote fuel behind <;> simp [found]

/-- Every character is read from what is written for it. -/
theorem textBody_quoteChar (isQuote : quote = '\'' ∨ quote = '"') (c : Char) (fuel : Nat) (behind : List Char) :
    textBody quote (fuel + 1) (Text.quoteChar quote c ++ behind) =
      (textBody quote fuel behind).map fun (chars, behind) => (c :: chars, behind) := by
  by_cases itself : c = quote ∨ c = '\\'
  · rw [Text.quoteChar, if_pos itself]
    refine @textBody_escape quote isQuote c [c] behind ?_ fuel
    rcases itself with rfl | rfl
    · rcases isQuote with rfl | rfl <;> rfl
    · rfl
  · rw [Text.quoteChar, if_neg itself]
    split_ifs with newline ret tab printable
    · exact newline ▸ textBody_escape isQuote rfl fuel
    · exact ret ▸ textBody_escape isQuote rfl fuel
    · exact tab ▸ textBody_escape isQuote rfl fuel
    · have noNull : ¬ c.toNat = 0 := by
        intro null
        rw [Text.isPrintable, Text.isAscii, null] at printable
        exact absurd printable (by decide)
      rw [List.singleton_append, textBody, if_neg (fun same => itself (.inl same)), if_neg (fun same => itself (.inr same)),
        if_neg (by simp [newline, ret, noNull])]
      cases textBody quote fuel behind <;> rfl
    · obtain ⟨inner, coded, escaped⟩ := escape_escapeCode c behind
      rw [coded]
      exact textBody_escape isQuote escaped fuel

/-- A quoted text is read up to its closing quote. -/
theorem textBody_quoted (isQuote : quote = '\'' ∨ quote = '"') (cs behind : List Char) {fuel : Nat}
    (enough : cs.length < fuel) :
    textBody quote fuel (cs.flatMap (Text.quoteChar quote) ++ quote :: behind) = some (cs, behind) := by
  induction cs generalizing fuel with
  | nil =>
    obtain ⟨fuel, rfl⟩ := Nat.exists_eq_succ_of_ne_zero (Nat.ne_of_gt enough)
    rw [List.flatMap_nil, List.nil_append, textBody, if_pos rfl]
  | cons c cs ih =>
    obtain ⟨fuel, rfl⟩ := Nat.exists_eq_succ_of_ne_zero (Nat.ne_of_gt (Nat.zero_lt_of_lt enough))
    rw [List.flatMap_cons, List.append_assoc, textBody_quoteChar isQuote, ih (by simpa using enough)]
    rfl

theorem chooseQuote_cases (cs : List Char) : Text.chooseQuote cs = '\'' ∨ Text.chooseQuote cs = '"' := by
  rw [Text.chooseQuote]
  split
  · exact .inr rfl
  · exact .inl rfl

private theorem quoteChar_ne_nil (c : Char) : Text.quoteChar quote c ≠ [] := by
  unfold Text.quoteChar Text.escapeCode
  split_ifs <;> exact List.cons_ne_nil _ _

private theorem length_le_flatMap_quoteChar (cs : List Char) : cs.length ≤ (cs.flatMap (Text.quoteChar quote)).length := by
  induction cs with
  | nil => exact Nat.le_refl 0
  | cons c cs ih =>
    have some := List.length_pos_iff.mpr (@quoteChar_ne_nil quote c)
    rw [List.flatMap_cons, List.length_append, List.length_cons]
    omega

/-- Whatever stands behind it, a quoted text is read as the text. -/
theorem constant_quoted (text : String) (behind : List Char) :
    constant ((Text.quoted text).toList ++ behind) = some (.text text, behind) := by
  have isQuote := chooseQuote_cases text.toList
  have length := @length_le_flatMap_quoteChar (Text.chooseQuote text.toList) text.toList
  rw [Text.quoted, Text.quotedChars, String.toList_ofList, List.cons_append, List.cons_append, List.append_assoc,
    List.singleton_append, constant, if_pos isQuote, textBody_quoted isQuote _ _ ?_]
  · simp
  · rw [List.length_append]
    omega

end ClientGen.Literal
