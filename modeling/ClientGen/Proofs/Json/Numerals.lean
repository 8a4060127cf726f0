import ClientGen.Json.Parser
import Mathlib.Data.List.TakeWhile

/-!
Reading JSON stops at a whole number that is too long to convert only where the text has one: so many digits in a row
(`parse_tooManyDigits`).
-/

namespace ClientGen.Json

/-- A text has a run of so many digits, and they are too many to convert. -/
def HasLongRun (cs : List Char) (count : Nat) : Prop :=
  ∃ run : List Char, run <:+: cs ∧ (∀ c ∈ run, Text.isAsciiDigit c = true) ∧ run.length = count ∧
    Number.digitLimit < count

/-- What a reader may yield that stands at a text: what it leaves is an end of the text, and it complains about too many
digits only if the text has them. -/
def Proper {α : Type} (left : α → List Char) (cs : List Char) : Except Failure α → Prop
  | .ok a => left a <:+ cs
  | .error (.problem _ _) => True
  | .error (.tooManyDigits count) => HasLongRun cs count

section

variable {α β : Type} {left : α → List Char} {leftLater : β → List Char} {cs longer : List Char}

theorem Proper.mono {outcome : Except Failure α} (proper : Proper left cs outcome) (suffix : cs <:+ longer) :
    Proper left longer outcome := by
  match outcome, proper with
  | .ok _, leaves => exact leaves.trans suffix
  | .error (.problem _ _), _ => trivial
  | .error (.tooManyDigits _), ⟨run, inside, rest⟩ => exact ⟨run, inside.trans suffix.isInfix, rest⟩

theorem Proper.bind {first : Except Failure α} {later : α → Except Failure β} (proper : Proper left cs first)
    (goesOn : ∀ a, left a <:+ cs → Proper leftLater cs (later a)) : Proper leftLater cs (first >>= later) := by
  match first, proper with
  | .ok a, leaves => exact goesOn a leaves
  | .error (.problem _ _), _ => trivial
  | .error (.tooManyDigits _), long => exact long

/-! ### Blanks and texts -/

theorem skipSpaces_suffix (cs : List Char) (offset : Nat) : (skipSpaces cs offset).rest <:+ cs := by
  induction cs generalizing offset with
  | nil => exact List.suffix_refl []
  | cons c rest ih =>
    rw [skipSpaces]
    split
    · exact (ih (offset + 1)).trans (List.suffix_cons c rest)
    · exact List.suffix_refl _

theorem skip_suffix (c : Cursor) : c.skip.rest <:+ c.rest := skipSpaces_suffix c.rest c.offset

theorem codeUnit_proper (cs : List Char) (offset : Nat) : Proper Prod.snd cs (codeUnit cs offset) := by
  unfold codeUnit
  split
  · rename_i a b c d e tail
    split
    · exact List.suffix_append [a, b, c, d] (e :: tail)
    · trivial
  · trivial

theorem unicodeEscape_proper (cs : List Char) (offset : Nat) :
    Proper (fun found => found.2.1) cs (unicodeEscape cs offset) := by
  refine (codeUnit_proper cs offset).bind ?_
  rintro ⟨high, tail⟩ leaves
  dsimp only at leaves ⊢
  split
  · rename_i behind _
    split
    · exact leaves
    · have pair : behind <:+ cs := (List.suffix_append ['\\', 'u'] behind).trans leaves
      refine ((codeUnit_proper behind (offset + 6)).mono pair).bind fun found leavesLow => ?_
      split
      · exact leavesLow
      · exact leaves
  · exact leaves

theorem textBody_proper (start fuel : Nat) (cs : List Char) (offset : Nat) (done : List Char) :
    Proper (fun found => found.2.rest) cs (textBody start fuel cs offset done) := by
  fun_induction textBody start fuel cs offset done with
  | case1 => trivial
  | case2 => trivial
  | case3 => exact List.suffix_cons _ _
  | case4 => trivial
  | case5 fuel offset done rest _ ih =>
    have inside : rest <:+ '\\' :: 'u' :: rest := List.suffix_append ['\\', 'u'] rest
    refine ((unicodeEscape_proper rest (offset + 1)).mono inside).bind ?_
    rintro ⟨ch, left, next⟩ leaves
    exact (ih ch left next).mono leaves
  | case6 fuel offset done e rest _ _ _ _ ih => exact ih.mono (List.suffix_append ['\\', e] rest)
  | case7 => trivial
  | case8 => trivial
  | case9 fuel c rest _ _ _ _ _ ih => exact ih.mono (List.suffix_cons c rest)

theorem text_proper (fuel : Nat) (c : Cursor) : Proper (fun found => found.2.rest) c.rest (text fuel c) := by
  refine ((textBody_proper c.offset fuel (c.rest.drop 1) (c.offset + 1) []).mono (List.drop_suffix 1 c.rest)).bind ?_
  exact fun found leaves => leaves

/-! ### Numbers -/

theorem fractionPart_suffix (cs : List Char) : (fractionPart cs).2 <:+ cs := by
  unfold fractionPart
  split
  · rename_i rest
    dsimp only
    split
    · exact List.suffix_refl _
    · exact (List.dropWhile_suffix _).trans (List.suffix_cons '.' rest)
  · exact List.suffix_refl _

theorem signPart_suffix (cs : List Char) : (signPart cs).2.2 <:+ cs := by
  unfold signPart
  split
  · exact List.suffix_cons _ _
  · exact List.suffix_cons _ _
  · exact List.suffix_refl _

theorem signedDigits_suffix {n : Int} {count : Nat} {behind : List Char}
    (found : signedDigits cs = some (n, count, behind)) : behind <:+ cs := by
  unfold signedDigits at found
  dsimp only at found
  split at found
  · cases found
  · cases found
    exact (List.dropWhile_suffix _).trans (signPart_suffix cs)

theorem exponentPart_suffix {n : Int} {count : Nat} {behind : List Char}
    (found : exponentPart cs = some (n, count, behind)) : behind <:+ cs := by
  match cs, found with
  | c :: rest, found =>
    rw [exponentPart] at found
    split at found
    · obtain ⟨⟨n', count', left⟩, digits, same⟩ := Option.map_eq_some_iff.mp found
      cases same
      exact (signedDigits_suffix digits).trans (List.suffix_cons c rest)
    · simp at found

theorem minusPart_suffix (cs : List Char) : (minusPart cs).2 <:+ cs := by
  unfold minusPart
  split
  · exact List.suffix_cons _ _
  · exact List.suffix_refl _

theorem wholePart_starts (cs : List Char) : wholePart cs <+: cs := by
  unfold wholePart
  split
  · exact List.prefix_append ['0'] _
  · exact List.takeWhile_prefix _

theorem isAsciiDigit_of_mem_wholePart {c : Char} (inside : c ∈ wholePart cs) : Text.isAsciiDigit c = true := by
  unfold wholePart at inside
  split at inside
  · rw [List.mem_singleton.mp inside]
    decide
  · exact List.mem_takeWhile_imp inside

theorem number_proper (c : Cursor) : Proper (fun found => found.2.rest) c.rest (number c) := by
  have body : (minusPart c.rest).2 <:+ c.rest := minusPart_suffix c.rest
  have behind : (fractionPart ((minusPart c.rest).2.drop (wholePart (minusPart c.rest).2).length)).2 <:+ c.rest :=
    (fractionPart_suffix _).trans ((List.drop_suffix _ _).trans body)
  unfold number
  dsimp only
  split
  · trivial
  · split
    · rename_i found
      exact (exponentPart_suffix found).trans behind
    · split
      · exact behind
      · split
        · rename_i long
          exact ⟨_, (wholePart_starts _).isInfix.trans body.isInfix, fun _ => isAsciiDigit_of_mem_wholePart, rfl, long⟩
        · exact behind

/-! ### Values -/

theorem word?_suffix {c next : Cursor} {v : Value} (found : word? c = some (v, next)) : next.rest <:+ c.rest := by
  obtain ⟨⟨name, value⟩, -, taken⟩ := List.exists_of_findSome?_eq_some found
  obtain ⟨rest, start, same⟩ := Option.map_eq_some_iff.mp taken
  cases same
  rw [Text.dropLeading?_eq_some.mp start]
  exact List.suffix_append name.toList rest

private theorem tail_suffix {c : Char} {rest : List Char} (same : cs = c :: rest) : rest <:+ cs :=
  same ▸ List.suffix_cons c rest

/-- Values, the entries of mappings and the items of lists, by the fuel that all of them share. -/
theorem value_proper (fuel : Nat) :
    (∀ c, Proper (fun found => found.2.rest) c.rest (value fuel c)) ∧
    (∀ done c, Proper (fun found => found.2.rest) c.rest (members fuel done c)) ∧
    ∀ done c, Proper (fun found => found.2.rest) c.rest (elements fuel done c) := by
  induction fuel with
  | zero => exact ⟨fun _ => trivial, fun _ _ => trivial, fun _ _ => trivial⟩
  | succ fuel ih =>
    obtain ⟨ofValue, ofMembers, ofElements⟩ := ih
    refine ⟨fun c => ?_, fun done c => ?_, fun done c => ?_⟩
    · rw [value]
      split
      · exact (text_proper (fuel + 1) c).bind fun found leaves => leaves
      · rename_i rest same
        have inner : (Cursor.skip ⟨rest, c.offset + 1⟩).rest <:+ c.rest := (skip_suffix _).trans (tail_suffix same)
        dsimp only
        split
        · rename_i empty
          exact (tail_suffix empty).trans inner
        · exact ((ofMembers [] _).mono inner).bind fun found leaves => leaves
      · rename_i rest same
        have inner : (Cursor.skip ⟨rest, c.offset + 1⟩).rest <:+ c.rest := (skip_suffix _).trans (tail_suffix same)
        dsimp only
        split
        · rename_i empty
          exact (tail_suffix empty).trans inner
        · exact ((ofElements [] _).mono inner).bind fun found leaves => leaves
      · split
        · rename_i found
          exact word?_suffix found
        · exact number_proper c
    · rw [members]
      split
      · trivial
      refine (text_proper (fuel + 1) c).bind ?_
      rintro ⟨name, next⟩ leavesName
      dsimp only
      split
      · trivial
      have colon : (Cursor.skip ⟨next.skip.rest.drop 1, next.skip.offset + 1⟩).rest <:+ c.rest :=
        (skip_suffix _).trans ((List.drop_suffix 1 _).trans ((skip_suffix next).trans leavesName))
      refine ((ofValue _).mono colon).bind ?_
      rintro ⟨v, next⟩ leavesValue
      have after : next.skip.rest <:+ c.rest := (skip_suffix next).trans leavesValue
      dsimp only
      split
      · rename_i last
        exact (tail_suffix last).trans after
      · rename_i more
        exact (ofMembers _ _).mono ((skip_suffix _).trans ((tail_suffix more).trans after))
      · trivial
    · rw [elements]
      refine (ofValue c).bind ?_
      rintro ⟨v, next⟩ leavesValue
      have after : next.skip.rest <:+ c.rest := (skip_suffix next).trans leavesValue
      dsimp only
      split
      · rename_i last
        exact (tail_suffix last).trans after
      · rename_i more
        exact (ofElements _ _).mono ((skip_suffix _).trans ((tail_suffix more).trans after))
      · trivial

theorem document_proper (cs : List Char) : Proper (fun _ => []) cs (document cs) := by
  unfold document
  split
  · trivial
  refine (((value_proper _).1 _).mono (skip_suffix ⟨cs, 0⟩)).bind ?_
  rintro ⟨v, next⟩ -
  dsimp only
  split
  · trivial
  · exact List.nil_suffix

end

/-- Reading stops at too many digits only if the text has so many in a row. -/
theorem parse_tooManyDigits {text : String} {count : Nat} (refused : parse text = .error (.tooManyDigits count)) :
    HasLongRun text.toList count := by
  have proper := document_proper text.toList
  unfold parse at refused
  dsimp only at refused
  split at refused
  · cases refused
  · cases refused
  · rename_i found
    cases refused
    rwa [found] at proper

end ClientGen.Json
