import Mathlib.Data.List.Infix
import Mathlib.Data.List.TakeWhile
import Mathlib.Data.String.Basic
import ClientGen.Terminal.Output

/-!
Messages that reach the terminal as they are. Markup leaves a text alone in which nothing stands that it would
read (`IsOrdinary`), and a text is not broken where its lines fit the terminal (`Fits`).
-/

namespace ClientGen

/-! ### Markup -/

namespace Markup

/-- Characters that a name between colons can hold. -/
def isNamePart (c : Char) : Bool := c ≠ ':' && !Text.isBlank c

/-- The name between colons at the front of a text. -/
def readName? : List Char → Option (List Char)
  | ':' :: rest =>
    match rest.dropWhile isNamePart with
    | ':' :: _ => some (rest.takeWhile isNamePart)
    | _ => none
  | _ => none

/-- At the front of a text stands nothing that markup reads: no mark, no escaped bracket and no name of
characters. -/
structure IsOrdinary (cs : List Char) : Prop where
  noMark : readMark? cs = none
  noEscape : ¬ ['\\', '['] <+: cs
  noName : (readName? cs).bind Terminal.charactersOf? = none

instance (cs : List Char) : Decidable (IsOrdinary cs) :=
  decidable_of_iff
    (readMark? cs = none ∧ ¬ ['\\', '['] <+: cs ∧ (readName? cs).bind Terminal.charactersOf? = none)
    ⟨fun ⟨noMark, noEscape, noName⟩ => ⟨noMark, noEscape, noName⟩,
      fun ordinary => ⟨ordinary.noMark, ordinary.noEscape, ordinary.noName⟩⟩

/-- Nowhere in a text stands anything that markup reads. -/
def IsUnmarked (cs : List Char) : Prop := ∀ rest ∈ cs.tails, IsOrdinary rest

instance (cs : List Char) : Decidable (IsUnmarked cs) :=
  inferInstanceAs (Decidable (∀ rest ∈ cs.tails, IsOrdinary rest))

namespace IsUnmarked

variable {cs : List Char}

theorem ordinary (unmarked : IsUnmarked cs) {rest : List Char} (part : rest <:+ cs) : IsOrdinary rest :=
  unmarked rest ((List.mem_tails _ _).mpr part)

theorem suffix (unmarked : IsUnmarked cs) {rest : List Char} (part : rest <:+ cs) : IsUnmarked rest :=
  fun _ member => unmarked.ordinary (((List.mem_tails _ _).mp member).trans part)

theorem tail {c : Char} (unmarked : IsUnmarked (c :: cs)) : IsUnmarked cs := unmarked.suffix (List.suffix_cons c cs)

/-- Text without marks is one piece. -/
theorem piecesFrom_eq (unmarked : IsUnmarked cs) (before : List Char) :
    piecesFrom before cs = textPiece (before ++ cs) := by
  induction cs generalizing before with
  | nil => rw [piecesFrom, List.append_nil]
  | cons c rest ih =>
    have noMark := (unmarked.ordinary (List.dropWhile_suffix (· = '\\'))).noMark
    rw [piecesFrom]
    split
    · rename_i found
      simp [noMark] at found
    · rw [ih unmarked.tail, List.append_assoc, List.singleton_append]

theorem unescape_eq (unmarked : IsUnmarked cs) : textPiece.unescape cs = cs := by
  fun_induction textPiece.unescape cs with
  | case1 rest ih => exact absurd ⟨rest, rfl⟩ (unmarked.ordinary List.suffix_rfl).noEscape
  | case2 c rest _ ih => rw [ih unmarked.tail]
  | case3 => rfl

private theorem readName?_append {name rest : List Char} (inside : ∀ c ∈ name, isNamePart c = true) :
    readName? (':' :: name ++ ':' :: rest) = some name := by
  rw [List.cons_append, readName?, List.dropWhile_append_of_pos inside, List.takeWhile_append_of_pos inside]
  simp [isNamePart]

/-- Where no name is read, all colons stay; this holds also where a name has been begun behind one. -/
theorem replaceNames_eq (unmarked : IsUnmarked cs) :
    Terminal.replaceNames none cs = cs ∧
      ∀ name, (∀ c ∈ name, isNamePart c = true) → IsUnmarked (':' :: name ++ cs) →
        Terminal.replaceNames (some name) cs = ':' :: name ++ cs := by
  induction cs with
  | nil => exact ⟨rfl, fun name _ _ => by simp [Terminal.replaceNames]⟩
  | cons c rest ih =>
    obtain ⟨outside, within⟩ := ih unmarked.tail
    refine ⟨?_, fun name inside begun => ?_⟩
    · by_cases colon : c = ':'
      · subst colon
        simpa [Terminal.replaceNames] using within [] (by simp) unmarked
      · simp [Terminal.replaceNames, colon, outside]
    · by_cases colon : c = ':'
      · subst colon
        have unnamed := (begun.ordinary List.suffix_rfl).noName
        rw [readName?_append inside, Option.bind_some] at unnamed
        simp [Terminal.replaceNames, unnamed, outside]
      · by_cases blank : Text.isBlank c = true
        · simp [Terminal.replaceNames, colon, blank, outside]
        · have longer : ∀ d ∈ name ++ [c], isNamePart d = true := by
            intro d member
            rcases List.mem_append.mp member with member | member
            · exact inside d member
            · rw [List.mem_singleton.mp member]
              simp [isNamePart, colon, blank]
          simpa [Terminal.replaceNames, colon, blank] using within (name ++ [c]) longer (by simpa using begun)

/-- Markup shows unmarked text as it is. -/
theorem textOf_textPiece (unmarked : IsUnmarked cs) (styles : List String) :
    textOf styles (textPiece cs) = .ok cs := by
  cases cs with
  | nil => rfl
  | cons c rest =>
    rw [textPiece, if_neg (by simp), textOf, unmarked.unescape_eq, Terminal.withCharacters,
      unmarked.replaceNames_eq.1]
    simp [textOf, bind, Except.bind, pure, Except.pure]

end IsUnmarked

theorem plain_of_unmarked {message : String} (unmarked : IsUnmarked message.toList) :
    plain message = .ok message.toList := by
  rw [plain, pieces, unmarked.piecesFrom_eq, List.nil_append, unmarked.textOf_textPiece]

end Markup

/-! ### Columns -/

namespace Terminal

theorem widthFrom_joiner (last : Option Char) (c : Char) (cs : List Char) :
    widthFrom last (joiner :: c :: cs) = widthFrom last cs := by
  rw [widthFrom, if_pos rfl]

theorem widthFrom_pictureMark (last : Option Char) (cs : List Char) :
    widthFrom last (pictureMark :: cs) = pictureGain last + widthFrom none cs := by
  rw [widthFrom.eq_def]
  exact (if_neg (by decide)).trans (if_pos rfl)

theorem widthFrom_unseen {c : Char} (notJoiner : c ≠ joiner) (notPicture : c ≠ pictureMark)
    (unseen : Text.columns c = 0) (last : Option Char) (cs : List Char) :
    widthFrom last (c :: cs) = widthFrom last cs := by
  rw [widthFrom.eq_def]
  exact (if_neg notJoiner).trans ((if_neg notPicture).trans (if_pos unseen))

theorem widthFrom_seen {c : Char} (notJoiner : c ≠ joiner) (notPicture : c ≠ pictureMark)
    (seen : Text.columns c ≠ 0) (last : Option Char) (cs : List Char) :
    widthFrom last (c :: cs) = Text.columns c + widthFrom (some c) cs := by
  rw [widthFrom.eq_def]
  exact (if_neg notJoiner).trans ((if_neg notPicture).trans (if_neg seen))

theorem widthFrom_none_le (last : Option Char) (cs : List Char) : widthFrom none cs ≤ widthFrom last cs := by
  induction last, cs using widthFrom.induct with
  | case1 => exact Nat.le_refl _
  | case2 => exact Nat.le_refl _
  | case3 last c rest ih => simpa only [widthFrom_joiner] using ih
  | case4 last rest _ _ =>
    rw [widthFrom_pictureMark, widthFrom_pictureMark]
    exact Nat.add_le_add_right (Nat.zero_le _) _
  | case5 last c rest notJoiner notPicture unseen ih =>
    simpa only [widthFrom_unseen notJoiner notPicture unseen] using ih
  | case6 last c rest notJoiner notPicture seen ih =>
    rw [widthFrom_seen notJoiner notPicture seen, widthFrom_seen notJoiner notPicture seen]

/-- More text takes no fewer columns. -/
theorem widthFrom_le_append (last : Option Char) (cs more : List Char) :
    widthFrom last cs ≤ widthFrom last (cs ++ more) := by
  induction last, cs using widthFrom.induct with
  | case1 => exact Nat.zero_le _
  | case2 => exact Nat.zero_le _
  | case3 last c rest ih => simpa only [List.cons_append, widthFrom_joiner] using ih
  | case4 last rest _ ih => simpa only [List.cons_append, widthFrom_pictureMark, Nat.add_le_add_iff_left] using ih
  | case5 last c rest notJoiner notPicture unseen ih =>
    simpa only [List.cons_append, widthFrom_unseen notJoiner notPicture unseen] using ih
  | case6 last c rest notJoiner notPicture seen ih =>
    simpa only [List.cons_append, widthFrom_seen notJoiner notPicture seen, Nat.add_le_add_iff_left] using ih

private theorem apart_tail {c : Char} {cs : List Char} (apart : (c :: cs).getLast? ≠ some joiner) :
    cs.getLast? ≠ some joiner := by
  cases cs with
  | nil => simp
  | cons d cs => rwa [List.getLast?_cons_cons] at apart

/-- Two texts in a row take at least the columns of both, unless a joiner between them takes in what follows. -/
theorem widthFrom_add_le (last : Option Char) (cs more : List Char) (apart : cs.getLast? ≠ some joiner) :
    widthFrom last cs + width more ≤ widthFrom last (cs ++ more) := by
  induction last, cs using widthFrom.induct with
  | case1 last =>
    rw [widthFrom, Nat.zero_add]
    exact widthFrom_none_le last more
  | case2 => exact absurd rfl apart
  | case3 last d rest ih =>
    simpa only [List.cons_append, widthFrom_joiner] using ih (apart_tail (apart_tail apart))
  | case4 last rest _ ih =>
    have := ih (apart_tail apart)
    simp only [List.cons_append, widthFrom_pictureMark]
    omega
  | case5 last c rest notJoiner notPicture unseen ih =>
    simpa only [List.cons_append, widthFrom_unseen notJoiner notPicture unseen] using ih (apart_tail apart)
  | case6 last c rest notJoiner notPicture seen ih =>
    have := ih (apart_tail apart)
    simp only [List.cons_append, widthFrom_seen notJoiner notPicture seen]
    omega

/-! ### Lines -/

private theorem dropWhile_head {p : Char → Bool} {cs rest : List Char} {c : Char}
    (left : cs.dropWhile p = c :: rest) : p c = false := by
  simpa [left] using List.head?_dropWhile_not p cs

theorem cutWord_append (cs : List Char) : (cutWord cs).1 ++ (cutWord cs).2 = cs := by
  simp only [cutWord, List.append_assoc, List.takeWhile_append_dropWhile]

/-- What is left behind a word begins with another word, or is nothing. -/
theorem cutWord_rest {cs : List Char} (blank : (cutWord cs).2.all Text.isBlank = true) :
    (cutWord cs).2 = [] := by
  cases left : (cutWord cs).2 with
  | nil => rfl
  | cons c rest => simp [left, dropWhile_head left] at blank

/-- A word that another one follows has a blank at its end, and so no joiner. -/
theorem cutWord_last {cs : List Char} (more : (cutWord cs).2 ≠ []) : (cutWord cs).1.getLast? ≠ some joiner := by
  intro joined
  set behind := (cs.dropWhile Text.isBlank).dropWhile fun c => !Text.isBlank c with isBehind
  have gap : behind.takeWhile Text.isBlank ≠ [] := by
    cases left : behind with
    | nil => exact absurd (by rw [cutWord, ← isBehind, left]; rfl) more
    | cons c rest =>
      have blank : (!Text.isBlank c) = false := dropWhile_head (isBehind ▸ left)
      simp [show Text.isBlank c = true by simpa using blank]
  have last : joiner ∈ behind.takeWhile Text.isBlank := by
    rw [cutWord, ← isBehind, List.getLast?_append_of_ne_nil _ gap] at joined
    exact List.mem_of_getLast? joined
  exact absurd (List.mem_takeWhile_imp last : Text.isBlank joiner = true) (by decide)

theorem cutWord_length {cs : List Char} (word : cs.all Text.isBlank = false) :
    (cutWord cs).2.length < cs.length := by
  have whole := congrArg List.length (cutWord_append cs)
  have begun : 0 < (cutWord cs).1.length := by
    cases left : cs.dropWhile Text.isBlank with
    | nil =>
      rw [List.all_eq_false] at word
      obtain ⟨c, member, notBlank⟩ := word
      exact absurd (List.dropWhile_eq_nil_iff.mp left c member) notBlank
    | cons c rest =>
      simp only [cutWord, left, List.length_append, List.takeWhile_cons, dropWhile_head left, Bool.not_false,
        ↓reduceIte, List.length_cons]
      omega
  rw [List.length_append] at whole
  omega

theorem wordsFrom_of_blank {n : Nat} {cs : List Char} (blank : cs.all Text.isBlank = true) :
    wordsFrom n cs = [] := by
  cases n with
  | zero => rfl
  | succ n => rw [wordsFrom, if_pos blank]

/-- The words of a text are the whole text, unless it holds no word. -/
theorem wordsFrom_flatten {n : Nat} {cs : List Char} (enough : cs.length ≤ n) :
    (wordsFrom n cs).flatten = if cs.all Text.isBlank then [] else cs := by
  induction n generalizing cs with
  | zero => simp [wordsFrom, List.eq_nil_of_length_eq_zero (Nat.le_zero.mp enough)]
  | succ n ih =>
    rw [wordsFrom]
    split
    · rfl
    · rename_i word
      have shorter := cutWord_length (by simpa using word)
      rw [List.flatten_cons, ih (by omega)]
      split
      · rename_i blank
        rw [← cutWord_rest blank, cutWord_append]
      · exact cutWord_append cs

theorem width_trimEnd_le (p : Char → Bool) (cs : List Char) : width (Text.trimEnd p cs) ≤ width cs := by
  have start : Text.trimEnd p cs <+: cs := by
    simpa [Text.trimEnd] using List.reverse_prefix.mpr (List.dropWhile_suffix p (l := cs.reverse))
  obtain ⟨rest, whole⟩ := start
  calc width (Text.trimEnd p cs) ≤ width (Text.trimEnd p cs ++ rest) := widthFrom_le_append none _ rest
    _ = width cs := by rw [whole]

/-- Words that all fit a line are added to it. The filling adds up the columns word by word, and these are no more
than those of the whole text, since no joiner stands between two words. -/
theorem foldl_add (overflow : Overflow) {limit : Nat} (n : Nat) {cs : List Char} {f : Filling}
    (fits : f.used + width cs ≤ limit) :
    ((wordsFrom n cs).foldl (Filling.add overflow limit) f).done = f.done ∧
      ((wordsFrom n cs).foldl (Filling.add overflow limit) f).line = f.line ++ (wordsFrom n cs).flatten := by
  induction n generalizing cs f with
  | zero => simp [wordsFrom]
  | succ n ih =>
    rw [wordsFrom]
    split
    · simp
    · set word := (cutWord cs).1
      have both : width word + width (cutWord cs).2 ≤ width cs := by
        by_cases more : (cutWord cs).2 = []
        · have only : word = cs := by simpa [more] using cutWord_append cs
          rw [more, only]
          exact Nat.le_refl _
        · calc width word + width (cutWord cs).2
            _ ≤ width (word ++ (cutWord cs).2) := widthFrom_add_le none word _ (cutWord_last more)
            _ = width cs := congrArg width (cutWord_append cs)
      -- blanks at the end of a word may stand beyond the limit, but here there is room even for them
      have needed := width_trimEnd_le Text.isBlank word
      have added : f.add overflow limit word = ⟨f.done, f.line ++ word, f.used + width word⟩ := by
        rw [Filling.add]
        exact if_pos (by omega)
      have room : (f.add overflow limit word).used + width (cutWord cs).2 ≤ limit := by
        rw [added]
        dsimp only
        omega
      have rest := ih room
      rw [List.foldl_cons, rest.1, rest.2, added, List.flatten_cons, List.append_assoc]
      exact ⟨rfl, rfl⟩

/-- A line that is not wider than its limit is not broken. -/
theorem breakLine_eq {overflow : Overflow} {limit : Nat} {cs : List Char} (narrow : width cs ≤ limit) :
    breakLine overflow limit cs = [cs] := by
  obtain ⟨done, line⟩ := foldl_add overflow cs.length (f := {}) (by simpa using narrow)
  have whole := wordsFrom_flatten (Nat.le_refl cs.length)
  rw [breakLine, words]
  split
  · rfl
  · rename_i found
    have word : cs.all Text.isBlank ≠ true := fun blank => found (wordsFrom_of_blank blank)
    dsimp only
    rw [done, line, whole, if_neg word]
    rfl

/-- A line stays as it is where it has no tabs and is not longer than the terminal has columns. -/
structure Fits (limit : Nat) (line : List Char) : Prop where
  noTab : '\t' ∉ line
  short : line.length ≤ limit
  narrow : width line ≤ limit

instance (limit : Nat) (line : List Char) : Decidable (Fits limit line) :=
  decidable_of_iff ('\t' ∉ line ∧ line.length ≤ limit ∧ width line ≤ limit)
    ⟨fun ⟨noTab, short, narrow⟩ => ⟨noTab, short, narrow⟩, fun fits => ⟨fits.noTab, fits.short, fits.narrow⟩⟩

theorem spreadTabs_eq {cs : List Char} (noTab : '\t' ∉ cs) : spreadTabs cs = cs := by
  have whole : Text.fields (· = '\t') cs = [cs] :=
    Text.fields_of_none fun c member => decide_eq_false fun tab => noTab (tab ▸ member)
  rw [spreadTabs, whole]
  simp

theorem dropExcess_eq {limit : Nat} {cs : List Char} (short : cs.length ≤ limit) : dropExcess limit cs = cs := by
  rw [dropExcess, Nat.sub_eq_zero_of_le short]
  simp

/-- Lines that fit the terminal are shown as they are. -/
theorem wrap_eq {limit : Nat} {cs : List Char} (fits : ∀ line ∈ Text.fields (· = '\n') cs, Fits limit line) :
    wrap .free .fold limit cs = Text.fields (· = '\n') cs := by
  have kept : ∀ line ∈ Text.fields (· = '\n') cs, (breakLine .fold limit (spreadTabs line)).map (fun line =>
      align .free .fold limit (dropExcess limit line)) = [line] := by
    intro line member
    obtain ⟨noTab, short, narrow⟩ := fits line member
    rw [spreadTabs_eq noTab, breakLine_eq narrow, List.map_singleton, dropExcess_eq short, align, truncate,
      if_pos narrow]
  rw [wrap, List.flatMap_congr kept, List.flatMap_singleton']

end Terminal

/-! ### Messages -/

namespace Output

private theorem flatMap_fields (separator : Char) (cs : List Char) :
    (Text.fields (· = separator) cs).flatMap (· ++ [separator]) = cs ++ [separator] := by
  induction cs with
  | nil => rfl
  | cons c rest ih =>
    rw [Text.fields]
    split
    · rename_i separates
      simp [ih, of_decide_eq_true separates]
    · cases pieces : Text.fields (· = separator) rest with
      | nil => simp [pieces] at ih
      | cons piece pieces' => simpa [pieces] using ih

theorem linesText_fields (cs : List Char) : linesText (Text.fields (· = '\n') cs) = String.ofList cs ++ "\n" := by
  have breaks := flatMap_fields '\n' cs
  rw [← String.toList_inj, linesText, String.toList_join]
  simpa [List.flatMap_def, Function.comp_def] using breaks

/-- A way of talking shows a text as it is: plainly, or because markup reads nothing in it, the terminal acts upon
none of its characters, and its lines fit. -/
structure ShowsAsIs (o : Output) (text : List Char) : Prop where
  unmarked : Markup.IsUnmarked text
  shown : text.any Terminal.isSilent = false
  fits : ∀ line ∈ Text.fields (· = '\n') text, Terminal.Fits o.width line

private theorem fits_pos {limit : Nat} {c : Char} {cs : List Char} (noBreak : c ≠ '\n')
    (fits : ∀ line ∈ Text.fields (· = '\n') (c :: cs), Terminal.Fits limit line) : 0 < limit := by
  rw [Text.fields, if_neg (by simpa using noBreak)] at fits
  cases pieces : Text.fields (· = '\n') cs with
  | nil => exact (fits [c] (by simp [pieces])).short
  | cons piece rest => exact Nat.lt_of_lt_of_le (Nat.succ_pos _) (fits (c :: piece) (by simp [pieces])).short

theorem error_of_marked {o : Output} (marked : o.isPlain = false) (message : String) :
    o.error message =
      (Markup.plain (errorLabel ++ message)).map fun text => o.wrapped (Terminal.printable text) := by
  rw [error, marked, readMarkup]
  cases Markup.plain (errorLabel ++ message) <;> rfl

/-- Errors are shown with their messages as they are. -/
theorem error_eq {o : Output} {message : String}
    (asIs : o.isPlain = true ∨ o.ShowsAsIs (errorLabel ++ message).toList) :
    o.error message = .ok (errorLabel ++ message ++ "\n") := by
  cases marked : o.isPlain with
  | true => rw [error, if_pos marked]
  | false =>
    obtain ⟨unmarked, shown, fits⟩ := asIs.resolve_left (by simp [marked])
    have printable : Terminal.printable (errorLabel ++ message).toList = (errorLabel ++ message).toList :=
      List.filter_eq_self.mpr fun c member => by simp [List.any_eq_false.mp shown c member]
    have wide : o.width ≠ 0 := by
      rw [String.toList_append] at fits
      exact Nat.ne_of_gt (fits_pos (by decide) fits)
    have whole : o.wrapped (errorLabel ++ message).toList = errorLabel ++ message ++ "\n" := by
      rw [wrapped, if_neg wide, Terminal.wrap_eq fits, linesText_fields, String.ofList_toList]
    rw [error_of_marked marked, Markup.plain_of_unmarked unmarked, Except.map, printable, whole]

end Output

end ClientGen
