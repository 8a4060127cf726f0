import ClientGen.Proofs.Naming

/-!
Letters of identifiers. What can begin an identifier can stand anywhere in it, and its upper case is an identifier
again (`upper_of_start`). Upper case makes a word with small letters behind its first one only of that word, or of
the word in small letters (`upper_spells`). The tables of characters are compared once, by ranges.
-/

namespace ClientGen.Text

/-! ### Comparing tables -/

/-- Whether one of the ranges holds all numbers from one to another. -/
private def holdsAll (ranges : List (Nat × Nat)) (first last : Nat) : Bool :=
  ranges.any fun range => range.1.ble first && last.ble range.2

/-- Whether none of the ranges holds a number from one to another. -/
private def holdsNone (ranges : List (Nat × Nat)) (first last : Nat) : Bool :=
  ranges.all fun range => range.2.blt first || last.blt range.1

private theorem inRanges_of_holdsAll {ranges : List (Nat × Nat)} {first last code : Nat}
    (holds : holdsAll ranges first last = true) (lower : first ≤ code) (upper : code ≤ last) :
    inRanges ranges code = true := by
  obtain ⟨range, member, covers⟩ := List.any_eq_true.mp holds
  simp only [Bool.and_eq_true, Nat.ble_eq] at covers
  exact List.any_eq_true.mpr ⟨range, member, by simp only [Bool.and_eq_true, decide_eq_true_eq]; omega⟩

private theorem not_inRanges_of_holdsNone {ranges : List (Nat × Nat)} {first last code : Nat}
    (holds : holdsNone ranges first last = true) (lower : first ≤ code) (upper : code ≤ last) :
    inRanges ranges code = false := by
  rw [inRanges, List.any_eq_false]
  intro range member inside
  have apart := List.all_eq_true.mp holds range member
  simp only [Bool.or_eq_true, Nat.blt_eq, Bool.and_eq_true, decide_eq_true_eq] at apart inside
  omega

/-- Whether every range lies in one of the wider ones; both are looked through in order, in at most so many steps. -/
private def lieIn : Nat → List (Nat × Nat) → List (Nat × Nat) → Bool
  | 0, _, _ => false
  | _ + 1, [], _ => true
  | _ + 1, _ :: _, [] => false
  | steps + 1, range :: ranges, wider :: others =>
    if wider.2.blt range.2 then lieIn steps (range :: ranges) others
    else wider.1.ble range.1 && lieIn steps ranges (wider :: others)

private theorem exists_wider {steps : Nat} {ranges widers : List (Nat × Nat)} (lie : lieIn steps ranges widers = true) :
    ∀ range ∈ ranges, ∃ wider ∈ widers, wider.1 ≤ range.1 ∧ range.2 ≤ wider.2 := by
  induction steps generalizing ranges widers with
  | zero => cases lie
  | succ steps ih =>
    cases ranges with
    | nil => exact nofun
    | cons first ranges =>
      cases widers with
      | nil => cases lie
      | cons wider others =>
        rw [lieIn] at lie
        split at lie
        · intro range member
          obtain ⟨found, isOther, covers⟩ := ih lie range member
          exact ⟨found, List.mem_cons_of_mem _ isOther, covers⟩
        · rename_i reaches
          simp only [Nat.blt_eq, Nat.not_lt] at reaches
          simp only [Bool.and_eq_true, Nat.ble_eq] at lie
          intro range member
          rcases List.mem_cons.mp member with rfl | later
          · exact ⟨wider, List.mem_cons_self, lie.1, reaches⟩
          · exact ih lie.2 range later

private theorem starts_in_continues : lieIn 2000 identifierStartRanges identifierContinueRanges = true := by
  decide +kernel

/-- What can begin an identifier can stand anywhere in it. -/
theorem isIdentifierContinue_of_start {c : Char} (start : isIdentifierStart c = true) :
    isIdentifierContinue c = true := by
  unfold isIdentifierStart at start
  unfold isIdentifierContinue
  split
  · rename_i ascii
    rw [if_pos ascii] at start
    simp only [isWord, Bool.or_eq_true] at start ⊢
    tauto
  · rename_i noAscii
    rw [if_neg noAscii] at start
    obtain ⟨range, member, inside⟩ := List.any_eq_true.mp start
    obtain ⟨wider, isWider, covers⟩ := exists_wider starts_in_continues range member
    simp only [Bool.and_eq_true, decide_eq_true_eq] at inside
    exact List.any_eq_true.mpr ⟨wider, isWider, by simp only [Bool.and_eq_true, decide_eq_true_eq]; omega⟩

private theorem toNat_ofNat_of_lt {code : Nat} (below : code < 0xd800 ∨ 0xdfff < code ∧ code < 0x110000) :
    (Char.ofNat code).toNat = code := by
  have valid : code.isValidChar := below
  rw [Char.ofNat, dif_pos valid]
  rfl

private theorem starts_are_characters : ∀ range ∈ identifierStartRanges,
    0x80 ≤ range.1 ∧ (range.2 < 0xd800 ∨ 0xdfff < range.1 ∧ range.2 < 0x110000) := by
  decide +kernel

private theorem isIdentifierStart_ofNat {code : Nat} (inside : inRanges identifierStartRanges code = true) :
    isIdentifierStart (Char.ofNat code) = true := by
  obtain ⟨range, member, within⟩ := List.any_eq_true.mp inside
  have bounds := starts_are_characters range member
  simp only [Bool.and_eq_true, decide_eq_true_eq] at within
  have same : (Char.ofNat code).toNat = code := toNat_ofNat_of_lt (by omega)
  have noAscii : ¬ (isAscii (Char.ofNat code) = true) := by
    rw [isAscii, same, decide_eq_true_eq]
    omega
  rw [isIdentifierStart, if_neg noAscii, same]
  exact inside

/-! ### Upper case -/

/-- Whether the character with a number can begin an identifier. -/
private def startsAt (code : Nat) : Bool :=
  if code < 0x80 then isIdentifierStart (Char.ofNat code) else holdsAll identifierStartRanges code code

/-- Whether the character with a number can stand in an identifier. -/
private def continuesAt (code : Nat) : Bool :=
  if code < 0x80 then isIdentifierContinue (Char.ofNat code)
  else code.blt 0xd800 && holdsAll identifierContinueRanges code code

private theorem isIdentifierStart_of_startsAt {code : Nat} (starts : startsAt code = true) :
    isIdentifierStart (Char.ofNat code) = true := by
  unfold startsAt at starts
  split at starts
  · exact starts
  · exact isIdentifierStart_ofNat (inRanges_of_holdsAll starts (Nat.le_refl _) (Nat.le_refl _))

private theorem isIdentifierContinue_of_continuesAt {code : Nat} (continues : continuesAt code = true) :
    isIdentifierContinue (Char.ofNat code) = true := by
  unfold continuesAt at continues
  split at continues
  · exact continues
  · rename_i noAscii
    simp only [Bool.and_eq_true, Nat.blt_eq] at continues
    have same : (Char.ofNat code).toNat = code := toNat_ofNat_of_lt (.inl continues.1)
    have outside : ¬ (isAscii (Char.ofNat code) = true) := by rwa [isAscii, same, decide_eq_true_eq]
    rw [isIdentifierContinue, if_neg outside, same]
    exact inRanges_of_holdsAll continues.2 (Nat.le_refl _) (Nat.le_refl _)

/-- Whether the upper cases of the letters of a run can begin an identifier, as far as the letters can. Most runs
have theirs in one range. -/
private def keepsStarts : Nat × Nat × Nat × Int → Bool
  | (first, last, step, distance) =>
    holdsAll identifierStartRanges (first + distance).toNat (last + distance).toNat ||
      holdsNone identifierStartRanges first last ||
      (List.range ((last - first) / step + 1)).all fun i => startsAt (first + i * step + distance).toNat

private theorem runs_keep_starts : upperCaseRuns.all keepsStarts = true := by
  decide +kernel

private theorem expansions_identify : (upperCaseExpansions.all fun entry =>
    match entry.2 with
    | [] => false
    | code :: codes => startsAt code && codes.all continuesAt) = true := by
  decide +kernel

private theorem isIdentifierStart_of_run {first last step : Nat} {distance : Int} {c : Char}
    (isRun : (first, last, step, distance) ∈ upperCaseRuns) (lower : first ≤ c.toNat) (upper : c.toNat ≤ last)
    (stepped : (c.toNat - first) % step = 0) (start : inRanges identifierStartRanges c.toNat = true) :
    isIdentifierStart (Char.ofNat (c.toNat + distance).toNat) = true := by
  have keeps := List.all_eq_true.mp runs_keep_starts _ isRun
  simp only [keepsStarts, Bool.or_eq_true] at keeps
  rcases keeps with (together | none) | each
  · exact isIdentifierStart_ofNat (inRanges_of_holdsAll together (by omega) (by omega))
  · rw [not_inRanges_of_holdsNone none lower upper] at start
    cases start
  · have position : c.toNat = first + (c.toNat - first) / step * step := by
      have whole := Nat.div_add_mod (c.toNat - first) step
      rw [Nat.mul_comm]
      omega
    have before : (c.toNat - first) / step < (last - first) / step + 1 :=
      Nat.lt_succ_of_le (Nat.div_le_div_right (by omega))
    have starts := List.all_eq_true.mp each _ (List.mem_range.mpr before)
    rw [← Nat.cast_mul, ← Nat.cast_add, ← position] at starts
    exact isIdentifierStart_of_startsAt starts

/-- The upper case of a small letter of ASCII is a capital one. -/
theorem upper_of_lower {c : Char} (lower : isAsciiLower c = true) : ∃ d, upper c = [d] ∧ isAsciiUpper d = true := by
  have range := (isAsciiLower_iff c).mp lower
  have ascii : isAscii c = true := isAscii_of_isWord (by rw [isWord, lower]; simp)
  have code : (Char.ofNat (c.toNat - 0x20)).toNat = c.toNat - 0x20 := toNat_ofNat_of_lt (by omega)
  refine ⟨_, by rw [upper, if_pos ascii, if_pos lower], ?_⟩
  rw [isAsciiUpper_iff, code]
  omega

/-- The upper case of what can begin an identifier is an identifier. -/
theorem upper_of_start {c : Char} (start : isIdentifierStart c = true) :
    ∃ first rest, upper c = first :: rest ∧ isIdentifierStart first = true ∧
      ∀ d ∈ rest, isIdentifierContinue d = true := by
  unfold upper
  split
  · rename_i ascii
    by_cases lower : isAsciiLower c = true
    · obtain ⟨d, equal, capital⟩ := upper_of_lower lower
      rw [upper, if_pos ascii] at equal
      refine ⟨d, [], equal, ?_, nofun⟩
      rw [isIdentifierStart, if_pos (isAscii_of_isWord (by rw [isWord, capital]; simp)), capital]
      simp
    · exact ⟨c, [], by rw [if_neg lower], start, nofun⟩
  · rename_i noAscii
    have listed : inRanges identifierStartRanges c.toNat = true := by
      rwa [isIdentifierStart, if_neg noAscii] at start
    split
    · rename_i code codes found
      have identifies := List.all_eq_true.mp expansions_identify _ (List.mem_of_find?_eq_some found)
      cases codes with
      | nil => cases identifies
      | cons first rest =>
        simp only [Bool.and_eq_true] at identifies
        refine ⟨Char.ofNat first, rest.map Char.ofNat, rfl, isIdentifierStart_of_startsAt identifies.1, ?_⟩
        intro d member
        obtain ⟨later, isLater, rfl⟩ := List.mem_map.mp member
        exact isIdentifierContinue_of_continuesAt (List.all_eq_true.mp identifies.2 later isLater)
    · split
      · rename_i first last step distance found
        have within := List.find?_some found
        simp only [Bool.and_eq_true, decide_eq_true_eq] at within
        exact ⟨_, [], rfl,
          isIdentifierStart_of_run (List.mem_of_find?_eq_some found) within.1.1 within.1.2 within.2 listed, nofun⟩
      · exact ⟨c, [], rfl, start, nofun⟩

/-- Whether a text goes on after its first character, and not with a small letter. -/
private def goesOnLarge : List Nat → Bool
  | _ :: second :: _ => second.blt 97 || Nat.blt 122 second
  | _ => false

private theorem expansions_go_on : ∀ entry ∈ upperCaseExpansions,
    ∃ first second rest, entry.2 = first :: second :: rest ∧ (second < 97 ∨ 122 < second) := by
  have checked : (upperCaseExpansions.all fun entry => goesOnLarge entry.2) = true := by decide +kernel
  intro entry member
  have large : goesOnLarge entry.2 = true := List.all_eq_true.mp checked entry member
  unfold goesOnLarge at large
  split at large
  · rename_i first second rest equal
    exact ⟨first, second, rest, equal, by simpa using large⟩
  · cases large

private theorem runs_spell : ∀ run ∈ upperCaseRuns, ∀ code ∈ ([70, 78, 84] : List Nat),
    ((code : Nat) : Int) < run.1 + run.2.2.2 ∨ (run.2.1 : Int) + run.2.2.2 < code := by
  decide +kernel

/-- A word that begins with `F`, `N` or `T` and a small letter behind it is the upper case of itself and of the word in
small letters only. Other letters are not excluded: `ſ` has the upper case `S`, and `ﬀ` has `FF`. -/
theorem upper_spells {c first second : Char} {rest more : List Char} (capital : first ∈ ['F', 'N', 'T'])
    (small : isAsciiLower second = true) (spelled : upper c ++ rest = first :: second :: more) :
    (c = first ∨ c.toNat = first.toNat + 0x20) ∧ rest = second :: more := by
  have code : first.toNat ∈ [70, 78, 84] := List.mem_map_of_mem (f := Char.toNat) capital
  unfold upper at spelled
  split at spelled
  · obtain ⟨head, tail⟩ := List.cons.inj spelled
    refine ⟨?_, tail⟩
    split at head
    · rename_i lower
      have range := (isAsciiLower_iff c).mp lower
      have same : (Char.ofNat (c.toNat - 0x20)).toNat = c.toNat - 0x20 := toNat_ofNat_of_lt (by omega)
      rw [head] at same
      exact .inr (by omega)
    · exact .inl head
  · split at spelled
    · rename_i codes found
      obtain ⟨one, two, others, equal, noLower⟩ := expansions_go_on _ (List.mem_of_find?_eq_some found)
      rw [show codes = one :: two :: others from equal] at spelled
      obtain ⟨-, tail⟩ := List.cons.inj spelled
      obtain ⟨head, -⟩ := List.cons.inj tail
      have range := (isAsciiLower_iff second).mp small
      rw [← head] at range
      rcases toNat_ofNat two with same | same <;> omega
    · split at spelled
      · rename_i begin last step distance found
        obtain ⟨head, -⟩ := List.cons.inj spelled
        have within := List.find?_some found
        simp only [Bool.and_eq_true, decide_eq_true_eq] at within
        have apart := runs_spell _ (List.mem_of_find?_eq_some found) _ code
        simp only at apart
        have positive : 0 < first.toNat := by
          simp only [List.mem_cons, List.not_mem_nil, or_false] at code
          omega
        rcases toNat_ofNat (c.toNat + distance).toNat with same | same <;> rw [head] at same <;> omega
      · obtain ⟨head, tail⟩ := List.cons.inj spelled
        exact ⟨.inl head, tail⟩

end ClientGen.Text
