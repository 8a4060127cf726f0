import ClientGen.Proofs.Literal.Reader
import ClientGen.Proofs.Number.Digits
import ClientGen.Proofs.Number.Shortest
import ClientGen.Value.Printer

/-!
Numbers read back. A numeral is made of whole digits, the digits behind a point and an exponent, and the reader takes
it apart where it was put together (`numeral_spelled`). Every layout of a decimal is a numeral of the decimal
(`numeral_layoutDecimal`), so a number is read from its text as it was, for the shortest decimal of a number is read as
the number.
-/

namespace ClientGen.Literal

open Binary64 (ofDecimal)

/-- What closes brackets. -/
def closers : List Char := [']', ')', '\x7d']

/-- Nothing stands behind, or what separates or closes: neither goes on a number or a word. -/
def Closed (behind : List Char) : Prop := ∀ c ∈ behind.head?, c ∈ ',' :: ':' :: closers

variable {whole fraction power behind : List Char}

/-- A run of digits. -/
def IsDigits (cs : List Char) : Prop := ∀ c ∈ cs, Text.isAsciiDigit c = true

/-- The whole digits of a numeral: a zero stands alone. -/
structure IsWhole (cs : List Char) : Prop where
  digits : IsDigits cs
  some : cs ≠ []
  zero : cs.head? = .some '0' → cs = ['0']

/-- The digits behind the point, with the point in front of them unless there are none. -/
def pointed (fraction : List Char) : List Char := if fraction = [] then [] else '.' :: fraction

private theorem takeWhile_digits (digits : IsDigits whole) (stops : ∀ c ∈ behind.head?, Text.isAsciiDigit c = false) :
    (whole ++ behind).takeWhile Text.isAsciiDigit = whole ∧ (whole ++ behind).dropWhile Text.isAsciiDigit = behind := by
  rw [List.takeWhile_append_of_pos digits, List.dropWhile_append_of_pos digits]
  cases behind with
  | nil => simp
  | cons c rest =>
    have stop := stops c rfl
    simp [stop]

private theorem wholePart_append (isWhole : IsWhole whole) (stops : ∀ c ∈ behind.head?, Text.isAsciiDigit c = false) :
    Json.wholePart (whole ++ behind) = whole := by
  by_cases zero : whole.head? = some '0'
  · rw [isWhole.zero zero]
    rfl
  · unfold Json.wholePart
    split
    case h_1 begins =>
      have begun : (whole ++ behind).head? = whole.head? := List.head?_append_of_ne_nil _ isWhole.some
      rw [begins] at begun
      exact absurd begun.symm zero
    case h_2 => exact (takeWhile_digits isWhole.digits stops).1

private theorem fractionPart_append (digits : IsDigits fraction)
    (stops : ∀ c ∈ behind.head?, Text.isAsciiDigit c = false ∧ c ≠ '.') :
    Json.fractionPart (pointed fraction ++ behind) = (fraction, behind) := by
  by_cases none : fraction = []
  · subst none
    rw [pointed, if_pos rfl, List.nil_append]
    unfold Json.fractionPart
    split
    case h_1 => exact absurd rfl (stops '.' rfl).2
    case h_2 => rfl
  · obtain ⟨taken, left⟩ := takeWhile_digits digits fun c first => (stops c first).1
    rw [pointed, if_neg none, List.cons_append, Json.fractionPart, taken, left]
    simp [none]

private theorem minusPart_append (isWhole : IsWhole whole) : Json.minusPart (whole ++ behind) = (false, whole ++ behind) := by
  obtain ⟨c, rest, rfl⟩ := List.exists_cons_of_ne_nil isWhole.some
  have digit := isWhole.digits c List.mem_cons_self
  rw [List.cons_append]
  unfold Json.minusPart
  split
  case h_1 begins =>
    rw [(List.cons.inj begins).1] at digit
    exact absurd digit (by decide)
  case h_2 => rfl

private theorem digitsNumber_eq (cs : List Char) : Json.digitsNumber cs = Nat.ofDigitChars 10 cs 0 := rfl

/-- A numeral is taken apart where it was put together. -/
theorem numeral_spelled (isWhole : IsWhole whole) (digits : IsDigits fraction)
    (stops : ∀ c ∈ behind.head?, Text.isAsciiDigit c = false ∧ c ≠ '.') :
    numeral (whole ++ (pointed fraction ++ behind)) =
      match Json.exponentPart behind with
      | some (exponent, _, behind) =>
        some (.float (ofDecimal false (Nat.ofDigitChars 10 (whole ++ fraction) 0) (exponent - fraction.length)), behind)
      | none =>
        if fraction ≠ [] then
          some (.float (ofDecimal false (Nat.ofDigitChars 10 (whole ++ fraction) 0) (-(fraction.length : Int))), behind)
        else if Number.digitLimit < whole.length then none
        else some (.int (Nat.ofDigitChars 10 whole 0 : Nat), behind) := by
  have pointStops : ∀ c ∈ (pointed fraction ++ behind).head?, Text.isAsciiDigit c = false := by
    by_cases none : fraction = []
    · rw [pointed, if_pos none, List.nil_append]
      exact fun c first => (stops c first).1
    · rw [pointed, if_neg none]
      rintro _ ⟨⟩
      decide
  have begins : (whole ++ (pointed fraction ++ behind)).head?.any Text.isAsciiDigit = true := by
    obtain ⟨c, rest, rfl⟩ := List.exists_cons_of_ne_nil isWhole.some
    exact isWhole.digits c List.mem_cons_self
  have some : whole.isEmpty = false := by simpa using isWhole.some
  rw [numeral, if_pos begins, Json.number, minusPart_append isWhole]
  simp only [wholePart_append isWhole pointStops, some, List.drop_left, fractionPart_append digits stops]
  cases Json.exponentPart behind with
  | some found => rfl
  | none =>
    by_cases none : fraction = []
    · by_cases long : Number.digitLimit < whole.length
      · simp [none, long]
      · simp [none, long, digitsNumber_eq]
    · simp [none, digitsNumber_eq, Json.number.scaled]

/-- What closes a number is neither a digit nor a point. -/
private theorem Closed.stops (closed : Closed behind) : ∀ c ∈ behind.head?, Text.isAsciiDigit c = false ∧ c ≠ '.' := by
  have delimiters : ∀ c ∈ ',' :: ':' :: closers, Text.isAsciiDigit c = false ∧ c ≠ '.' :=
    List.forall_iff_forall_mem.mp (by decide)
  exact fun c first => delimiters c (closed c first)

private theorem exponentPart_closed (closed : Closed behind) : Json.exponentPart behind = none := by
  unfold Json.exponentPart
  split
  case h_1 c rest =>
    have delimiter := closed c rfl
    have noLetter : ¬ (c = 'e' ∨ c = 'E') := by
      rintro (rfl | rfl) <;> exact absurd delimiter (by decide)
    rw [if_neg noLetter]
  case h_2 => rfl

/-- The sign of an exponent. -/
def signChar (negative : Bool) : Char := if negative then '-' else '+'

private theorem exponentPart_power (digits : IsDigits power) (some : power ≠ []) (closed : Closed behind) (negative : Bool) :
    ∃ count, Json.exponentPart ('e' :: signChar negative :: (power ++ behind)) =
      .some (if negative then -(Nat.ofDigitChars 10 power 0 : Int) else Nat.ofDigitChars 10 power 0, count, behind) := by
  obtain ⟨taken, left⟩ := takeWhile_digits digits fun c first => (closed.stops c first).1
  have signed : Json.signPart (signChar negative :: (power ++ behind)) = (negative, 1, power ++ behind) := by
    cases negative <;> rfl
  refine ⟨1 + power.length + 1, ?_⟩
  rw [Json.exponentPart, if_pos (.inl rfl), Json.signedDigits, signed]
  simp [taken, left, some, digitsNumber_eq]

/-! ### Three forms of numerals -/

theorem numeral_whole (isWhole : IsWhole whole) (short : whole.length ≤ Number.digitLimit) (closed : Closed behind) :
    numeral (whole ++ behind) = some (.int (Nat.ofDigitChars 10 whole 0 : Nat), behind) := by
  have spelled := @numeral_spelled whole [] behind isWhole nofun closed.stops
  rw [exponentPart_closed closed] at spelled
  simpa [pointed, Nat.not_lt.mpr short] using spelled

theorem numeral_point (isWhole : IsWhole whole) (digits : IsDigits fraction) (some : fraction ≠ []) (closed : Closed behind) :
    numeral (whole ++ '.' :: fraction ++ behind) =
      .some (.float (ofDecimal false (Nat.ofDigitChars 10 (whole ++ fraction) 0) (-(fraction.length : Int))), behind) := by
  have spelled := numeral_spelled isWhole digits closed.stops
  rw [exponentPart_closed closed] at spelled
  simpa [pointed, some] using spelled

theorem numeral_power (isWhole : IsWhole whole) (digits : IsDigits fraction) (powerDigits : IsDigits power)
    (some : power ≠ []) (closed : Closed behind) (negative : Bool) :
    numeral (whole ++ pointed fraction ++ 'e' :: signChar negative :: power ++ behind) =
      .some (.float (ofDecimal false (Nat.ofDigitChars 10 (whole ++ fraction) 0)
        ((if negative then -(Nat.ofDigitChars 10 power 0 : Int) else Nat.ofDigitChars 10 power 0) - fraction.length)), behind) := by
  have stops : ∀ c ∈ ('e' :: signChar negative :: (power ++ behind)).head?, Text.isAsciiDigit c = false ∧ c ≠ '.' := by
    rintro _ ⟨⟩
    decide
  have spelled := numeral_spelled isWhole digits stops
  obtain ⟨count, exponent⟩ := exponentPart_power powerDigits some closed negative
  rw [exponent] at spelled
  simpa using spelled

/-! ### Layouts -/

variable {n : Nat}

private theorem isDigits_append {cs ds : List Char} (front : IsDigits cs) (back : IsDigits ds) : IsDigits (cs ++ ds) :=
  fun c member => (List.mem_append.mp member).elim (front c) (back c)

private theorem isDigits_zeros (k : Nat) : IsDigits (List.replicate k '0') := by
  intro c member
  rw [List.eq_of_mem_replicate member]
  decide

private theorem toList_toString (n : Nat) : (toString n).toList = Nat.toDigits 10 n := Nat.toList_repr

private theorem ofDigitChars_toString (n : Nat) : Nat.ofDigitChars 10 (toString n).toList 0 = n := by
  rw [toList_toString, Nat.ofDigitChars_ten_toDigits]

private theorem isWhole_of_head? {cs : List Char} (digits : IsDigits cs) (some : cs ≠ []) (noZero : cs.head? ≠ .some '0') :
    IsWhole cs :=
  ⟨digits, some, fun begins => absurd begins noZero⟩

private theorem toString_ne_nil (n : Nat) : (toString n).toList ≠ [] := by
  rw [toList_toString]
  exact Nat.toDigits_ne_nil

private theorem head?_toString (positive : 0 < n) : (toString n).toList.head? ≠ some '0' := by
  rw [toList_toString]
  exact Number.head?_toDigits positive

private theorem isWhole_take (positive : 0 < n) {width : Nat} (some : 0 < width) : IsWhole ((toString n).toList.take width) := by
  have begins : ((toString n).toList.take width).head? = (toString n).toList.head? := by
    rw [List.head?_take, if_neg (Nat.ne_of_gt some)]
  refine isWhole_of_head? (fun c member => Number.isAsciiDigit_toString c (List.mem_of_mem_take member)) ?_ ?_
  · rw [ne_eq, ← List.head?_eq_none_iff, begins, List.head?_eq_none_iff]
    exact toString_ne_nil n
  · rw [begins]
    exact head?_toString positive

/-- Zeros up to the point, and one behind it. -/
private theorem numeral_filled (positive : 0 < n) (k : Nat) (closed : Closed behind) :
    numeral ((toString n).toList ++ List.replicate k '0' ++ '.' :: ['0'] ++ behind) =
      some (.float (ofDecimal false n k), behind) := by
  have isZero : IsDigits ['0'] := isDigits_zeros 1
  have isWhole : IsWhole ((toString n).toList ++ List.replicate k '0') := by
    refine isWhole_of_head? (isDigits_append Number.isAsciiDigit_toString (isDigits_zeros k)) ?_ ?_
    · exact List.append_ne_nil_of_left_ne_nil (toString_ne_nil n) _
    · rw [List.head?_append_of_ne_nil _ (toString_ne_nil n)]
      exact head?_toString positive
  have value : Nat.ofDigitChars 10 ((toString n).toList ++ List.replicate k '0' ++ ['0']) 0 = n * 10 ^ (k + 1) := by
    rw [Nat.ofDigitChars_append, Nat.ofDigitChars_append, ofDigitChars_toString, Nat.ofDigitChars_replicate_zero]
    change 10 * (10 ^ k * n) + 0 = _
    ring
  have exponent : -(([('0' : Char)].length : Nat) : Int) + ((k + 1 : Nat) : Int) = k := by
    rw [List.length_singleton]
    omega
  rw [numeral_point isWhole isZero (List.cons_ne_nil _ _) closed, value, Binary64.ofDecimal_mul_pow, exponent]

/-- The point among the digits. -/
private theorem numeral_parted (positive : 0 < n) {width : Nat} (some : 0 < width)
    (within : width < (toString n).toList.length) (closed : Closed behind) :
    numeral ((toString n).toList.take width ++ '.' :: (toString n).toList.drop width ++ behind) =
      .some (.float (ofDecimal false n (width - ((toString n).toList.length : Int))), behind) := by
  have digits := @Number.isAsciiDigit_toString n
  have isWhole := isWhole_take positive some
  have rest : (toString n).toList.drop width ≠ [] := by
    rw [ne_eq, List.drop_eq_nil_iff]
    omega
  have exponent : -(((toString n).toList.drop width).length : Int) = width - ((toString n).toList.length : Int) := by
    rw [List.length_drop]
    omega
  rw [numeral_point isWhole (fun c member => digits c (List.mem_of_mem_drop member)) rest closed, List.take_append_drop,
    ofDigitChars_toString, exponent]

/-- Zeros behind the point. -/
private theorem numeral_padded (n k : Nat) (closed : Closed behind) :
    numeral (['0'] ++ '.' :: (List.replicate k '0' ++ (toString n).toList) ++ behind) =
      some (.float (ofDecimal false n (-(k + (toString n).toList.length : Int))), behind) := by
  have isWhole : IsWhole ['0'] := ⟨isDigits_zeros 1, List.cons_ne_nil _ _, fun _ => rfl⟩
  have digits := isDigits_append (isDigits_zeros k) (@Number.isAsciiDigit_toString n)
  have value : Nat.ofDigitChars 10 (['0'] ++ (List.replicate k '0' ++ (toString n).toList)) 0 = n := by
    rw [← List.append_assoc, Nat.ofDigitChars_append, Nat.ofDigitChars_append, Nat.ofDigitChars_replicate_zero]
    exact ofDigitChars_toString n
  rw [numeral_point isWhole digits (List.append_ne_nil_of_right_ne_nil _ (toString_ne_nil n)) closed, value,
    List.length_append, List.length_replicate]
  push_cast
  rfl

/-- An exponent behind the digits. -/
private theorem numeral_scientific (positive : 0 < n) (negative : Bool) (k p : Nat) (closed : Closed behind) :
    numeral ((toString n).toList.take 1 ++ pointed ((toString n).toList.drop 1) ++
        'e' :: signChar negative :: (List.replicate k '0' ++ (toString p).toList) ++ behind) =
      some (.float (ofDecimal false n ((if negative then -(p : Int) else p) - ((toString n).toList.length - 1 : Nat))), behind) := by
  have digits := @Number.isAsciiDigit_toString n
  have powerDigits := isDigits_append (isDigits_zeros k) (@Number.isAsciiDigit_toString p)
  have value : Nat.ofDigitChars 10 (List.replicate k '0' ++ (toString p).toList) 0 = p := by
    rw [Nat.ofDigitChars_append, Nat.ofDigitChars_replicate_zero]
    exact ofDigitChars_toString p
  rw [numeral_power (isWhole_take positive one_pos) (fun c member => digits c (List.mem_of_mem_drop member)) powerDigits
      (List.append_ne_nil_of_right_ne_nil _ (toString_ne_nil p)) closed,
    List.take_append_drop, ofDigitChars_toString, value, List.length_drop]

private theorem toList_fraction (tail : List Char) :
    (if tail.isEmpty then "" else "." ++ String.ofList tail).toList = pointed tail := by
  cases tail with
  | nil => rfl
  | cons c rest => simp [pointed]

private theorem toList_sign (top : Int) : (if top < 0 then "-" else "+").toList = [signChar (top < 0)] := by
  by_cases below : top < 0
  · rw [if_pos below, decide_eq_true below]; rfl
  · rw [if_neg below, decide_eq_false below]; rfl

/-- Every layout of a decimal is a numeral of the decimal. -/
theorem numeral_layoutDecimal (layout : Binary64.TextLayout) {d : Decimal} (positive : 0 < d.digits) (closed : Closed behind) :
    numeral ((Binary64.layoutDecimal layout d).toList ++ behind) =
      some (.float (ofDecimal false d.digits d.exponent), behind) := by
  obtain ⟨n, f⟩ := d
  change 0 < n at positive
  have length : (toString n).length = (toString n).toList.length := String.length_toList.symm
  have some : 0 < (toString n).toList.length := List.length_pos_iff.mpr (toString_ne_nil n)
  rw [Binary64.layoutDecimal]
  simp only [if_neg (Nat.ne_of_gt positive), length]
  by_cases positional : layout.positionalFrom ≤ ((toString n).toList.length : Int) - 1 + f ∧
      ((toString n).toList.length : Int) - 1 + f < layout.positionalBelow
  · rw [if_pos positional]
    by_cases isWhole : 0 ≤ f
    · obtain ⟨k, rfl⟩ := Int.eq_ofNat_of_zero_le isWhole
      rw [if_pos isWhole, Int.toNat_natCast]
      change numeral ((toString n ++ String.ofList (List.replicate k '0') ++ ".0").toList ++ behind) = _
      rw [String.toList_append, String.toList_append, String.toList_ofList]
      exact numeral_filled positive k closed
    · rw [if_neg isWhole]
      by_cases among : 0 ≤ ((toString n).toList.length : Int) - 1 + f
      · obtain ⟨width, width_eq⟩ := Int.eq_ofNat_of_zero_le among
        have exponent : ((width + 1 : Nat) : Int) - ((toString n).toList.length : Int) = f := by omega
        have parted := numeral_parted positive (Nat.succ_pos width) (by omega) closed
        rw [exponent] at parted
        have next : ((width : Int) + 1).toNat = width + 1 := by omega
        rw [if_pos among, width_eq, next]
        simpa using parted
      · obtain ⟨k, k_eq⟩ := Int.eq_ofNat_of_zero_le (show 0 ≤ -(((toString n).toList.length : Int) - 1 + f) - 1 by omega)
        have exponent : -((k : Int) + (toString n).toList.length) = f := by omega
        have padded := numeral_padded n k closed
        rw [exponent] at padded
        rw [if_neg among, k_eq, Int.toNat_natCast]
        change numeral (("0." ++ String.ofList (List.replicate k '0') ++ toString n).toList ++ behind) = _
        simpa using padded
  · rw [if_neg positional]
    generalize top_eq : ((toString n).toList.length : Int) - 1 + f = top
    generalize layout.exponentWidth - (toString top.natAbs).length = k
    have exponent : (if decide (top < 0) then -(top.natAbs : Int) else top.natAbs) - ((toString n).toList.length - 1 : Nat) = f := by
      by_cases below : top < 0 <;> simp only [below, decide_true, decide_false, if_true, Bool.false_eq_true, if_false] <;> omega
    have scientific := numeral_scientific positive (decide (top < 0)) k top.natAbs closed
    rw [exponent] at scientific
    change numeral ((_ ++ _ ++ _ ++ _ ++ String.ofList (List.replicate k '0') ++ _).toList ++ behind) = _
    simp only [String.toList_append, String.toList_ofList, toList_fraction, toList_sign]
    simpa using scientific

/-! ### Numbers -/

/-- The text of a number without sign is read as the number. -/
theorem numeral_toText {m : Nat} {e : Int} (normal : Binary64.IsNormal m e) (closed : Closed behind) :
    numeral ((Binary64.layoutDecimal Binary64.plainLayout (Binary64.shortest m e)).toList ++ behind) =
      some (.float (.finite false m e), behind) := by
  rcases Nat.eq_zero_or_pos m with rfl | positive
  · have least : e = Binary64.lowest := normal.full.resolve_left (by decide)
    have isZero : IsDigits ['0'] := isDigits_zeros 1
    have isWhole : IsWhole ['0'] := ⟨isZero, List.cons_ne_nil _ _, fun _ => rfl⟩
    rw [least]
    exact numeral_point isWhole isZero (List.cons_ne_nil _ _) closed
  · rw [numeral_layoutDecimal _ (Binary64.shortest_positive normal positive) closed,
      Binary64.shortest_reads normal positive]

/-- The text of a whole number without sign is read as the number. -/
theorem numeral_toString (writable : (Atom.int n).isWritable = true) (closed : Closed behind) :
    numeral ((toString n).toList ++ behind) = some (.int n, behind) := by
  have short : (toString n).toList.length ≤ Number.digitLimit := by
    rw [Atom.isWritable, decide_eq_true_eq, Int.natAbs_natCast, Nat.pow_eq,
      ← Nat.length_toDigits_le_iff (by decide) (by decide)] at writable
    rwa [toList_toString]
  have isWhole : IsWhole (toString n).toList := by
    rcases Nat.eq_zero_or_pos n with rfl | positive
    · exact ⟨Number.isAsciiDigit_toString, toString_ne_nil 0, fun _ => rfl⟩
    · exact isWhole_of_head? Number.isAsciiDigit_toString (toString_ne_nil n) (head?_toString positive)
  rw [numeral_whole isWhole short closed, ofDigitChars_toString]

end ClientGen.Literal
