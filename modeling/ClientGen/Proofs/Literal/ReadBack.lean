import ClientGen.Proofs.Literal.Numerals
import ClientGen.Proofs.Literal.Plain
import ClientGen.Proofs.Literal.Texts

/-!
Plain values read back. What is written for a plain value is read as the expression of the value, whatever closes it
(`reads`): for atoms this is what is known about words, numbers and texts, and for brackets it holds if it holds of all
that stands in them. So the text of a value is read as one expression (`read_written`).
-/

namespace ClientGen.Literal

open ClientGen.Expr (ofAtom literal literals literalEntries)

variable {behind : List Char} {fuel depth : Nat}

/-- Characters that begin something else than a constant: a sign or an opening bracket, or that end what stands in
brackets. -/
def marks : List Char := ['-', '[', '(', '\x7b', ' ', '\t', '\n', '\r'] ++ closers

/-- Neither a blank nor a closing bracket stands at the beginning. -/
def Begins (cs : List Char) : Prop := ∃ c rest, cs = c :: rest ∧ Json.isSpace c = false ∧ c ∉ closers

/-- What is written is read as an expression, whatever closes it; so many brackets of it stand in each other. -/
structure Reads (written : List Char) (nesting : Nat) (e : Expr) : Prop where
  begins : Begins written
  expression : ∀ {fuel depth behind}, written.length ≤ fuel → nesting ≤ depth → Closed behind →
    expression fuel depth (written ++ behind) = some (e, behind)

/-! ### Atoms -/

theorem expression_constant {c : Char} {rest : List Char} (noMark : c ∉ marks) :
    expression (fuel + 1) depth (c :: rest) = constant (c :: rest) := by
  have differs {d : Char} (isMark : d ∈ marks) {other : List Char} (same : c :: rest = d :: other) : False :=
    noMark ((List.cons.inj same).1 ▸ isMark)
  rw [expression]
  · exact fun _ => differs (by decide)
  · exact fun _ _ same _ => differs (by decide) same
  · exact fun _ _ same _ => differs (by decide) same
  · exact fun _ _ same _ => differs (by decide) same

private theorem begins_of_not_mem_marks {c : Char} (noMark : c ∉ marks) (rest : List Char) : Begins (c :: rest) := by
  refine ⟨c, rest, rfl, ?_, fun closes => noMark (List.mem_append_right _ closes)⟩
  rw [← Bool.not_eq_true]
  intro blank
  simp only [Json.isSpace, Bool.or_eq_true, decide_eq_true_eq] at blank
  obtain ((rfl | rfl) | rfl) | rfl := blank <;> exact noMark (by decide)

theorem reads_constant {c : Char} {rest : List Char} {e : Expr} (noMark : c ∉ marks)
    (read : ∀ {behind}, Closed behind → constant (c :: rest ++ behind) = some (e, behind)) : Reads (c :: rest) 0 e where
  begins := begins_of_not_mem_marks noMark rest
  expression enough _ closed := by
    obtain ⟨fuel, rfl⟩ := Nat.exists_eq_succ_of_ne_zero (Nat.ne_of_gt (Nat.zero_lt_of_lt enough))
    rw [List.cons_append, expression_constant noMark]
    exact read closed

private theorem reads_numeral {written : List Char} {v : Value}
    (read : ∀ {behind}, Closed behind → numeral (written ++ behind) = some (v, behind)) : Reads written 0 (.constant v) := by
  have whole := @read [] nofun
  rw [List.append_nil, numeral] at whole
  split at whole
  case isTrue digit =>
    cases written with
    | nil => cases digit
    | cons c rest =>
      have isDigit : Text.isAsciiDigit c = true := digit
      have noDigit : ∀ d ∈ '\'' :: '"' :: marks, Text.isAsciiDigit d = false := List.forall_iff_forall_mem.mp (by decide)
      refine reads_constant (fun isMark => ?_) fun closed => ?_
      · exact absurd isDigit (by rw [noDigit c (by simp [isMark])]; exact Bool.false_ne_true)
      · have noQuote : ¬ (c = '\'' ∨ c = '"') := by
          rintro (rfl | rfl) <;> exact absurd isDigit (by decide)
        have found := read closed
        rw [List.cons_append] at found ⊢
        rw [constant, if_neg noQuote, found]
  case isFalse => cases whole

private theorem reads_word {c : Char} {rest : List Char} {a : Atom} (noMark : c ∉ '\'' :: '"' :: marks)
    (noDigit : Text.isAsciiDigit c = false) (letters : ∀ d ∈ c :: rest, Text.isIdentifierContinue d = true)
    (isWord : words.lookup (String.ofList (c :: rest)) = some a) : Reads (c :: rest) 0 (.constant (.atom a)) := by
  refine reads_constant (fun isMark => noMark (by simp [isMark])) fun {behind} closed => ?_
  have stops : behind.takeWhile Text.isIdentifierContinue = [] ∧ behind.dropWhile Text.isIdentifierContinue = behind := by
    cases behind with
    | nil => exact ⟨rfl, rfl⟩
    | cons d behind =>
      have delimiters : ∀ d ∈ ',' :: ':' :: closers, Text.isIdentifierContinue d = false :=
        List.forall_iff_forall_mem.mp (by decide)
      have stop := delimiters d (closed d rfl)
      simp [stop]
  have noQuote : ¬ (c = '\'' ∨ c = '"') := by
    rintro (rfl | rfl) <;> exact noMark (by decide)
  have noNumeral : numeral (c :: rest ++ behind) = none := by
    rw [List.cons_append, numeral, List.head?_cons, Option.any_some, noDigit]
    rfl
  have found : word (c :: rest ++ behind) = some (a, behind) := by
    rw [word, List.takeWhile_append_of_pos letters, List.dropWhile_append_of_pos letters, stops.1, stops.2,
      List.append_nil, isWord]
    rfl
  rw [List.cons_append] at noNumeral found ⊢
  rw [constant, if_neg noQuote, noNumeral, found]
  rfl

private theorem reads_text (s : String) : Reads (Text.quoted s).toList 0 (.text s) := by
  have isQuote := chooseQuote_cases s.toList
  have begins : (Text.quoted s).toList = Text.chooseQuote s.toList ::
      (s.toList.flatMap (Text.quoteChar (Text.chooseQuote s.toList)) ++ [Text.chooseQuote s.toList]) := by
    rw [Text.quoted, String.toList_ofList]
    rfl
  have noMark : Text.chooseQuote s.toList ∉ marks := by
    rcases isQuote with same | same <;> rw [same] <;> decide
  have read := constant_quoted s
  rw [begins] at read ⊢
  exact reads_constant noMark fun _ => read _

/-- A sign in front of what is read. -/
private theorem Reads.negative {written : List Char} {nesting : Nat} {e : Expr} (operand : Reads written nesting e) :
    Reads ('-' :: written) nesting (.negative e) where
  begins := ⟨'-', written, rfl, by decide, by decide⟩
  expression enough within closed := by
    obtain ⟨fuel, rfl⟩ := Nat.exists_eq_succ_of_ne_zero (Nat.ne_of_gt (Nat.zero_lt_of_lt enough))
    rw [List.cons_append, Literal.expression, operand.expression (Nat.le_of_succ_le_succ enough) within closed]
    rfl

private theorem reads_int {n : Int} (writable : (Atom.int n).isWritable = true) :
    Reads (Atom.int n).written.toList 0 (ofAtom (.int n)) := by
  cases n with
  | ofNat n => exact reads_numeral fun closed => numeral_toString writable closed
  | negSucc n =>
    have unsigned : (Atom.int (n + 1 : Nat)).isWritable = true := writable
    have written : (Atom.int (Int.negSucc n)).written.toList = '-' :: (toString (n + 1)).toList := String.toList_append
    rw [ofAtom, Expr.ofInt, if_pos (Int.negSucc_lt_zero n), written]
    exact (reads_numeral fun closed => numeral_toString unsigned closed).negative

private theorem reads_finite {m : Nat} {e : Int} (normal : Binary64.IsNormal m e) (negative : Bool) :
    Reads (Atom.float (.finite negative m e)).written.toList 0 (ofAtom (.float (.finite negative m e))) := by
  have read := @reads_numeral _ _ fun closed => numeral_toText normal closed
  cases negative with
  | false =>
    have written : (Atom.float (.finite false m e)).written.toList =
        (Binary64.layoutDecimal Binary64.plainLayout (Binary64.shortest m e)).toList := by
      simp [Atom.written, Binary64.toText]
    rw [written]
    exact read
  | true =>
    have written : (Atom.float (.finite true m e)).written.toList =
        '-' :: (Binary64.layoutDecimal Binary64.plainLayout (Binary64.shortest m e)).toList := String.toList_append
    rw [written]
    exact read.negative

/-- What is written for a plain atom is read as its expression. -/
theorem reads_atom {a : Atom} (plain : a.IsPlain) : Reads a.written.toList 0 (ofAtom a) := by
  cases a with
  | null => exact @reads_word 'N' ['o', 'n', 'e'] _ (by decide) (by decide) (List.all_eq_true.mp (by decide)) rfl
  | bool b =>
    cases b with
    | false => exact @reads_word 'F' ['a', 'l', 's', 'e'] _ (by decide) (by decide) (List.all_eq_true.mp (by decide)) rfl
    | true => exact @reads_word 'T' ['r', 'u', 'e'] _ (by decide) (by decide) (List.all_eq_true.mp (by decide)) rfl
  | text s => exact reads_text s
  | int n => exact reads_int plain
  | float x =>
    cases x with
    | finite negative m e => exact reads_finite plain negative
    | infinite | nan => exact plain.elim
  | bytes | date | moment => exact plain.elim

/-! ### Brackets -/

private theorem closed_cons {c : Char} (delimiter : c ∈ ',' :: ':' :: closers) (cs : List Char) : Closed (c :: cs) := by
  rintro _ ⟨⟩
  exact delimiter

private theorem closed_closer {c : Char} (closes : c ∈ closers) (cs : List Char) : Closed (c :: cs) :=
  closed_cons (List.mem_cons_of_mem _ (List.mem_cons_of_mem _ closes)) cs

private theorem skip_cons {c : Char} (noSpace : Json.isSpace c = false) (cs : List Char) : skip (c :: cs) = c :: cs :=
  List.dropWhile_cons_of_neg (by rw [noSpace]; exact Bool.false_ne_true)

private theorem skip_closer {c : Char} (closes : c ∈ closers) (cs : List Char) : skip (c :: cs) = c :: cs := by
  have noSpace : ∀ d ∈ closers, Json.isSpace d = false := List.forall_iff_forall_mem.mp (by decide)
  exact skip_cons (noSpace c closes) cs

private theorem skip_comma (cs : List Char) : skip (',' :: cs) = ',' :: cs := skip_cons rfl cs

private theorem Begins.skip {written : List Char} (begins : Begins written) (more : List Char) :
    skip (written ++ more) = written ++ more := by
  obtain ⟨c, rest, rfl, noSpace, -⟩ := begins
  exact skip_cons noSpace (rest ++ more)

private theorem Begins.head?_ne {written : List Char} {close : Char} (begins : Begins written) (closes : close ∈ closers)
    (more : List Char) : (written ++ more).head? ≠ some close := by
  obtain ⟨c, rest, rfl, -, noCloser⟩ := begins
  rintro ⟨⟩
  exact noCloser closes

variable {written more : List Char} {close : Char} {comma : Bool} {e : Expr}

theorem items_done : items (fuel + 1) depth close comma (close :: behind) = some ([], comma, behind) := by
  rw [items, List.head?_cons, if_pos rfl]
  rfl

theorem items_last (closes : close ∈ closers) (begins : Begins written)
    (read : expression fuel depth (written ++ close :: behind) = some (e, close :: behind)) :
    items (fuel + 1) depth close comma (written ++ close :: behind) = some ([e], false, behind) := by
  rw [items, if_neg (begins.head?_ne closes _), read]
  simp [skip_closer closes]

theorem items_more (closes : close ∈ closers) (begins : Begins written)
    (read : expression fuel depth (written ++ ',' :: more) = some (e, ',' :: more)) :
    items (fuel + 1) depth close comma (written ++ ',' :: more) =
      (items fuel depth close true (skip more)).map fun found => (e :: found.1, found.2) := by
  have noCloser : ',' ≠ close := by
    rintro rfl
    exact absurd closes (by decide)
  rw [items, if_neg (begins.head?_ne closes _), read]
  cases found : items fuel depth close true (skip more) <;> simp [skip_comma, noCloser, found]

private theorem Begins.append {written : List Char} (begins : Begins written) (more : List Char) : Begins (written ++ more) := by
  obtain ⟨c, rest, rfl, noSpace, noCloser⟩ := begins
  exact ⟨c, rest ++ more, rfl, noSpace, noCloser⟩

/-- Texts with commas and blanks between them. -/
def separated (texts : List (List Char)) : List Char := [',', ' '].intercalate texts

private theorem Begins.separated {written : List Char} (begins : Begins written) (texts : List (List Char)) :
    Begins (separated (written :: texts)) := by
  cases texts with
  | nil => rwa [Literal.separated, List.intercalate_singleton]
  | cons text texts =>
    rw [Literal.separated, List.intercalate_cons_cons, List.append_assoc]
    exact begins.append _

/-- Items with commas between them are read up to the closing bracket, if each of them is. -/
theorem items_separated (closes : close ∈ closers) : ∀ {vs : List Value},
    (∀ v ∈ vs, Reads v.written.toList v.nesting (literal v)) → ∀ {fuel comma},
    (separated (vs.map fun v => v.written.toList)).length < fuel → Value.nestingOfItems vs ≤ depth →
    items fuel depth close comma (separated (vs.map fun v => v.written.toList) ++ close :: behind) =
      some (literals vs, comma && vs.isEmpty, behind)
  | [], _, fuel + 1, comma, _, _ => by simp [separated, items_done, literals]
  | [v], read, fuel + 1, comma, enough, within => by
    have first := read v List.mem_cons_self
    simp only [separated, List.map_cons, List.map_nil, List.intercalate_singleton] at enough ⊢
    rw [Value.nestingOfItems, Nat.max_le] at within
    rw [items_last closes first.begins (first.expression (Nat.le_of_lt_succ enough) within.1 (closed_closer closes _))]
    simp [literals]
  | v :: w :: rest, read, fuel + 1, comma, enough, within => by
    have first := read v List.mem_cons_self
    have second := read w (by simp)
    have later := @items_separated closes (w :: rest) fun u member => read u (List.mem_cons_of_mem v member)
    rw [Value.nestingOfItems, Nat.max_le] at within
    have regroup : separated ((v :: w :: rest).map fun v => v.written.toList) =
        v.written.toList ++ ',' :: ' ' :: separated ((w :: rest).map fun v => v.written.toList) := by
      simp [separated]
    have skipped : skip (' ' :: (separated ((w :: rest).map fun v => v.written.toList) ++ close :: behind)) =
        separated ((w :: rest).map fun v => v.written.toList) ++ close :: behind :=
      (second.begins.separated _).skip _
    rw [regroup, List.length_append, List.length_cons, List.length_cons] at enough
    rw [regroup, List.append_assoc, List.cons_append, List.cons_append,
      items_more closes first.begins (first.expression (by omega) within.1 (closed_cons List.mem_cons_self _)), skipped,
      later (by omega) within.2]
    simp [literals]

/-! ### Mappings -/

variable {key value : List Char} {k : Expr}

theorem entries_done : entries (fuel + 1) depth ('\x7d' :: behind) = some ([], behind) := by
  rw [entries, List.head?_cons, if_pos rfl]
  rfl

theorem entries_last (keyBegins : Begins key) (valueBegins : Begins value)
    (readKey : expression fuel depth (key ++ ':' :: ' ' :: (value ++ '\x7d' :: behind)) =
      some (k, ':' :: ' ' :: (value ++ '\x7d' :: behind)))
    (readValue : expression fuel depth (value ++ '\x7d' :: behind) = some (e, '\x7d' :: behind)) :
    entries (fuel + 1) depth (key ++ ':' :: ' ' :: (value ++ '\x7d' :: behind)) = some ([(k, e)], behind) := by
  have colon : skip (':' :: ' ' :: (value ++ '\x7d' :: behind)) = ':' :: ' ' :: (value ++ '\x7d' :: behind) :=
    skip_cons rfl _
  have blank : skip (' ' :: (value ++ '\x7d' :: behind)) = value ++ '\x7d' :: behind := valueBegins.skip _
  have brace : skip ('\x7d' :: behind) = '\x7d' :: behind := skip_cons rfl _
  rw [entries, if_neg (keyBegins.head?_ne (by decide) _), readKey]
  simp [colon, blank, readValue, brace]

theorem entries_more (keyBegins : Begins key) (valueBegins : Begins value)
    (readKey : expression fuel depth (key ++ ':' :: ' ' :: (value ++ ',' :: more)) =
      some (k, ':' :: ' ' :: (value ++ ',' :: more)))
    (readValue : expression fuel depth (value ++ ',' :: more) = some (e, ',' :: more)) :
    entries (fuel + 1) depth (key ++ ':' :: ' ' :: (value ++ ',' :: more)) =
      (entries fuel depth (skip more)).map fun found => ((k, e) :: found.1, found.2) := by
  have colon : skip (':' :: ' ' :: (value ++ ',' :: more)) = ':' :: ' ' :: (value ++ ',' :: more) := skip_cons rfl _
  have blank : skip (' ' :: (value ++ ',' :: more)) = value ++ ',' :: more := valueBegins.skip _
  rw [entries, if_neg (keyBegins.head?_ne (by decide) _), readKey]
  cases found : entries fuel depth (skip more) <;> simp [colon, blank, readValue, skip_comma, found]

/-- The text of an entry. -/
def entryText (entry : Atom × Value) : List Char := entry.1.written.toList ++ ':' :: ' ' :: entry.2.written.toList

/-- Entries with commas between them are read up to the closing brace, if the key and the value of each of them is. -/
theorem entries_separated : ∀ {entries : List (Atom × Value)},
    (∀ entry ∈ entries, Reads entry.1.written.toList 0 (ofAtom entry.1) ∧
      Reads entry.2.written.toList entry.2.nesting (literal entry.2)) → ∀ {fuel},
    (separated (entries.map entryText)).length < fuel → Value.nestingOfEntries entries ≤ depth →
    Literal.entries fuel depth (separated (entries.map entryText) ++ '\x7d' :: behind) =
      some (literalEntries entries, behind)
  | [], _, fuel + 1, _, _ => by simp [separated, entries_done, literalEntries]
  | [(k, v)], read, fuel + 1, enough, within => by
    obtain ⟨readKey, readValue⟩ : Reads k.written.toList 0 (ofAtom k) ∧ Reads v.written.toList v.nesting (literal v) :=
      read (k, v) List.mem_cons_self
    simp only [separated, List.map_cons, List.map_nil, List.intercalate_singleton, entryText] at enough ⊢
    rw [Value.nestingOfEntries, Nat.max_le] at within
    rw [List.length_append, List.length_cons, List.length_cons] at enough
    rw [List.append_assoc, List.cons_append, List.cons_append,
      entries_last readKey.begins readValue.begins
        (readKey.expression (by omega) (Nat.zero_le depth) (closed_cons (by decide) _))
        (readValue.expression (by omega) within.1 (closed_cons (by decide) _))]
    rfl
  | (k, v) :: next :: rest, read, fuel + 1, enough, within => by
    obtain ⟨readKey, readValue⟩ : Reads k.written.toList 0 (ofAtom k) ∧ Reads v.written.toList v.nesting (literal v) :=
      read (k, v) List.mem_cons_self
    have second := (read next (by simp)).1
    have later := @entries_separated (next :: rest) fun u member => read u (List.mem_cons_of_mem (k, v) member)
    rw [Value.nestingOfEntries, Nat.max_le] at within
    have regroup : separated (((k, v) :: next :: rest).map entryText) = k.written.toList ++
        ':' :: ' ' :: (v.written.toList ++ ',' :: ' ' :: separated ((next :: rest).map entryText)) := by
      simp [separated, entryText]
    have begins : Begins (separated ((next :: rest).map entryText)) := (second.begins.append _).separated _
    have skipped : skip (' ' :: (separated ((next :: rest).map entryText) ++ '\x7d' :: behind)) =
        separated ((next :: rest).map entryText) ++ '\x7d' :: behind := begins.skip _
    rw [regroup] at enough ⊢
    simp only [List.length_append, List.length_cons] at enough
    simp only [List.append_assoc, List.cons_append]
    rw [entries_more readKey.begins readValue.begins
        (readKey.expression (by omega) (Nat.zero_le depth) (closed_cons (by decide) _))
        (readValue.expression (by omega) within.1 (closed_cons (by decide) _)), skipped, later (by omega) within.2]
    rfl

/-! ### Values -/

private theorem writtenItems_eq_map (items : List Value) : Value.writtenItems items = items.map Value.written := by
  induction items with
  | nil => rfl
  | cons v rest ih => rw [Value.writtenItems, ih, List.map_cons]

private theorem writtenEntries_eq_map (entries : List (Atom × Value)) :
    Value.writtenEntries entries = entries.map fun entry => entry.1.written ++ ": " ++ entry.2.written := by
  induction entries with
  | nil => rfl
  | cons entry rest ih => rw [Value.writtenEntries, ih, List.map_cons]

private theorem toList_join (texts : List String) : (Text.join ", " texts).toList = separated (texts.map String.toList) :=
  String.toList_intercalate

private theorem skip_separated {texts : List (List Char)} (begin : ∀ text ∈ texts, Begins text) (closes : close ∈ closers) :
    skip (separated texts ++ close :: behind) = separated texts ++ close :: behind := by
  cases texts with
  | nil => exact skip_closer closes behind
  | cons text texts => exact ((begin text List.mem_cons_self).separated texts).skip _

variable {vs : List Value} {fields : List (Atom × Value)}

/-- Brackets are read if what stands in them is, with one bracket less to be opened. -/
private theorem reads_brackets {opening closing : Char} {inner : List Char} {nesting : Nat} {e : Expr}
    (opens : opening ∈ ['[', '(', '\x7b'])
    (read : ∀ {fuel depth behind}, inner.length < fuel → nesting ≤ depth →
      expression (fuel + 1) (depth + 1) (opening :: (inner ++ closing :: behind)) = some (e, behind)) :
    Reads (opening :: (inner ++ [closing])) (nesting + 1) e where
  begins := by
    have begin : ∀ c ∈ ['[', '(', '\x7b'], Json.isSpace c = false ∧ c ∉ closers :=
      List.forall_iff_forall_mem.mp (by decide)
    exact ⟨opening, _, rfl, begin opening opens⟩
  expression {fuel depth behind} enough within _ := by
    rw [List.length_cons, List.length_append, List.length_singleton] at enough
    obtain ⟨fuel, rfl⟩ : ∃ more, fuel = more + 1 := ⟨fuel - 1, by omega⟩
    obtain ⟨depth, rfl⟩ : ∃ more, depth = more + 1 := ⟨depth - 1, by omega⟩
    rw [List.cons_append, List.append_assoc, List.singleton_append]
    exact read (Nat.lt_of_succ_le (Nat.le_of_succ_le_succ enough)) (Nat.le_of_succ_le_succ within)

private theorem reads_list (read : ∀ v ∈ vs, Reads v.written.toList v.nesting (literal v)) :
    Reads (Value.list vs).written.toList (Value.list vs).nesting (literal (.list vs)) := by
  have written : (Value.list vs).written.toList = '[' :: (separated (vs.map fun v => v.written.toList) ++ [']']) := by
    simp [Value.written, writtenItems_eq_map, toList_join, Function.comp_def]
  have begin : ∀ text ∈ vs.map fun v => v.written.toList, Begins text := by
    simpa using fun v member => (read v member).begins
  rw [written]
  refine reads_brackets (by decide) fun enough within => ?_
  rw [expression, skip_separated begin (by decide), items_separated (by decide) read enough within]
  rfl

/-- A single item has a comma behind it, so that the brackets are not taken for those of an expression. -/
private theorem reads_single {v : Value} (read : Reads v.written.toList v.nesting (literal v)) :
    Reads (Value.tuple [v]).written.toList (Value.tuple [v]).nesting (literal (.tuple [v])) := by
  have written : (Value.tuple [v]).written.toList = '(' :: ((v.written.toList ++ [',']) ++ [')']) := by
    simp [Value.written, writtenItems_eq_map, toList_join, separated]
  have nesting : (Value.tuple [v]).nesting = v.nesting + 1 := by simp [Value.nesting, Value.nestingOfItems]
  rw [written, nesting]
  refine reads_brackets (by decide) fun {fuel depth behind} enough within => ?_
  rw [List.length_append, List.length_singleton] at enough
  obtain ⟨fuel, rfl⟩ : ∃ more, fuel = more + 2 := ⟨fuel - 2, by omega⟩
  have comma : skip (v.written.toList ++ ',' :: ')' :: behind) = v.written.toList ++ ',' :: ')' :: behind :=
    read.begins.skip _
  have close : skip (')' :: behind) = ')' :: behind := skip_closer (by decide) behind
  rw [expression, List.append_assoc, List.singleton_append, comma,
    items_more (by decide) read.begins (read.expression (by omega) within (closed_cons (by decide) _)), close, items_done]
  rfl

private theorem reads_tuple (read : ∀ v ∈ vs, Reads v.written.toList v.nesting (literal v)) :
    Reads (Value.tuple vs).written.toList (Value.tuple vs).nesting (literal (.tuple vs)) := by
  by_cases single : vs.length = 1
  · obtain ⟨v, rfl⟩ := List.length_eq_one_iff.mp single
    exact reads_single (read v List.mem_cons_self)
  · have written : (Value.tuple vs).written.toList = '(' :: (separated (vs.map fun v => v.written.toList) ++ [')']) := by
      simp [Value.written, writtenItems_eq_map, toList_join, Function.comp_def, single]
    have begin : ∀ text ∈ vs.map fun v => v.written.toList, Begins text := by
      simpa using fun v member => (read v member).begins
    have isTuple : enclosed (literals vs) (false && vs.isEmpty) = .tuple (literals vs) := by
      match vs, single with
      | [], _ => rfl
      | [_], single => exact absurd rfl single
      | _ :: _ :: _, _ => rfl
    rw [written]
    refine reads_brackets (by decide) fun {fuel depth behind} enough within => ?_
    rw [expression, skip_separated begin (by decide), items_separated (by decide) read enough within]
    exact congrArg (fun e => some (e, behind)) isTuple

private theorem reads_map (read : ∀ entry ∈ fields, Reads entry.1.written.toList 0 (ofAtom entry.1) ∧
      Reads entry.2.written.toList entry.2.nesting (literal entry.2)) :
    Reads (Value.map fields).written.toList (Value.map fields).nesting (literal (.map fields)) := by
  have written : (Value.map fields).written.toList = '\x7b' :: (separated (fields.map entryText) ++ ['\x7d']) := by
    have texts : fields.map entryText =
        fields.map fun entry => entry.1.written.toList ++ ':' :: ' ' :: entry.2.written.toList := rfl
    simp [Value.written, writtenEntries_eq_map, toList_join, Function.comp_def, texts]
  have begin : ∀ text ∈ fields.map entryText, Begins text := by
    rw [List.forall_mem_map]
    exact fun entry member => (read entry member).1.begins.append _
  rw [written]
  refine reads_brackets (by decide) fun enough within => ?_
  rw [expression, skip_separated begin (by decide), entries_separated read enough within]
  rfl

mutual

/-- What is written for a plain value is read as its expression. -/
theorem reads : ∀ {v : Value}, v.IsPlain → Reads v.written.toList v.nesting (literal v)
  | .atom _, plain => reads_atom plain
  | .list _, plain => reads_list (reads_items plain)
  | .tuple _, plain => reads_tuple (reads_items plain)
  | .map _, plain => reads_map (reads_entries plain.1)

theorem reads_items : ∀ {items : List Value}, Value.ArePlain items →
    ∀ v ∈ items, Reads v.written.toList v.nesting (literal v)
  | [], _ => List.forall_mem_nil _
  | _ :: _, plain => List.forall_mem_cons.mpr ⟨reads plain.1, reads_items plain.2⟩

theorem reads_entries : ∀ {entries : List (Atom × Value)}, Value.HavePlain entries →
    ∀ entry ∈ entries, Reads entry.1.written.toList 0 (ofAtom entry.1) ∧
      Reads entry.2.written.toList entry.2.nesting (literal entry.2)
  | [], _ => List.forall_mem_nil _
  | (k, v) :: _, ⟨⟨name, isText⟩, plain, others⟩ =>
    List.forall_mem_cons.mpr ⟨⟨by rw [isText]; exact reads_text name, reads plain⟩, reads_entries others⟩

end

/-- The text of a plain value, if its brackets are not nested too deep, is read as the expression of the value. -/
theorem read_written {v : Value} (plain : v.IsPlain) (shallow : v.nesting ≤ Expr.nestingLimit) :
    read v.written.toList = some (literal v) := by
  have whole := @(reads plain).expression _ _ [] (Nat.le_succ _) shallow nofun
  rw [List.append_nil] at whole
  rw [read, whole]

end ClientGen.Literal
