import ClientGen.Generation
import ClientGen.Proofs.Operation.ArgumentNames
import Mathlib.Data.List.Chain

/-!
The normal form of names. Whatever text a name is made from, it comes out as small letters, digits and single
low lines, does not begin with a digit and is no reserved word (`IsNormal`). Making a name of a name changes
nothing (`names_normal`): a name is a core, which neither begins nor ends with a low line, with at most a low
line on either side as its guard (`IsCore`, `guarded`), and the words of the guarded core are the core again
(`snakeWords_guarded`).
-/

namespace ClientGen

namespace Naming

/-- Whether no two low lines stand side by side. -/
def Single (cs : List Char) : Prop := cs.IsChain fun a b => ¬ (a = '_' ∧ b = '_')

/-- The normal form of names. -/
structure IsNormal (name : String) : Prop where
  nonempty : name.toList ≠ []
  snake : ∀ c ∈ name.toList, IsSnake c
  begins : ∀ c ∈ name.toList.head?, Text.isAsciiDigit c = false
  unreserved : isKeyword name.toList = false
  single : Single name.toList

/-- A word in small letters and digits that begins with a letter and is not reserved. -/
structure IsWord (word : String) : Prop where
  begins : ∃ c rest, word.toList = c :: rest ∧ Text.isAsciiLower c = true
  plain : ∀ c ∈ word.toList, Text.isAsciiLower c = true ∨ Text.isAsciiDigit c = true
  unreserved : isKeyword word.toList = false

/-- A name without its guards. -/
structure IsCore (cs : List Char) : Prop where
  nonempty : cs ≠ []
  snake : ∀ c ∈ cs, IsSnake c
  single : Single cs
  begins : cs.head? ≠ some '_'
  ends : cs.getLast? ≠ some '_'

/-- A core with the guards that it needs. -/
def guarded (cs : List Char) : List Char := guardKeyword (guardDigit cs)

section Characters

variable {c : Char}

private theorem isAsciiUpper_of_isSnake (snake : IsSnake c) : Text.isAsciiUpper c = false := by
  rw [← Bool.not_eq_true, Text.isAsciiUpper_iff]
  rcases snake with lower | digit | rfl
  · have := (Text.isAsciiLower_iff c).mp lower
    omega
  · have := (Text.isAsciiDigit_iff c).mp digit
    omega
  · decide

private theorem lower_of_isSnake (snake : IsSnake c) : Text.lower c = [c] := by
  have ascii := isAscii_of_isSnake snake
  rw [Text.isAscii, decide_eq_true_eq] at ascii
  rw [Text.lower, isAsciiUpper_of_isSnake snake, if_neg (by decide), if_neg (by omega), if_neg (by omega)]

private theorem nameChar_of_isSnake (snake : IsSnake c) : nameChar c = c := by
  rw [nameChar, if_pos]
  rcases snake with lower | digit | low
  · simp [Text.isWord, lower]
  · simp [Text.isWord, digit]
  · simp [low]

private theorem isDigit_of_isSnake (snake : IsSnake c) : Text.isDigit c = Text.isAsciiDigit c := by
  rw [Text.isDigit, if_pos (isAscii_of_isSnake snake)]

private theorem ne_lowLine_of_plain (plain : Text.isAsciiLower c = true ∨ Text.isAsciiDigit c = true) : c ≠ '_' := by
  rintro rfl
  revert plain
  decide

end Characters

/-! ### The stages of a name -/

/-- Without capitals there are no words to separate. -/
theorem separateWords_of_snake {cs : List Char} (snake : ∀ c ∈ cs, IsSnake c) : separateWords cs = cs := by
  induction cs with
  | nil => rfl
  | cons a rest ih =>
    have later := ih fun c member => snake c (List.mem_cons_of_mem _ member)
    cases rest with
    | nil => rfl
    | cons b rest =>
      have noUpper := isAsciiUpper_of_isSnake (snake b (by simp))
      have joined : beginsWord a b rest = false := by simp [beginsWord, noUpper]
      rw [separateWords, joined, if_neg (by decide), later]

private theorem head?_squeeze (cs : List Char) : (squeeze cs).head? = cs.head? := by
  induction cs with
  | nil => rfl
  | cons a rest ih =>
    cases rest with
    | nil => rfl
    | cons b rest =>
      rw [squeeze]
      split
      · rename_i both
        rw [ih, both.1, both.2]
        rfl
      · rfl

theorem single_squeeze (cs : List Char) : Single (squeeze cs) := by
  induction cs with
  | nil => exact .nil
  | cons a rest ih =>
    cases rest with
    | nil => exact .singleton a
    | cons b rest =>
      rw [squeeze]
      split
      · exact ih
      · rename_i apart
        refine List.isChain_cons.mpr ⟨fun c first => ?_, ih⟩
        rw [head?_squeeze, List.head?_cons, Option.mem_some_iff] at first
        rwa [← first]

theorem squeeze_of_single {cs : List Char} (single : Single cs) : squeeze cs = cs := by
  induction cs with
  | nil => rfl
  | cons a rest ih =>
    cases rest with
    | nil => rfl
    | cons b rest =>
      obtain ⟨apart, later⟩ := List.isChain_cons_cons.mp single
      rw [squeeze, if_neg apart, ih later]

/-- Of a text that is spelled like a name, only the low lines at both ends are taken away. -/
theorem snakeWords_of_single {cs : List Char} (snake : ∀ c ∈ cs, IsSnake c) (single : Single cs) :
    snakeWords cs = Text.trim (· = '_') cs := by
  have lowered : cs.flatMap Text.lower = cs := by
    rw [List.flatMap_congr fun c member => lower_of_isSnake (snake c member), List.flatMap_singleton']
  have named : cs.map nameChar = cs := by
    rw [List.map_congr_left fun c member => nameChar_of_isSnake (snake c member), List.map_id']
  rw [snakeWords, separateWords_of_snake snake]
  simp only [lowered, named, squeeze_of_single single]

theorem isCore_snakeWords {name : List Char} (nonempty : snakeWords name ≠ []) : IsCore (snakeWords name) where
  nonempty := nonempty
  snake := isSnake_snakeWords name
  single := List.IsChain.infix (single_squeeze _) (Text.trim_isInfix _ _)
  begins := by
    intro first
    obtain ⟨rest, spelled⟩ := List.head?_eq_some_iff.mp first
    exact absurd (Text.trim_begins _ _ spelled) (by decide)
  ends := by
    intro last
    exact absurd (Text.trim_ends _ _ '_' last) (by decide)

theorem IsWord.isCore {word : String} (isWord : IsWord word) : IsCore word.toList := by
  have noLow : ∀ c ∈ word.toList, c ≠ '_' := fun c member => ne_lowLine_of_plain (isWord.plain c member)
  obtain ⟨c, rest, spelled, -⟩ := isWord.begins
  constructor
  · rw [spelled]
    exact List.cons_ne_nil c rest
  · intro c member
    exact (isWord.plain c member).imp_right .inl
  · refine (List.pairwise_of_forall_mem_list fun a member b _ both => ?_).isChain
    exact noLow a member both.1
  · intro first
    exact noLow '_' (List.mem_of_mem_head? first) rfl
  · intro last
    exact noLow '_' (List.mem_of_mem_getLast? last) rfl

/-! ### Guards -/

/-- The guards are at most a low line on either side. -/
theorem guarded_eq (cs : List Char) :
    ∃ front back, guarded cs = front ++ (cs ++ back) ∧ (front = [] ∨ front = ['_']) ∧ (back = [] ∨ back = ['_']) := by
  have digit : ∃ front, guardDigit cs = front ++ cs ∧ (front = [] ∨ front = ['_']) := by
    cases cs with
    | nil => exact ⟨[], rfl, .inl rfl⟩
    | cons c rest =>
      rw [guardDigit]
      split
      · exact ⟨['_'], rfl, .inr rfl⟩
      · exact ⟨[], rfl, .inl rfl⟩
  obtain ⟨front, spelled, short⟩ := digit
  rw [guarded, guardKeyword, spelled]
  split
  · exact ⟨front, ['_'], List.append_assoc _ _ _, short, .inr rfl⟩
  · exact ⟨front, [], by rw [List.append_nil], short, .inl rfl⟩

private theorem lowLines {side : List Char} (short : side = [] ∨ side = ['_']) :
    Single side ∧ ∀ c ∈ side, c = '_' := by
  rcases short with rfl | rfl
  · exact ⟨.nil, nofun⟩
  · exact ⟨.singleton _, fun c member => List.mem_singleton.mp member⟩

theorem snake_guarded {cs : List Char} (snake : ∀ c ∈ cs, IsSnake c) : ∀ c ∈ guarded cs, IsSnake c := by
  obtain ⟨front, back, spelled, before, behind⟩ := guarded_eq cs
  rw [spelled]
  intro c member
  simp only [List.mem_append] at member
  rcases member with first | inside | last
  · exact .inr (.inr ((lowLines before).2 c first))
  · exact snake c inside
  · exact .inr (.inr ((lowLines behind).2 c last))

/-- A guard stands beside no low line of the core. -/
theorem single_guarded {cs : List Char} (core : IsCore cs) : Single (guarded cs) := by
  obtain ⟨front, back, spelled, before, behind⟩ := guarded_eq cs
  have inner : Single (cs ++ back) := by
    refine core.single.append (lowLines behind).1 ?_
    rintro x last y - ⟨rfl, -⟩
    exact core.ends last
  rw [spelled]
  refine (lowLines before).1.append inner ?_
  rintro x - y first ⟨-, rfl⟩
  rw [List.head?_append_of_ne_nil _ core.nonempty] at first
  exact core.begins first

/-- The words of a guarded core are the core. -/
theorem snakeWords_guarded {cs : List Char} (core : IsCore cs) : snakeWords (guarded cs) = cs := by
  rw [snakeWords_of_single (snake_guarded core.snake) (single_guarded core)]
  obtain ⟨front, back, spelled, before, behind⟩ := guarded_eq cs
  rw [spelled]
  apply Text.trim_between
  · exact fun c member => decide_eq_true ((lowLines before).2 c member)
  · exact fun c member => decide_eq_true ((lowLines behind).2 c member)
  · intro c first
    refine decide_eq_false ?_
    rintro rfl
    exact core.begins first
  · intro c last
    refine decide_eq_false ?_
    rintro rfl
    exact core.ends last

private theorem guardDigit_ne_nil {cs : List Char} (nonempty : cs ≠ []) : guardDigit cs ≠ [] := by
  cases cs with
  | nil => exact absurd rfl nonempty
  | cons c rest =>
    rw [guardDigit]
    split <;> exact List.cons_ne_nil _ _

private theorem guardDigit_noDigit {cs : List Char} (snake : ∀ c ∈ cs, IsSnake c) :
    ∀ c ∈ (guardDigit cs).head?, Text.isAsciiDigit c = false := by
  intro c first
  cases cs with
  | nil => cases first
  | cons d rest =>
    rw [guardDigit, isDigit_of_isSnake (snake d List.mem_cons_self)] at first
    split at first
    · rw [← Option.some.inj first]
      decide
    · rename_i noDigit
      rw [← Option.some.inj first]
      exact Bool.eq_false_iff.mpr noDigit

theorem isNormal_guarded {cs : List Char} (core : IsCore cs) : IsNormal (String.ofList (guarded cs)) := by
  constructor <;> rw [String.toList_ofList]
  · obtain ⟨front, back, spelled, -, -⟩ := guarded_eq cs
    simp [spelled, core.nonempty]
  · exact snake_guarded core.snake
  · intro c first
    refine guardDigit_noDigit core.snake c ?_
    rw [guarded, guardKeyword] at first
    split at first
    · rwa [List.head?_append_of_ne_nil _ (guardDigit_ne_nil core.nonempty)] at first
    · exact first
  · rw [guarded, guardKeyword]
    split
    · exact isKeyword_of_lowLine (by simp)
    · rename_i unreserved
      exact Bool.eq_false_iff.mpr unreserved
  · exact single_guarded core

/-! ### Names -/

private theorem snakeCase_of_chosen {name fallback : String} {cs : List Char} (core : IsCore cs)
    (chosen : (if (snakeWords name.toList).isEmpty then fallback.toList else snakeWords name.toList) = cs) :
    snakeCase name fallback = .ok (String.ofList (guarded cs)) := by
  have nonempty : ¬ cs.isEmpty = true := by simpa using core.nonempty
  simp only [snakeCase, chosen]
  rw [if_neg nonempty, guarded]

/-- Every name is a guarded core: the words of the text, or the fallback where there are none. -/
theorem snakeCase_eq_guarded (name : String) {fallback : String} (isWord : IsWord fallback) :
    ∃ cs, IsCore cs ∧ snakeCase name fallback = .ok (String.ofList (guarded cs)) := by
  by_cases none : snakeWords name.toList = []
  · exact ⟨_, isWord.isCore, snakeCase_of_chosen isWord.isCore (by rw [none]; rfl)⟩
  · have core := isCore_snakeWords none
    exact ⟨_, core, snakeCase_of_chosen core (if_neg (by simpa using none))⟩

/-- A guarded core is the name that is made from it. -/
theorem snakeCase_guarded {cs : List Char} (core : IsCore cs) (fallback : String) :
    snakeCase (String.ofList (guarded cs)) fallback = .ok (String.ofList (guarded cs)) := by
  apply snakeCase_of_chosen core
  rw [String.toList_ofList, snakeWords_guarded core]
  exact if_neg (by simpa using core.nonempty)

/-- The name of an operation's function is made from some text, with the method where that holds no word. -/
theorem functionName_eq_snakeCase (operationId : Option String) (method path : String) :
    ∃ wanted, functionName operationId method path = snakeCase wanted method := by
  unfold functionName functionName.fromPath
  split
  · split
    · exact ⟨_, rfl⟩
    · exact ⟨_, rfl⟩
  · exact ⟨_, rfl⟩

theorem functionName_of_nonempty {operationId : String} (nonempty : operationId.toList ≠ []) (method path : String) :
    functionName (some operationId) method path = snakeCase operationId method := by
  have some : operationId.isEmpty = false := by
    rw [← Bool.not_eq_true, String.isEmpty_iff]
    rintro rfl
    exact nonempty rfl
  rw [functionName, some]
  rfl

/-- The methods of operations are words. -/
theorem isWord_of_method : ∀ method ∈ Generation.methods, IsWord method := by
  have checked : ∀ method ∈ Generation.methods, method.toList.head?.any Text.isAsciiLower = true ∧
      (method.toList.all fun c => Text.isAsciiLower c || Text.isAsciiDigit c) = true ∧
        isKeyword method.toList = false := by
    decide +kernel
  intro method member
  obtain ⟨begins, plain, unreserved⟩ := checked method member
  refine ⟨?_, by simpa using plain, unreserved⟩
  cases spelled : method.toList with
  | nil =>
    rw [spelled] at begins
    cases begins
  | cons c rest =>
    rw [spelled] at begins
    exact ⟨c, rest, rfl, begins⟩

/-- Names are in normal form, and making a name of a name gives it back. This holds of any text with any word as
its fallback, and of the functions of all operations, whose methods are such words. -/
theorem names_normal :
    (∀ name fallback, IsWord fallback → ∃ result, snakeCase name fallback = .ok result ∧ IsNormal result ∧
      snakeCase result fallback = .ok result) ∧
    (∀ operationId method path, IsWord method → ∃ result, functionName operationId method path = .ok result ∧
      IsNormal result ∧ snakeCase result method = .ok result ∧
        functionName (some result) method path = .ok result) ∧
    ∀ method ∈ Generation.methods, IsWord method := by
  refine ⟨?_, ?_, isWord_of_method⟩
  · intro name fallback isWord
    obtain ⟨cs, core, made⟩ := snakeCase_eq_guarded name isWord
    exact ⟨_, made, isNormal_guarded core, snakeCase_guarded core fallback⟩
  · intro operationId method path isWord
    obtain ⟨wanted, equal⟩ := functionName_eq_snakeCase operationId method path
    obtain ⟨cs, core, made⟩ := snakeCase_eq_guarded wanted isWord
    have normal := isNormal_guarded core
    have again := snakeCase_guarded core method
    refine ⟨_, equal.trans made, normal, again, ?_⟩
    rw [functionName_of_nonempty normal.nonempty, again]

private theorem isWord_param : IsWord "param" := by
  have plain : ("param".toList.all fun c => Text.isAsciiLower c || Text.isAsciiDigit c) = true := by decide
  exact ⟨⟨'p', "aram".toList, by decide, by decide⟩, by simpa using plain, by decide⟩

/-- A capital outside ASCII becomes a small letter and a mark, which separates what follows. -/
theorem names_normal_mark :
    IsWord "param" ∧ snakeCase "2ndİtem" "param" = .ok "_2ndi_tem" ∧ IsNormal "_2ndi_tem" ∧
      snakeCase "_2ndi_tem" "param" = .ok "_2ndi_tem" := by
  obtain ⟨result, made, normal, again⟩ := names_normal.1 "2ndİtem" "param" isWord_param
  have spelled : snakeCase "2ndİtem" "param" = .ok "_2ndi_tem" := by decide +kernel
  obtain rfl := Except.ok.inj (made.symm.trans spelled)
  exact ⟨isWord_param, made, normal, again⟩

end Naming

end ClientGen
