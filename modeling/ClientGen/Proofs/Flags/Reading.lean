import ClientGen.Flags
import Mathlib.Data.List.TakeWhile

/-!
A flag that stands alone at the beginning of a command line. A lone spelling is two dashes with something else
behind them, or one dash with one character; two dashes alone end the flags instead. Where all spellings are lone a
lone spelling is understood as the flag that was declared with it (`readFlag_of_find?`), unless an equals sign cuts
it. Conversely, whatever the spellings are, a lone argument that is understood as a whole is the spelling of a flag
(`readFlag_ok`).
-/

namespace ClientGen

namespace Flag

/-- One dash and one more character, or two dashes and something behind them. -/
def IsLone (spelling : String) : Prop :=
  ∃ c rest, c ≠ '-' ∧ (spelling.toList = '-' :: '-' :: c :: rest ∨ spelling.toList = ['-', c])

/-- An equals sign does not cut the spelling: there is none, or it is all there is behind the dash. -/
def IsUncut (spelling : String) : Prop := '=' ∉ spelling.toList ∨ spelling.toList.length = 2

instance (spelling : String) : Decidable (IsUncut spelling) := inferInstanceAs (Decidable (_ ∨ _))

variable {spelling : String}

theorem isLone_long {c : Char} {rest : List Char} (isLong : spelling.toList = '-' :: '-' :: c :: rest) :
    splitSpelling spelling.toList = (['-', '-'], c :: rest) ∧ isShort spelling = false := by
  have split : splitSpelling spelling.toList = (['-', '-'], c :: rest) := by
    rw [isLong]
    rfl
  exact ⟨split, by simp [isShort, split]⟩

theorem isLone_short {c : Char} (notDash : c ≠ '-') (isShort' : spelling.toList = ['-', c]) :
    splitSpelling spelling.toList = (['-'], [c]) ∧ isShort spelling = true := by
  have split : splitSpelling spelling.toList = (['-'], [c]) := by
    rw [isShort', splitSpelling, if_neg (by decide)]
    simp [notDash]
  exact ⟨split, by simp [isShort, split]⟩

end Flag

namespace Grammar

open ClientGen.Flag

/-- All spellings of a grammar are lone. -/
def AllLone (g : Grammar) : Prop := ∀ entry ∈ g.entries, IsLone entry.1

variable {g : Grammar} {spelling : String} {flag : Flag} {on : Bool}

theorem mem_entries : (spelling, flag, on) ∈ g.entries ↔
    flag ∈ g.flags ∧ (on = true ∧ spelling ∈ flag.spellings ∨ on = false ∧ spelling ∈ flag.negatives) := by
  simp only [entries, Flag.entries, List.mem_flatMap, List.mem_append, List.mem_map, Prod.mk.injEq]
  constructor
  · rintro ⟨_, isFlag, ⟨_, isSpelling, rfl, rfl, rfl⟩ | ⟨_, isNegative, rfl, rfl, rfl⟩⟩
    · exact ⟨isFlag, .inl ⟨rfl, isSpelling⟩⟩
    · exact ⟨isFlag, .inr ⟨rfl, isNegative⟩⟩
  · rintro ⟨isFlag, ⟨rfl, isSpelling⟩ | ⟨rfl, isNegative⟩⟩
    · exact ⟨flag, isFlag, .inl ⟨spelling, isSpelling, rfl, rfl, rfl⟩⟩
    · exact ⟨flag, isFlag, .inr ⟨spelling, isNegative, rfl, rfl, rfl⟩⟩

theorem isUsable_of_allLone (lone : g.AllLone) : g.isUsable = true := by
  rw [isUsable, List.all_eq_true]
  intro entry member
  obtain ⟨c, rest, notDash, isLong | isShort⟩ := lone entry member
  · simp [(isLone_long isLong).1]
  · simp [(isLone_short notDash isShort).1]

theorem marks_of_allLone (lone : g.AllLone) {mark : List Char} (member : mark ∈ g.marks) :
    mark = ['-'] ∨ mark = ['-', '-'] := by
  simp only [marks, List.mem_cons, List.mem_flatMap] at member
  rcases member with rfl | rfl | ⟨entry, isEntry, isMark⟩
  · exact .inl rfl
  · exact .inr rfl
  · obtain ⟨c, rest, notDash, isLong | isShort⟩ := lone entry isEntry
    · simpa [isLone_long isLong] using isMark
    · exact .inl (by simpa [isLone_short notDash isShort] using isMark)

theorem mem_entries_of_find? {short : Bool} (found : g.find? short spelling = some (flag, on)) :
    (spelling, flag, on) ∈ g.entries ∧ Flag.isShort spelling = short := by
  obtain ⟨⟨_, _, _⟩, first, isEntry⟩ := Option.map_eq_some_iff.mp found
  cases isEntry
  have matches' := List.find?_some first
  simp only [Bool.and_eq_true, decide_eq_true_eq] at matches'
  obtain ⟨rfl, isShort⟩ := matches'
  exact ⟨List.mem_reverse.mp (List.mem_of_find?_eq_some first), isShort⟩

/-- A spelling that one flag only has is that of the flag. -/
theorem find?_of_unique (member : (spelling, flag, on) ∈ g.entries)
    (unique : ∀ other ∈ g.entries, other.1 = spelling → other.2 = (flag, on)) :
    g.find? (Flag.isShort spelling) spelling = some (flag, on) := by
  have some : (g.entries.reverse.find? fun entry =>
      entry.1 = spelling && Flag.isShort entry.1 = Flag.isShort spelling).isSome = true :=
    List.find?_isSome.mpr ⟨_, List.mem_reverse.mpr member, by simp⟩
  obtain ⟨other, found⟩ := Option.isSome_iff_exists.mp some
  have same : other.1 = spelling := by
    have matches' := List.find?_some found
    simp only [Bool.and_eq_true, decide_eq_true_eq] at matches'
    exact matches'.1
  rw [find?, found, Option.map_some, unique other (List.mem_reverse.mp (List.mem_of_find?_eq_some found)) same]

/-- What becomes of reading when a flag has been understood: it waits for its value, or it is a switch. -/
def Progress.understood (p : Progress) (spelling : String) (flag : Flag) (on : Bool) : Progress :=
  if flag.takesValue then { p with waiting := some (spelling, flag.destination) }
  else p.addOccurrence flag.destination (.switch on)

theorem cutValue_of_not_mem {cs : List Char} (uncut : '=' ∉ cs) : cutValue cs = (String.ofList cs, none) := by
  have nothing : cs.dropWhile (· ≠ '=') = [] := by
    rw [List.dropWhile_eq_nil_iff]
    intro c member
    have notEquals : c ≠ '=' := fun same => uncut (same ▸ member)
    simpa using notEquals
  rw [cutValue, nothing]

theorem cutValue_of_mem {cs : List Char} (equals : '=' ∈ cs) :
    ∃ spelling text, cutValue cs = (spelling, some text) := by
  unfold cutValue
  split
  · rename_i nothing
    rw [List.dropWhile_eq_nil_iff] at nothing
    simpa using nothing '=' equals
  · exact ⟨_, _, rfl⟩

/-- One character behind a dash is understood as a flag of its own. -/
theorem readCluster_eq_ok (strict : g.lenient = false) {c : Char} {p later : Progress} :
    g.readCluster '-' [] [c] p = .ok later ↔
      ∃ flag on, g.find? true (String.ofList ['-', c]) = some (flag, on) ∧
        later = p.understood (String.ofList ['-', c]) flag on := by
  rw [readCluster]
  cases g.find? true (String.ofList ['-', c]) with
  | none => simp only [strict, Bool.false_eq_true, if_false, reduceCtorEq, false_and, exists_false]
  | some entry =>
    obtain ⟨flag, on⟩ := entry
    have same : (if flag.takesValue then
          (.ok { p with waiting := some (String.ofList ['-', c], flag.destination) } : Except UsageFault Progress)
        else .ok (p.addOccurrence flag.destination (.switch on))) =
        .ok (p.understood (String.ofList ['-', c]) flag on) := by
      unfold Progress.understood
      split <;> rfl
    simp only [readCluster, List.isEmpty_nil, if_true, same, Except.ok.injEq, Option.some.injEq, Prod.mk.injEq]
    constructor
    · rintro rfl
      exact ⟨flag, on, ⟨rfl, rfl⟩, rfl⟩
    · rintro ⟨_, _, ⟨rfl, rfl⟩, rfl⟩
      rfl

/-- A lone spelling is understood as the flag that was declared with it. -/
theorem readFlag_of_find? (strict : g.lenient = false) (lone : g.AllLone) (isLone : IsLone spelling)
    (uncut : IsUncut spelling) {p : Progress}
    (found : g.find? (isShort spelling) spelling = some (flag, on)) :
    g.readFlag spelling p = .ok (p.understood spelling flag on) := by
  obtain ⟨c, rest, notDash, isLong | isShort'⟩ := isLone
  · have noEquals : '=' ∉ spelling.toList := by
      refine uncut.resolve_right ?_
      rw [isLong]
      simp
    rw [(isLone_long isLong).2] at found
    rw [readFlag, cutValue_of_not_mem noEquals, String.ofList_toList]
    simp only [found]
    cases takesValue : flag.takesValue <;> simp [Progress.understood, takesValue]
  · rw [(isLone_short notDash isShort').2] at found
    have whole : String.ofList ['-', c] = spelling := by rw [← isShort', String.ofList_toList]
    have nothing : g.find? false (cutValue spelling.toList).1 = none := by
      cases isEntry : g.find? false (cutValue spelling.toList).1 with
      | none => rfl
      | some entry =>
        obtain ⟨isEntry, isLong⟩ := mem_entries_of_find? isEntry
        exfalso
        by_cases equals : c = '='
        · -- a dash alone is no spelling
          obtain ⟨d, rest, -, isDash | isDash⟩ := lone _ isEntry <;>
            · rw [isShort', equals] at isDash
              exact absurd isDash (by simp [cutValue])
        · have noEquals : '=' ∉ spelling.toList := by
            rw [isShort']
            simpa using Ne.symm equals
          rw [cutValue_of_not_mem noEquals, String.ofList_toList, (isLone_short notDash isShort').2] at isLong
          cases isLong
    have noMark : ['-', c] ∉ g.marks := by
      intro isMark
      rcases marks_of_allLone lone isMark with one | two
      · cases one
      · exact notDash (by simpa using two)
    have cluster := (readCluster_eq_ok strict (p := p)).mpr ⟨flag, on, whole ▸ found, rfl⟩
    rw [whole] at cluster
    rw [readFlag]
    simp only [nothing]
    simpa [isShort', noMark] using cluster

/-- A lone argument that is read stands for a flag with a value behind an equals sign, or is as a whole the spelling
of a flag. -/
theorem readFlag_ok (strict : g.lenient = false) (isLone : IsLone spelling) {p later : Progress}
    (done : g.readFlag spelling p = .ok later) :
    (∃ destination text, later = p.addOccurrence destination (.value text)) ∨
      IsUncut spelling ∧ ∃ flag on, (spelling, flag, on) ∈ g.entries ∧ later = p.understood spelling flag on := by
  rw [readFlag] at done
  cases found : g.find? false (cutValue spelling.toList).1 with
  | some entry =>
    obtain ⟨flag, on⟩ := entry
    simp only [found] at done
    by_cases noEquals : '=' ∉ spelling.toList
    · right
      rw [cutValue_of_not_mem noEquals, String.ofList_toList] at found done
      refine ⟨.inl noEquals, flag, on, (mem_entries_of_find? found).1, ?_⟩
      cases takesValue : flag.takesValue with
      | true =>
        simp only [takesValue, Except.ok.injEq] at done
        simp [Progress.understood, takesValue, done]
      | false =>
        simp only [takesValue, Except.ok.injEq] at done
        simp [Progress.understood, takesValue, done]
    · left
      obtain ⟨cut, text, isCut⟩ := cutValue_of_mem (not_not.mp noEquals)
      simp only [isCut] at done
      cases takesValue : flag.takesValue with
      | false => simp [takesValue] at done
      | true =>
        simp only [takesValue, Except.ok.injEq] at done
        exact ⟨flag.destination, text, done.symm⟩
  | none =>
    right
    simp only [found] at done
    split at done
    · rename_i noMark
      obtain ⟨c, rest, notDash, isLong | isShort'⟩ := isLone
      · exfalso
        simp [isLong, marks] at noMark
      · have whole : String.ofList ['-', c] = spelling := by rw [← isShort', String.ofList_toList]
        simp only [isShort', List.head?_cons, Option.getD_some, List.tail_cons] at done
        obtain ⟨flag, on, found, rfl⟩ := (readCluster_eq_ok strict).mp done
        rw [whole] at found ⊢
        exact ⟨.inr (by simp [isShort']), flag, on, (mem_entries_of_find? found).1, rfl⟩
    · simp [strict] at done

/-! ### Command lines of one flag -/

/-- A lone argument at the beginning is read as a flag. -/
theorem read_cons (isLone : IsLone spelling) (rest : List String) : g.read (spelling :: rest) =
    match g.readFlag spelling {} with
    | .ok p => g.readFrom p rest
    | .error fault => .error fault := by
  have notEnd : spelling ≠ "--" := by
    rintro rfl
    obtain ⟨c, rest, notDash, isLong | isShort⟩ := isLone
    · cases isLong
    · exact notDash (by cases isShort; rfl)
  have isMarked : g.marks.contains (spelling.toList.take 1) = true := by
    obtain ⟨c, rest, -, isLong | isShort⟩ := isLone
    · simp [isLong, marks]
    · simp [isShort, marks]
  have isLong : 1 < spelling.length := by
    rw [← String.length_toList]
    obtain ⟨c, rest, -, isLong | isShort⟩ := isLone
    · simp [isLong]
    · simp [isShort]
  rw [read, readFrom]
  cases g.readFlag spelling {} <;>
    simp only [notEnd, if_false, isMarked, isLong, decide_true, Bool.and_self, if_true]

theorem read_valued (strict : g.lenient = false) (lone : g.AllLone) (isLone : IsLone spelling)
    (uncut : IsUncut spelling) (found : g.find? (isShort spelling) spelling = some (flag, on))
    (takesValue : flag.takesValue = true) (text : String) :
    g.read [spelling, text] = .ok ⟨[⟨flag.destination, .value text⟩], []⟩ := by
  rw [read_cons isLone, readFlag_of_find? strict lone isLone uncut found]
  simp [Progress.understood, takesValue, readFrom, Progress.addOccurrence]

theorem read_switch (strict : g.lenient = false) (lone : g.AllLone) (isLone : IsLone spelling)
    (uncut : IsUncut spelling) (found : g.find? (isShort spelling) spelling = some (flag, on))
    (isSwitch : flag.takesValue = false) :
    g.read [spelling] = .ok ⟨[⟨flag.destination, .switch on⟩], []⟩ := by
  rw [read_cons isLone, readFlag_of_find? strict lone isLone uncut found]
  simp [Progress.understood, isSwitch, readFrom, Progress.addOccurrence]

/-- A lone argument that is read by itself is a switch, or has its value behind an equals sign. -/
theorem read_single_ok (strict : g.lenient = false) (isLone : IsLone spelling) {line : CommandLine}
    (done : g.read [spelling] = .ok line) :
    (∃ destination text, line = ⟨[⟨destination, .value text⟩], []⟩) ∨
      IsUncut spelling ∧ ∃ flag on, (spelling, flag, on) ∈ g.entries ∧
        line = ⟨[⟨flag.destination, .switch on⟩], []⟩ := by
  rw [read_cons isLone] at done
  cases isRead : g.readFlag spelling {} with
  | error fault => simp [isRead] at done
  | ok p =>
    simp only [isRead] at done
    rcases readFlag_ok strict isLone isRead with ⟨destination, text, rfl⟩ | ⟨uncut, flag, on, member, rfl⟩
    · cases done
      exact .inl ⟨destination, text, rfl⟩
    · cases takesValue : flag.takesValue with
      | true => simp [Progress.understood, takesValue, readFrom] at done
      | false =>
        simp only [Progress.understood, takesValue, Bool.false_eq_true, if_false] at done
        cases done
        exact .inr ⟨uncut, flag, on, member, rfl⟩

/-- Where nothing is left over of a lone argument and a digit behind it, the digit is the value of a flag. -/
theorem read_pair_ok (strict : g.lenient = false) (interspersed : g.interspersed = true) (isLone : IsLone spelling)
    {line : CommandLine} (done : g.read [spelling, "0"] = .ok line) (nothingLeft : line.arguments = []) :
    IsUncut spelling ∧ ∃ flag on, (spelling, flag, on) ∈ g.entries ∧ flag.takesValue = true := by
  rw [read_cons isLone] at done
  cases isRead : g.readFlag spelling {} with
  | error fault => simp [isRead] at done
  | ok p =>
    simp only [isRead] at done
    have leftOver : ∀ destination given,
        g.readFrom (Progress.addOccurrence {} destination given) ["0"] ≠ .ok line := by
      intro destination given isLine
      have short : ¬ 1 < "0".length := by decide
      simp only [readFrom, Progress.addOccurrence, Progress.addArguments, interspersed, short, decide_false,
        Bool.and_false, Bool.false_eq_true, if_false, if_true, (by decide : "0" ≠ "--")] at isLine
      rw [← Except.ok.inj isLine] at nothingLeft
      cases nothingLeft
    rcases readFlag_ok strict isLone isRead with ⟨destination, text, rfl⟩ | ⟨uncut, flag, on, member, rfl⟩
    · exact absurd done (leftOver _ _)
    · cases takesValue : flag.takesValue with
      | true => exact ⟨uncut, flag, on, member, takesValue⟩
      | false =>
        simp only [Progress.understood, takesValue, Bool.false_eq_true, if_false] at done
        exact absurd done (leftOver _ _)

end Grammar

end ClientGen
