import ClientGen.Plugin.Parameters
import ClientGen.Proofs.Flags.Reading
import ClientGen.Proofs.Naming
import ClientGen.Proofs.Reading
import ClientGen.Proofs.Settings.Record

/-!
Options of plugins as parts of a command line. An option is plain if it can be asked for by all of its flags: its name
does not end in a line break, none of its flags is cut by a slash or an equals sign or is two dashes only, and its
declared default can be converted. A plain option becomes a parameter with just its own flags (`ofSpec_of_plain`).
Reading succeeds exactly if every flag begins with a mark, the grammar understands all arguments, what is given and
what is declared can be converted, and nothing is left over (`read_eq_ok`).
-/

namespace ClientGen

namespace OptionSpec

/-- The name is one that options may have. -/
def IsNamed (o : OptionSpec) : Prop := FieldRule.isOptionName o.name.toList = true

/-- The parameter of an option whose flags are taken as they are. -/
def parameter (o : OptionSpec) : Parameter :=
  ⟨⟨o.destination, o.flags, [], o.kind ≠ .boolean⟩, o.kind, o.default, Parameter.cleanHelp o.help⟩

/-- Neither the name nor a flag nor the default stands in the way of the option being used. -/
structure IsPlain (o : OptionSpec) : Prop where
  name : o.name.toList.getLast? ≠ some '\n'
  flags : ∀ flag ∈ o.flags, flag ≠ "--" ∧ '/' ∉ flag.toList ∧ Flag.IsUncut flag
  default : o.parameter.checkDefault = .ok ()

variable {o : OptionSpec}

private theorem checkOptionName_ok {given v : Value} (done : FieldRule.checkOptionName given = .ok v) :
    ∃ name, v = .text name ∧ FieldRule.isOptionName name.toList = true := by
  unfold FieldRule.checkOptionName FieldRule.checkText at done
  split at done
  · simp only [bind, Except.bind] at done
    split at done
    · rename_i isName
      cases done
      exact ⟨_, rfl, by simpa using isName⟩
    · cases done
  · cases done

/-- What is read as an option has a name. -/
theorem isNamed_of_ofValue {v : Value} (done : ofValue v = .ok o) : o.IsNamed := by
  unfold ofValue at done
  cases given : Field.recordEntries "OptionSpec" v with
  | error violations => simp [given, bind, Except.bind] at done
  | ok entries =>
    cases read : Field.readAll entries fields with
    | error violations => simp [given, read, bind, Except.bind] at done
    | ok known =>
      simp only [given, read, bind, Except.bind, pure, Except.pure, Except.ok.injEq] at done
      obtain ⟨w, isName, holds⟩ := Field.read_of_readAll read (by decide) (List.mem_cons_self : _ ∈ fields)
      rw [Field.read_eq_ok] at holds
      unfold Field.Holds at holds
      split at holds
      · obtain ⟨name, rfl, accepted⟩ := checkOptionName_ok holds
        rw [valueAt] at isName
        rw [← done, IsNamed, isName]
        exact accepted
      · cases holds

/-- A name begins with a letter, and has nothing but letters, digits, low lines and dashes up to a line break. -/
theorem IsNamed.toList_eq (named : o.IsNamed) : ∃ c rest, o.name.toList = c :: rest ∧
    (Text.isAsciiLower c || Text.isAsciiUpper c) = true ∧
      (o.name.toList.getLast? ≠ some '\n' → ∀ d ∈ rest, (Text.isWord d || d = '_' || d = '-') = true) := by
  unfold IsNamed FieldRule.isOptionName at named
  by_cases broken : o.name.toList.getLast? = some '\n'
  · simp only [broken, if_true] at named
    split at named
    · cases named
    · rename_i c rest isBody
      rw [Bool.and_eq_true] at named
      have isName := List.dropLast_append_getLast? _ broken
      rw [isBody] at isName
      exact ⟨c, rest ++ ['\n'], isName.symm, named.1, fun unbroken => absurd broken unbroken⟩
  · simp only [broken, if_false] at named
    split at named
    · cases named
    · rename_i c rest isName
      rw [Bool.and_eq_true, List.all_eq_true] at named
      exact ⟨c, rest, isName, named.1, fun _ => named.2⟩

/-- The first character behind the dashes of an alias is no dash. -/
theorem flagOf_eq (alias' : String) : flagOf alias' = "--" ∨ ∃ c rest, c ≠ '-' ∧
    (alias'.toList.dropWhile (· = '-') = c :: rest) ∧
      ((flagOf alias').toList = '-' :: '-' :: c :: rest ∨ rest = [] ∧ (flagOf alias').toList = ['-', c]) := by
  unfold flagOf
  cases bare : alias'.toList.dropWhile (· = '-') with
  | nil => exact .inl rfl
  | cons c rest =>
    have notDash : c ≠ '-' := by
      have first := List.head_dropWhile_not (fun c => decide (c = '-')) (bare ▸ List.cons_ne_nil c rest)
      simpa [bare] using first
    refine .inr ⟨c, rest, notDash, rfl, ?_⟩
    cases rest with
    | nil => exact .inr ⟨rfl, by simp⟩
    | cons d rest => exact .inl (by simp)

/-- A flag that is not two dashes begins like one. -/
theorem isLone_of_mem_flags (named : o.IsNamed) {flag : String} (member : flag ∈ o.flags) (notEnd : flag ≠ "--") :
    Flag.IsLone flag := by
  rcases List.mem_cons.mp member with rfl | isAlias
  · obtain ⟨c, rest, isName, isLetter, -⟩ := named.toList_eq
    refine ⟨c, rest, ?_, .inl ?_⟩
    · rintro rfl
      cases isLetter
    · simp [isName]
  · obtain ⟨alias', -, rfl⟩ := List.mem_map.mp isAlias
    rcases flagOf_eq alias' with isEnd | ⟨c, rest, notDash, -, isLong | ⟨-, isShort⟩⟩
    · exact absurd isEnd notEnd
    · exact ⟨c, rest, notDash, .inl isLong⟩
    · exact ⟨c, rest, notDash, .inr isShort⟩

end OptionSpec

namespace Parameter

variable {o : OptionSpec} {p : Parameter}

theorem cutNegative_of_not_mem {spelling : String} (uncut : '/' ∉ spelling.toList) :
    cutNegative spelling = (spelling, none) := by
  have nothing : spelling.toList.dropWhile (· ≠ '/') = [] := by
    rw [List.dropWhile_eq_nil_iff]
    intro c member
    have notSlash : c ≠ '/' := fun same => uncut (same ▸ member)
    simpa using notSlash
  simp only [cutNegative, nothing]

/-- In front of the first slash there is none. -/
theorem slash_not_mem_cutNegative (spelling : String) : '/' ∉ (cutNegative spelling).1.toList := by
  unfold cutNegative
  dsimp only
  split
  · rename_i nothing
    rw [List.dropWhile_eq_nil_iff] at nothing
    intro member
    simpa using nothing '/' member
  · intro member
    have front : (Text.stripEnd (String.ofList (spelling.toList.takeWhile (· ≠ '/')))).toList <+:
        spelling.toList.takeWhile (· ≠ '/') := by
      rw [Text.stripEnd, String.toList_ofList, String.toList_ofList, Text.trimEnd, ← List.reverse_suffix,
        List.reverse_reverse]
      exact List.dropWhile_suffix _
    simpa using List.mem_takeWhile_imp (front.subset member)

/-- What a parameter has of its option. -/
structure IsOf (o : OptionSpec) (p : Parameter) : Prop where
  destination : p.flag.destination = o.destination
  takesValue : p.flag.takesValue = true ↔ o.kind ≠ .boolean
  kind : p.kind = o.kind
  default : p.default = o.default
  isName : isName o.destination = true
  spellings : ∀ spelling ∈ p.flag.spellings, '/' ∉ spelling.toList
  negatives : o.kind ≠ .boolean → p.flag.negatives = []

theorem isOf_of_ofSpec (done : ofSpec o = .ok p) : IsOf o p := by
  unfold ofSpec at done
  dsimp only at done
  split at done
  · cases done
  · by_cases isName' : isName o.destination = true
    · simp only [isName', Bool.false_eq_true, if_false, Bool.not_true] at done
      split at done
      · cases done
      · rename_i negatives
        cases done
        refine ⟨rfl, by simp, rfl, rfl, isName', ?_, ?_⟩
        · intro spelling member
          obtain ⟨cut, isCut, rfl⟩ := List.mem_map.mp (List.mem_of_mem_filter member)
          obtain ⟨flag, -, rfl⟩ := List.mem_map.mp isCut
          exact slash_not_mem_cutNegative flag
        · intro takesValue
          simpa [takesValue] using negatives
    · simp only [isName', Bool.not_false, if_true] at done
      cases done

/-- The name of a plain option can be bound once its dashes are low lines. -/
theorem isName_of_plain (named : o.IsNamed) (plain : o.IsPlain) : isName o.destination = true := by
  obtain ⟨c, rest, isName', isLetter, words⟩ := named.toList_eq
  have isWord : Text.isWord c = true := by
    rw [Text.isWord, isLetter, Bool.true_or]
  have notDash : c ≠ '-' := by
    rintro rfl
    cases isLetter
  have destination : o.destination.toList = c :: rest.map fun d => if d = '-' then '_' else d := by
    rw [OptionSpec.destination, String.toList_ofList, isName', List.map_cons, if_neg notDash]
  unfold isName
  rw [destination]
  simp only [Bool.and_eq_true, List.all_map, List.all_eq_true, Function.comp_apply]
  refine ⟨?_, fun d member => ?_⟩
  · rw [Text.isIdentifierStart, if_pos (Text.isAscii_of_isWord isWord), isLetter, Bool.true_or]
  · have word := words plain.name d member
    simp only [Bool.or_eq_true, decide_eq_true_eq] at word
    rcases word with (isWord | rfl) | rfl
    · have notDash : d ≠ '-' := by
        rintro rfl
        cases isWord
      rw [if_neg notDash, Text.isIdentifierContinue, if_pos (Text.isAscii_of_isWord isWord), isWord, Bool.true_or]
    · decide
    · decide

theorem ofSpec_of_plain (named : o.IsNamed) (plain : o.IsPlain) : ofSpec o = .ok o.parameter := by
  have cut : o.flags.map cutNegative = o.flags.map (·, none) :=
    List.map_congr_left fun flag member => cutNegative_of_not_mem (plain.flags flag member).2.1
  have filled : (o.flags.filter fun s => !s.isEmpty) = o.flags := by
    rw [List.filter_eq_self]
    intro flag member
    have filled : flag ≠ "" := by
      rintro rfl
      obtain ⟨c, rest, -, isLong | isShort⟩ := OptionSpec.isLone_of_mem_flags named member (plain.flags _ member).1
      · cases isLong
      · cases isShort
    simpa using filled
  unfold ofSpec
  simp only [cut, isName_of_plain named plain]
  simp [filled, Function.comp_def, OptionSpec.parameter, pure, Except.pure]

/-! ### Reading -/

variable {parameters : List Parameter} {args : List String} {values : List (String × Value)}

/-- What it takes for arguments to be read. -/
structure Reads (parameters : List Parameter) (args : List String) (line : CommandLine)
    (values : List (String × Value)) : Prop where
  isUsable : (Grammar.mk (parameters.map (·.flag)) false true).isUsable = true
  read : (Grammar.mk (parameters.map (·.flag)) false true).read args = .ok line
  given : readGiven parameters line line.destinations = .ok values
  defaults : ∀ p ∈ parameters, p.flag.destination ∉ line.destinations → p.checkDefault = .ok ()
  nothingLeft : line.arguments = []

/-- One default after the other is checked, and none is let through that fails. -/
private theorem checks_eq_ok (wanted : Parameter → Bool) :
    (forIn parameters PUnit.unit fun p _ => if wanted p = true then do
        p.checkDefault
        pure (ForInStep.yield PUnit.unit)
      else pure (ForInStep.yield PUnit.unit) : Except Fault PUnit) = .ok PUnit.unit ↔
      ∀ p ∈ parameters, wanted p = true → p.checkDefault = .ok () := by
  induction parameters with
  | nil => simp [forIn, pure, Except.pure]
  | cons p rest ih =>
    rw [List.forIn_cons, List.forall_mem_cons, ← ih]
    cases isWanted : wanted p with
    | false => simp [bind, Except.bind, pure, Except.pure]
    | true => cases checked : p.checkDefault <;> simp [bind, Except.bind, pure, Except.pure]

theorem read_eq_ok : Parameter.read parameters args = .ok values ↔ ∃ line, Reads parameters args line values := by
  unfold Parameter.read
  dsimp only
  cases isUsable : (Grammar.mk (parameters.map (·.flag)) false true).isUsable with
  | false =>
    refine iff_of_false (by simp [bind, Except.bind]) ?_
    rintro ⟨line, reads⟩
    cases isUsable.symm.trans reads.isUsable
  | true =>
    simp only [Bool.not_true, Bool.false_eq_true, if_false]
    cases isLine : (Grammar.mk (parameters.map (·.flag)) false true).read args with
    | error fault =>
      refine iff_of_false (by simp [bind, Except.bind]) ?_
      rintro ⟨line, reads⟩
      cases isLine.symm.trans reads.read
    | ok line =>
      simp only [pure_bind, bind_eq_ok]
      constructor
      · rintro ⟨given, isGiven, _, checked, done⟩
        have defaults := (checks_eq_ok fun p => !line.destinations.contains p.flag.destination).mp checked
        split at done
        · cases done
        · rename_i nothingLeft
          cases done
          refine ⟨line, isUsable, isLine, isGiven, fun p member absent => defaults p member ?_, ?_⟩
          · simpa using absent
          · simpa using nothingLeft
      · rintro ⟨other, reads⟩
        obtain rfl := Except.ok.inj (reads.read.symm.trans isLine)
        refine ⟨values, reads.given, PUnit.unit, ?_, ?_⟩
        · refine (checks_eq_ok fun p => !other.destinations.contains p.flag.destination).mpr fun p member absent => ?_
          exact reads.defaults p member (by simpa using absent)
        · rw [reads.nothingLeft]
          rfl

/-- The value of the only flag of a command line. -/
theorem readGiven_single {destination : String} {given : Given} :
    readGiven parameters ⟨[⟨destination, given⟩], []⟩ [destination] =
      match parameters.find? fun p => p.flag.destination = destination with
      | some p => (p.ofGiven given).map fun v => [(destination, v)]
      | none => .ok [] := by
  have last : CommandLine.last? ⟨[⟨destination, given⟩], []⟩ destination = some given := by simp [CommandLine.last?]
  unfold readGiven
  rw [last]
  cases parameters.find? fun p => p.flag.destination = destination with
  | none => rfl
  | some p =>
    dsimp only
    cases p.ofGiven given <;> rfl

/-- Which texts can be converted is a matter of the kind. -/
theorem ofText_congr {p q : Parameter} (kind : p.kind = q.kind) {text : String} {v : Value} :
    p.ofText text = .ok v ↔ q.ofText text = .ok v := by
  unfold ofText
  rw [kind]
  cases q.kind with
  | string => exact Iff.rfl
  | boolean => exact Iff.rfl
  | integer => cases Number.limitedWhole? text.toList <;> simp
  | number => cases Number.real? text.toList <;> simp

/-- Which defaults can be converted is a matter of the kind. -/
theorem checkDefault_congr {p q : Parameter} (kind : p.kind = q.kind) (default : p.default = q.default)
    (checked : p.checkDefault = .ok ()) : q.checkDefault = .ok () := by
  have texts : ∀ text v, p.ofText text = .ok v → q.ofText text = .ok v := fun text v => (ofText_congr kind).mp
  unfold checkDefault at checked ⊢
  rw [kind, default] at checked
  generalize q.kind = k, q.default = v at checked ⊢
  split at checked
  case h_5 =>
    obtain ⟨w, read, -⟩ := bind_eq_ok.mp checked
    exact bind_eq_ok.mpr ⟨w, texts _ w read, rfl⟩
  case h_6 bytes _ _ =>
    cases isNumeral : numeral? bytes with
    | none => simp [isNumeral] at checked
    | some text =>
      cases read : p.ofText text with
      | error fault => simp [isNumeral, read] at checked
      | ok w => simp [texts text w read]
  case h_9 => cases checked
  all_goals exact checked

theorem ofGiven_of_readGiven {destination name : String} {given : Given} {v : Value}
    (done : readGiven parameters ⟨[⟨destination, given⟩], []⟩ [destination] = .ok [(name, v)]) :
    ∃ p : Parameter, p.ofGiven given = .ok v := by
  rw [readGiven_single] at done
  split at done
  · rename_i p _
    cases converted : p.ofGiven given with
    | error fault => simp [converted, Except.map] at done
    | ok w =>
      simp only [converted, Except.map, Except.ok.injEq, List.cons.injEq, Prod.mk.injEq, and_true] at done
      exact ⟨p, by rw [converted, done.2]⟩
  · cases done

/-- A text never stands for a truth value. -/
theorem ofText_ne_bool (p : Parameter) (text : String) (b : Bool) : p.ofText text ≠ .ok (.bool b) := by
  unfold ofText
  split
  · exact nofun
  · exact nofun
  · split <;> exact nofun
  · split <;> exact nofun

/-- Zero stands for a value of every kind. -/
theorem exists_ofText_zero (p : Parameter) : ∃ v, p.ofText "0" = .ok v := by
  unfold ofText
  cases p.kind <;> exact ⟨_, rfl⟩

/-- A name that can be bound once its dashes are low lines does not end in a line break. -/
theorem unbroken_of_isName (done : isName o.destination = true) : o.name.toList.getLast? ≠ some '\n' := by
  intro broken
  have inName : '\n' ∈ o.name.toList := List.mem_of_getLast? broken
  have inDestination : '\n' ∈ o.destination.toList := by
    rw [OptionSpec.destination, String.toList_ofList]
    exact List.mem_map.mpr ⟨'\n', inName, by decide⟩
  unfold isName at done
  split at done
  · cases done
  · rename_i c rest spelled
    rw [Bool.and_eq_true, List.all_eq_true] at done
    rw [spelled] at inDestination
    rcases List.mem_cons.mp inDestination with rfl | later
    · exact absurd done.1 (by decide)
    · exact absurd (done.2 _ later) (by decide)

end Parameter

end ClientGen
