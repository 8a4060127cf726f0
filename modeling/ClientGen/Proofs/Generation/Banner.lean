import ClientGen.Proofs.Generation.Module
import ClientGen.Proofs.Naming

/-!
What stands in front of a module. A module's text is a header of comment lines, the source and a line break, whatever
title and version the document states, exactly as long as no line of theirs but the first can be read as code
(`commented_iff_sheltered`). Line breaks are not escaped: a title with one puts its second line into the module
(`line_break_escapes`).
-/

namespace ClientGen

namespace Text

variable {separator : Char → Bool}

theorem fields_ne_nil (text : List Char) : fields separator text ≠ [] := by
  cases text with
  | nil => exact List.cons_ne_nil _ _
  | cons c text =>
    rw [fields]
    split
    · exact List.cons_ne_nil _ _
    · split <;> exact List.cons_ne_nil _ _

/-- A separator ends the pieces of what is in front of it. -/
theorem fields_append_separator (first : List Char) {c : Char} {rest : List Char} (separates : separator c = true) :
    fields separator (first ++ c :: rest) = fields separator first ++ fields separator rest := by
  induction first with
  | nil => simp [fields, separates]
  | cons d first ih =>
    rw [List.cons_append, fields, fields, ih]
    split
    · rw [List.cons_append]
    · cases pieces : fields separator first with
      | nil => exact absurd pieces (fields_ne_nil first)
      | cons piece pieces => rfl

/-- Text without a separator stands in front of the first piece. -/
theorem fields_append_left {first : List Char} (none : ∀ c ∈ first, separator c = false) (rest : List Char) :
    ∃ piece, fields separator (first ++ rest) = (first ++ piece) :: (fields separator rest).tail := by
  induction first with
  | nil =>
    cases pieces : fields separator rest with
    | nil => exact absurd pieces (fields_ne_nil rest)
    | cons piece others => exact ⟨piece, pieces⟩
  | cons c first ih =>
    obtain ⟨piece, equal⟩ := ih fun d member => none d (List.mem_cons_of_mem c member)
    refine ⟨piece, ?_⟩
    rw [List.cons_append, fields, none c List.mem_cons_self, equal]
    rfl

theorem trimEnd_append (p : Char → Bool) (first rest : List Char) :
    trimEnd p (first ++ rest) = if trimEnd p rest = [] then trimEnd p first else first ++ trimEnd p rest := by
  simp only [trimEnd, List.reverse_append, List.dropWhile_append, List.reverse_eq_nil_iff, List.isEmpty_iff]
  split
  · rfl
  · rw [List.reverse_append, List.reverse_reverse]

end Text

namespace Generation

/-- A notion of what ends a line. Only blanks do, and the space does not. -/
structure LineBreaks where
  breaks : Char → Bool
  newline : breaks '\n' = true
  blank : ∀ c, breaks c = true → Text.isBlank c = true
  space : breaks ' ' = false

namespace LineBreaks

/-- What ends a line of a module that is compiled. -/
def ofSource : LineBreaks where
  breaks c := c = '\n' || c = '\r'
  newline := rfl
  blank c ends := by
    rcases Bool.or_eq_true .. |>.mp ends with isNewline | isReturn
    · rw [of_decide_eq_true isNewline]
      rfl
    · rw [of_decide_eq_true isReturn]
      rfl
  space := rfl

end LineBreaks

/-- A line that is empty or a comment. -/
def IsComment (line : List Char) : Prop := line = [] ∨ line.head? = some '#'

instance (line : List Char) : Decidable (IsComment line) := inferInstanceAs (Decidable (_ ∨ _))

section

variable (ends : LineBreaks)

/-- The lines of a text. -/
def linesOf (text : List Char) : List (List Char) := Text.fields ends.breaks text

/-- Text of whole lines, each of them empty or a comment. -/
def IsCommentBlock (text : List Char) : Prop :=
  (linesOf ends text).getLast? = some [] ∧ ∀ line ∈ linesOf ends text, IsComment line

/-- A module's text is a block of comments, the source and a line break. -/
def IsCommented (source contents : String) : Prop :=
  ∃ header, contents = header ++ source ++ "\n" ∧ IsCommentBlock ends header.toList

/-- What a document states about itself, as it stands in the first line of a module. -/
def statedText (title version : String) : List Char := Text.trimEnd Text.isBlank (title ++ " " ++ version).toList

/-- No line of what a document states but the first can be read as code. -/
def IsSheltered (title version : String) : Prop :=
  ∀ line ∈ (linesOf ends (statedText title version)).tail, IsComment line

instance (title version : String) : Decidable (IsSheltered ends title version) :=
  inferInstanceAs (Decidable (∀ line ∈ _, IsComment line))

variable {ends}

theorem not_breaks {c : Char} (noBlank : Text.isBlank c = false) : ends.breaks c = false := by
  rw [← Bool.not_eq_true]
  intro breaks
  rw [ends.blank c breaks] at noBlank
  cases noBlank

theorem unbroken_of_printed {text : List Char}
    (printed : (text.all fun c => c = ' ' || !Text.isBlank c) = true) : ∀ c ∈ text, ends.breaks c = false := by
  intro c member
  rcases Bool.or_eq_true .. |>.mp (List.all_eq_true.mp printed c member) with isSpace | noBlank
  · rw [of_decide_eq_true isSpace, ends.space]
  · exact not_breaks (by simpa using noBlank)

variable (ends)

/-- The first line of a module begins as a comment; its other lines are those of what the document states. -/
theorem linesOf_banner (title version : String) :
    ∃ first, linesOf ends (banner title version).toList =
      ('#' :: first) :: (linesOf ends (statedText title version)).tail := by
  have unbroken : ∀ c ∈ "# Generated by specgen from ".toList, ends.breaks c = false :=
    unbroken_of_printed (by decide +kernel)
  have opened : (banner title version).toList =
      Text.trimEnd Text.isBlank ("# Generated by specgen from ".toList ++ (title ++ " " ++ version).toList) := by
    simp only [banner, Text.stripEnd, String.toList_ofList, String.toList_append, List.append_assoc]
  rw [opened, Text.trimEnd_append]
  split
  · rename_i none
    refine ⟨" Generated by specgen from".toList, ?_⟩
    rw [linesOf, Text.fields_of_none (unbroken_of_printed (by decide +kernel)), linesOf, statedText, none]
    rfl
  · obtain ⟨piece, equal⟩ := Text.fields_append_left unbroken (statedText title version)
    exact ⟨" Generated by specgen from ".toList ++ piece, equal⟩

/-- The lines in front of the source. -/
def header (title version : String) : String := banner title version ++ "\n# Do not edit by hand.\n\n"

theorem linesOf_header (title version : String) :
    linesOf ends (header title version).toList =
      linesOf ends (banner title version).toList ++ ["# Do not edit by hand.".toList, [], []] := by
  have unbroken : ∀ c ∈ "# Do not edit by hand.".toList, ends.breaks c = false :=
    unbroken_of_printed (by decide +kernel)
  have notice : Text.fields ends.breaks ("# Do not edit by hand.".toList ++ '\n' :: ['\n']) =
      ["# Do not edit by hand.".toList, [], []] := by
    rw [Text.fields_append unbroken ends.newline]
    simp [Text.fields, ends.newline]
  have opened : (header title version).toList =
      (banner title version).toList ++ '\n' :: ("# Do not edit by hand.".toList ++ '\n' :: ['\n']) := by
    rw [header, String.toList_append]
    rfl
  rw [opened, linesOf, Text.fields_append_separator _ ends.newline, notice, linesOf]

theorem commentBlock_header (title version : String) :
    IsCommentBlock ends (header title version).toList ↔ IsSheltered ends title version := by
  obtain ⟨first, lines⟩ := linesOf_banner ends title version
  rw [IsCommentBlock, linesOf_header, lines, IsSheltered]
  constructor
  · rintro ⟨-, comments⟩ line member
    exact comments line (List.mem_append_left _ (List.mem_cons_of_mem _ member))
  · intro sheltered
    refine ⟨by rw [List.getLast?_append]; rfl, fun line member => ?_⟩
    simp only [List.cons_append, List.mem_cons, List.mem_append, List.not_mem_nil, or_false] at member
    rcases member with rfl | stated | rfl | rfl | rfl
    · exact .inr rfl
    · exact sheltered line stated
    · exact .inr (by decide +kernel)
    · exact .inl rfl
    · exact .inl rfl

theorem commented_fileText (title version source : String) :
    IsCommented ends source (fileText title version source) ↔ IsSheltered ends title version := by
  rw [← commentBlock_header]
  constructor
  · rintro ⟨front, equal, block⟩
    rw [fileText, ← header, String.append_left_inj, String.append_left_inj] at equal
    rwa [equal]
  · exact fun block => ⟨header title version, rfl, block⟩

/-- A title and a version without line breaks cannot be read as code. -/
theorem sheltered_of_unbroken {title version : String} (titled : ∀ c ∈ title.toList, ends.breaks c = false)
    (versioned : ∀ c ∈ version.toList, ends.breaks c = false) : IsSheltered ends title version := by
  have unbroken : ∀ c ∈ statedText title version, ends.breaks c = false := by
    intro c member
    have isIn := (Text.trimEnd_sublist Text.isBlank _).subset member
    rw [String.toList_append, String.toList_append, List.mem_append, List.mem_append] at isIn
    rcases isIn with (inTitle | isSpace) | inVersion
    · exact titled c inTitle
    · rw [show " ".toList = [' '] from rfl, List.mem_singleton] at isSpace
      rw [isSpace, ends.space]
    · exact versioned c inVersion
  rw [IsSheltered, linesOf, Text.fields_of_none unbroken]
  exact nofun

end

/-! ### Documents -/

section

variable {ν : Type} [Reading ν Run]

/-- The title and the version that a document states, or what stands for them. -/
def statedIn (document : ν) : Run (String × String) := do
  let info ← ifTrue (← fieldOf document "info")
  return (← infoText info "title" "API", ← infoText info "version" "")

/-- Rendering fails with the module, or with what the document states about itself. -/
theorem on_render (document : ν) (world : World) :
    (render document : Run String).on world =
      match Statement.renderModule world.draft.toList with
      | .error fault => (.error (.output (.unrenderable fault.message)), world)
      | .ok source =>
        match (statedIn document).on world with
        | (.ok (title, version), later) => (.ok (fileText title version source), later)
        | (.error fault, later) => (.error fault, later) := by
  have drafted : Run.on (liftM (do return (← get).draft.toList : Run (List Statement)) : Run (List Statement)) world =
      (.ok world.draft.toList, world) := rfl
  have stated (source : String) :
      (do
        let info ← ifTrue (← fieldOf document "info")
        return fileText (← infoText info "title" "API") (← infoText info "version" "") source : Run String) =
      (do
        let texts ← statedIn document
        return fileText texts.1 texts.2 source) := by
    simp only [statedIn, bind_assoc, pure_bind]
  rw [render, Run.on_bind, drafted]
  dsimp only
  cases Statement.renderModule world.draft.toList with
  | error fault => rw [Run.on_bind, Run.on_throw]
  | ok source =>
    dsimp only
    rw [pure_bind, stated, Run.on_bind]
    rcases (statedIn document).on world with ⟨fault | texts, later⟩ <;> rfl

/-- A rendered module is comment lines, the source and a line break exactly if the title and the version that the
document states are sheltered, whatever else the document holds and whatever the statements are. -/
theorem commented_iff_sheltered (ends : LineBreaks) {document : ν} {world later : World} {title version source : String}
    (stated : (statedIn document).on world = (.ok (title, version), later))
    (renders : Statement.renderModule world.draft.toList = .ok source) :
    ∃ contents, (render document : Run String).on world = (.ok contents, later) ∧
      (IsCommented ends source contents ↔ IsSheltered ends title version) := by
  refine ⟨fileText title version source, ?_, commented_fileText ends title version source⟩
  rw [on_render, renders, stated]

end

theorem on_fieldOf {v found : Value} {name : String} (hasField : v.field? name = some found) (world : World) :
    (fieldOf v name : Run (Option Value)).on world = (.ok (some found), world) := by
  cases v with
  | map entries => exact congrArg (fun found => (Except.ok found, world)) hasField
  | _ => cases hasField

theorem infoText_of_text {info : Value} {name text : String} (isText : info.field? name = some (.text text))
    (default : String) (world : World) : (infoText (some info) name default : Run String).on world = (.ok text, world) := by
  rw [infoText, Run.on_bind, on_fieldOf isText]
  rfl

/-- Any texts can be stated as title and version. -/
theorem statedIn_of_texts {document info : Value} {title version : String}
    (hasInfo : document.field? "info" = some info) (isTitle : info.field? "title" = some (.text title))
    (isVersion : info.field? "version" = some (.text version)) (world : World) :
    (statedIn document).on world = (.ok (title, version), world) := by
  have truthy : info.truthy = true := by
    rw [← Bool.not_eq_false]
    intro falsy
    rw [field?_of_falsy falsy] at isTitle
    cases isTitle
  have isInfo : (ifTrue (some info) : Run (Option Value)).on world = (.ok (some info), world) := by
    have isTrue : (isTrue (some info) : Run Bool).on world = (.ok info.truthy, world) := rfl
    rw [ifTrue, Run.on_bind, isTrue, truthy]
    rfl
  rw [statedIn, Run.on_bind, on_fieldOf hasInfo]
  dsimp only
  rw [Run.on_bind, isInfo]
  dsimp only
  rw [Run.on_bind, infoText_of_text isTitle]
  dsimp only
  rw [Run.on_bind, infoText_of_text isVersion]
  rfl

/-- A document with a title of two lines. -/
def splitTitle : Value :=
  .map [(.text "info", .map [(.text "title", .text "a\nimport os"), (.text "version", .text "1")])]

/-- A document whose title has a comment behind a line break, and whose version ends with one. -/
def commentedTitle : Value :=
  .map [(.text "info", .map [(.text "title", .text "Pets\n# and owners"), (.text "version", .text "1\n")])]

/-- A world with a module of one type. -/
def withPet : World := { draft := ({} : Draft).appendAll [.assign "Pet" (.name "str")] }

theorem commented_iff_sheltered_commentedTitle :
    ∃ contents, (render commentedTitle : Run String).on withPet = (.ok contents, withPet) ∧
      IsCommented LineBreaks.ofSource "Pet = str" contents := by
  have stated := statedIn_of_texts (show commentedTitle.field? "info" = some _ from rfl) rfl rfl withPet
  obtain ⟨contents, rendered, commented⟩ := commented_iff_sheltered LineBreaks.ofSource stated rfl
  exact ⟨contents, rendered, commented.mpr (by decide +kernel)⟩

theorem line_break_escapes :
    ¬ ∀ (document : Value) (world : World) (source contents : String),
      Statement.renderModule world.draft.toList = .ok source →
      ((render document : Run String).on world).1 = .ok contents → IsCommented LineBreaks.ofSource source contents := by
  intro always
  have rendered : ((render splitTitle : Run String).on {}).1 = .ok (fileText "a\nimport os" "1" "") := by
    rw [on_render, statedIn_of_texts rfl rfl rfl]
    rfl
  have sheltered := (commented_fileText ..).mp (always splitTitle {} "" _ rfl rendered)
  exact absurd sheltered (by decide +kernel)

end Generation

end ClientGen
