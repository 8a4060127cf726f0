import ClientGen.Proofs.Reading
import ClientGen.Proofs.Sameness
import ClientGen.Servers
import Mathlib.Algebra.Group.Int.Defs

/-!
Addresses of servers that are made from templates. A template consists of literal text and of placeholders, and
the scan finds these parts again and nothing else (`pieces_written`). So the address is what the parts become, one
behind the other: a default that is put in is not looked at again, and it does not matter in which order the
variables are declared (`url_of_template`). Only a default that holds a number of too many digits cannot be put in
(`unwritable_default`).
-/

namespace ClientGen.Servers

/-- A part of a template as its author sees it: literal text, or the name of a variable in braces. -/
inductive Part where
  | literal (text : String)
  | placeholder (name : String)
  deriving DecidableEq, Repr

/-- A text without braces. -/
def Braceless (text : String) : Prop := ∀ c ∈ text.toList, Naming.isBrace c = false

instance (text : String) : Decidable (Braceless text) :=
  List.decidableBAll (Naming.isBrace · = false) text.toList

namespace Part

/-- A part as it stands in the template. -/
def written : Part → String
  | literal text => text
  | placeholder name => "\x7b" ++ name ++ "\x7d"

/-- Braces stand around names only, and a name has a character at least. -/
def IsProper : Part → Prop
  | literal text => Braceless text
  | placeholder name => name ≠ "" ∧ Braceless name

instance : (part : Part) → Decidable part.IsProper
  | literal text => inferInstanceAs (Decidable (Braceless text))
  | placeholder name => inferInstanceAs (Decidable (name ≠ "" ∧ Braceless name))

/-- The default of the variable that a part names. -/
def default? (table : List (Atom × Value)) : Part → Option Value
  | literal _ => none
  | placeholder name => (Entries.field? table name).bind (·.field? "default")

/-- What a part becomes: the text of its default, or what stands there where there is none. -/
def filled (table : List (Atom × Value)) (part : Part) : String :=
  ((part.default? table).map Value.displayed).getD part.written

/-- A part that can be filled: its default has a text. -/
def Fills (table : List (Atom × Value)) (part : Part) : Prop :=
  ∀ v ∈ part.default? table, v.isWritable = true

instance (table : List (Atom × Value)) (part : Part) : Decidable (part.Fills table) :=
  inferInstanceAs (Decidable (∀ v ∈ part.default? table, v.isWritable = true))

/-- The pieces that the scan should find. -/
def pieces : Part → List Piece
  | literal text => plain text.toList
  | placeholder name => [.variable name.toList]

end Part

/-- The template that consists of some parts. -/
def templateOf (parts : List Part) : String := String.join (parts.map Part.written)

/-- The address that a template becomes. -/
def addressOf (table : List (Atom × Value)) (parts : List Part) : String :=
  String.join (parts.map (Part.filled table))

/-- A server with a template of some parts and a table of variables, each of which is a mapping. -/
structure HasTemplate (server : Value) (table : List (Atom × Value)) (parts : List Part) : Prop where
  isMap : server.shape.isMap = true
  template : server.field? "url" = some (.text (templateOf parts))
  declared : (server.field? "variables").getD (.map []) = .map table
  mappings : ∀ entry ∈ table, entry.2.shape.isMap = true
  proper : ∀ part ∈ parts, part.IsProper

/-! ### The scan -/

theorem pieces_literal {cs : List Char} (unopened : '\x7b' ∉ cs) (rest : List Char) :
    pieces none (cs ++ rest) = plain cs ++ pieces none rest := by
  induction cs with
  | nil => rfl
  | cons c cs ih =>
    rw [List.mem_cons, not_or] at unopened
    obtain ⟨first, others⟩ := unopened
    rw [List.cons_append, pieces, if_neg (Ne.symm first), ih others]
    rfl

/-- Behind an opening brace everything up to the next closing one is collected. -/
theorem pieces_opened {cs : List Char} (unclosed : '\x7d' ∉ cs) (done rest : List Char) (some : done ++ cs ≠ []) :
    pieces (.some done) (cs ++ '\x7d' :: rest) = .variable (done ++ cs) :: pieces none rest := by
  induction cs generalizing done with
  | nil =>
    rw [List.append_nil] at some ⊢
    simp [pieces, some]
  | cons c cs ih =>
    rw [List.mem_cons, not_or] at unclosed
    obtain ⟨first, others⟩ := unclosed
    rw [List.cons_append, pieces, if_neg (Ne.symm first), ih others (done ++ [c]) (by simp), List.append_assoc]
    rfl

theorem pieces_part {part : Part} (proper : part.IsProper) (rest : List Char) :
    pieces none (part.written.toList ++ rest) = part.pieces ++ pieces none rest := by
  cases part with
  | literal text =>
    refine pieces_literal (fun opens => ?_) rest
    exact absurd (proper _ opens) (by decide)
  | placeholder name =>
    have unclosed : '\x7d' ∉ name.toList := fun closes => absurd (proper.2 _ closes) (by decide)
    have named : name.toList ≠ [] := by simpa using proper.1
    have spelled : (Part.placeholder name).written.toList ++ rest = '\x7b' :: (name.toList ++ '\x7d' :: rest) := by
      simp [Part.written]
    rw [spelled, pieces, if_pos rfl, pieces_opened unclosed [] rest named]
    rfl

/-- The scan cuts a template into its parts. -/
theorem pieces_written {parts : List Part} (proper : ∀ part ∈ parts, part.IsProper) :
    pieces none (templateOf parts).toList = parts.flatMap Part.pieces := by
  rw [templateOf, String.toList_join]
  induction parts with
  | nil => rfl
  | cons part rest ih =>
    rw [List.map_cons, List.flatMap_cons, pieces_part (proper part List.mem_cons_self),
      ih fun other member => proper other (List.mem_cons_of_mem part member), List.flatMap_cons]

/-! ### What the parts become -/

section

variable {table : List (Atom × Value)}

/-- The text of a part, if its default may be written. -/
def Part.shown (table : List (Atom × Value)) (part : Part) : Except Fault String :=
  match part.default? table with
  | some v => v.shown
  | none => .ok part.written

theorem pieceTexts_append (declared : Option Value) (first second : List Piece) :
    (pieceTexts declared (first ++ second) : Except Fault (List Char)) = do
      let front ← pieceTexts declared first
      return front ++ (← pieceTexts declared second) := by
  induction first with
  | nil =>
    simp only [List.nil_append, pieceTexts, except_pure, except_bind_ok]
    cases (pieceTexts declared second : Except Fault (List Char)) <;> rfl
  | cons piece first ih =>
    simp only [List.cons_append, pieceTexts, ih]
    cases (pieceText declared piece : Except Fault (List Char)) with
    | error fault => rfl
    | ok text =>
      simp only [except_bind_ok]
      cases (pieceTexts declared first : Except Fault (List Char)) with
      | error fault => rfl
      | ok front =>
        simp only [except_bind_ok, except_pure]
        cases (pieceTexts declared second : Except Fault (List Char)) with
        | error fault => rfl
        | ok behind => simp

theorem pieceTexts_plain (declared : Option Value) (cs : List Char) :
    (pieceTexts declared (plain cs) : Except Fault (List Char)) = .ok cs := by
  induction cs with
  | nil => rfl
  | cons c cs ih =>
    rw [plain, List.map_cons, pieceTexts, ← plain, ih]
    rfl

/-- A variable becomes its default, or stays as it stands where it is not declared or has none. -/
theorem pieceText_variable (mappings : ∀ entry ∈ table, entry.2.shape.isMap = true) (name : String) :
    (pieceText ((some (Value.map table)).filter Value.truthy) (.variable name.toList) : Except Fault (List Char)) =
      ((Part.placeholder name).shown table).map String.toList := by
  have kept : '\x7b' :: name.toList ++ ['\x7d'] = (Part.placeholder name).written.toList := by simp [Part.written]
  simp only [pieceText, kept, String.ofList_toList]
  cases listed : (some (Value.map table)).filter Value.truthy with
  | none =>
    have empty : table = [] := by
      cases table with
      | nil => rfl
      | cons first rest => cases listed
    subst empty
    rfl
  | some node =>
    obtain rfl : Value.map table = node := Option.some.inj (Option.filter_eq_some_iff.mp listed).1
    have stated : (fieldOf (Value.map table) name : Except Fault (Option Value)) = .ok (Entries.field? table name) := rfl
    dsimp only
    rw [stated, except_bind_ok, ifTrue_except, except_bind_ok]
    cases found : Entries.field? table name with
    | none => simp [Part.shown, Part.default?, found, Except.map]
    | some variable' =>
      obtain ⟨entry, isEntry, rfl⟩ := Option.map_eq_some_iff.mp found
      have isMap := mappings entry (List.mem_of_find?_eq_some isEntry)
      cases truthy : entry.2.truthy with
      | false =>
        have empty : (some entry.2).filter Value.truthy = none := by simp [Option.filter_some, truthy]
        have nothing := field?_of_falsy truthy "default"
        rw [empty]
        simp [Part.shown, Part.default?, found, Except.map, nothing]
      | true =>
        have asked := fieldOf_of_isMap isMap "default"
        simp only [Option.filter_some, truthy, ↓reduceIte, asked, except_bind_ok]
        cases default' : entry.2.field? "default" with
        | none => simp [Part.shown, Part.default?, found, Except.map, default']
        | some v =>
          simp only [Part.shown, Part.default?, found, Option.bind_some, default', whole_except, except_bind_ok]
          cases v.shown <;> rfl

/-- What a part becomes. -/
theorem pieceTexts_part (mappings : ∀ entry ∈ table, entry.2.shape.isMap = true) (part : Part) :
    (pieceTexts ((some (Value.map table)).filter Value.truthy) part.pieces : Except Fault (List Char)) =
      (part.shown table).map String.toList := by
  cases part with
  | literal text => exact pieceTexts_plain _ text.toList
  | placeholder name =>
    rw [Part.pieces, pieceTexts, pieceText_variable mappings]
    cases (Part.placeholder name).shown table with
    | error fault => rfl
    | ok text => simp [pieceTexts, Except.map]

/-- What several parts become, one behind the other. -/
theorem pieceTexts_parts (mappings : ∀ entry ∈ table, entry.2.shape.isMap = true) (parts : List Part) :
    (pieceTexts ((some (Value.map table)).filter Value.truthy) (parts.flatMap Part.pieces) :
        Except Fault (List Char)) =
      (parts.mapM (Part.shown table)).map fun texts => (String.join texts).toList := by
  induction parts with
  | nil => rfl
  | cons part rest ih =>
    rw [List.flatMap_cons, pieceTexts_append, pieceTexts_part mappings, ih, List.mapM_cons]
    cases part.shown table with
    | error fault => rfl
    | ok text =>
      cases rest.mapM (Part.shown table) with
      | error fault => rfl
      | ok texts => simp [Except.map, String.toList_join]

/-- The address of a server is its template with the pieces put in the place of variables. -/
theorem url_of_declared {server : Value} (isMap : server.shape.isMap = true)
    (declared : (server.field? "variables").getD (.map []) = .map table) :
    (url server : Except Fault String) = do
      let template ← ((server.field? "url").map Value.shown).getD (.ok "")
      return String.ofList
        (← pieceTexts ((some (Value.map table)).filter Value.truthy) (pieces none template.toList)) := by
  have asked : (server.field? "variables").filter Value.truthy = (some (Value.map table)).filter Value.truthy := by
    cases stated : server.field? "variables" with
    | none =>
      rw [stated] at declared
      cases declared
      rfl
    | some v =>
      rw [stated] at declared
      cases declared
      rfl
  rw [url, fieldOf_of_isMap isMap, except_bind_ok, ifTrue_except, except_bind_ok, asked, fieldOf_of_isMap isMap,
    except_bind_ok]
  cases server.field? "url" with
  | none => rfl
  | some node => simp only [whole_except, lift_except, except_bind_ok, Option.map_some, Option.getD_some]

/-- The address of a server is what the parts of its template become. -/
theorem url_eq {server : Value} {parts : List Part} (templated : HasTemplate server table parts) :
    (url server : Except Fault String) = (parts.mapM (Part.shown table)).map String.join := by
  have text : (Value.text (templateOf parts)).shown = .ok (templateOf parts) := rfl
  rw [url_of_declared templated.isMap templated.declared, templated.template, Option.map_some, Option.getD_some, text,
    except_bind_ok, pieces_written templated.proper, pieceTexts_parts templated.mappings]
  cases parts.mapM (Part.shown table) with
  | error fault => rfl
  | ok texts =>
    have joined : String.ofList (String.join texts).toList = String.join texts := String.ofList_toList
    simp only [Except.map, except_bind_ok, except_pure, joined]

/-- Where every part can be filled, all of them are. -/
theorem mapM_shown_of_fills {parts : List Part} (fills : ∀ part ∈ parts, part.Fills table) :
    parts.mapM (Part.shown table) = .ok (parts.map (Part.filled table)) := by
  induction parts with
  | nil => rfl
  | cons part rest ih =>
    have first : part.shown table = .ok (part.filled table) := by
      unfold Part.shown Part.filled
      cases stated : part.default? table with
      | none => rfl
      | some v => exact shown_of_isWritable (fills part List.mem_cons_self v stated)
    rw [List.mapM_cons, first, ih fun other member => fills other (List.mem_cons_of_mem part member)]
    rfl

/-- A part that cannot be filled is the only obstacle. -/
theorem mapM_shown_of_not_fills {parts : List Part} (stuck : ¬∀ part ∈ parts, part.Fills table) :
    parts.mapM (Part.shown table) = .error .tooManyDigits := by
  induction parts with
  | nil => exact absurd nofun stuck
  | cons part rest ih =>
    rw [List.mapM_cons, Part.shown]
    cases stated : part.default? table with
    | none =>
      have here : part.Fills table := by simp [Part.Fills, stated]
      rw [ih fun fills => stuck (List.forall_mem_cons.mpr ⟨here, fills⟩)]
      rfl
    | some v =>
      by_cases writable : v.isWritable = true
      · have here : part.Fills table := by simp [Part.Fills, stated, writable]
        dsimp only
        rw [shown_of_isWritable writable, ih fun fills => stuck (List.forall_mem_cons.mpr ⟨here, fills⟩)]
        rfl
      · simp only [Value.shown, if_neg writable]
        rfl

/-- The address of a server is its template with every placeholder replaced by the default of its variable, and with
all else as it stands; what is put in is not looked at again. It is refused if a default that is needed holds a
number of too many digits. The order in which variables are declared does not matter. -/
theorem url_of_template {server : Value} {parts : List Part} (templated : HasTemplate server table parts) :
    ((∀ part ∈ parts, part.Fills table) → (url server : Except Fault String) = .ok (addressOf table parts)) ∧
    ((¬∀ part ∈ parts, part.Fills table) → (url server : Except Fault String) = .error .tooManyDigits) ∧
    ∀ (other : Value) (reordered : List (Atom × Value)), HasTemplate other reordered parts →
      table.Perm reordered → (table.map (·.1)).Nodup → (url other : Except Fault String) = url server := by
  refine ⟨fun fills => ?_, fun stuck => ?_, fun other reordered templatedToo perm nodup => ?_⟩
  · rw [url_eq templated, mapM_shown_of_fills fills]
    rfl
  · rw [url_eq templated, mapM_shown_of_not_fills stuck]
    rfl
  · have sameDefaults : Part.shown reordered = Part.shown table := by
      funext part
      have same : part.default? reordered = part.default? table := by
        cases part with
        | literal text => rfl
        | placeholder name => rw [Part.default?, Part.default?, Entries.field?_of_perm perm nodup]
      rw [Part.shown, Part.shown, same]
    rw [url_eq templated, url_eq templatedToo, sameDefaults]

end

/-- Variables one of which has a placeholder of another in its default. -/
def nestedVariables : List (Atom × Value) :=
  [(.text "host", .ofFields [("default", .text "\x7bregion\x7d.example.com")]),
    (.text "region", .ofFields [("default", .text "eu")]), (.text "port", .ofFields [])]

/-- A template with variables that are declared with and without a default, and one that is not declared. -/
def nestedTemplate : List Part :=
  [.literal "https://", .placeholder "host", .literal ":", .placeholder "port", .literal "/", .placeholder "region",
    .placeholder "version"]

/-- A server with this template. -/
def nestedServer (table : List (Atom × Value)) : Value :=
  .ofFields [("url", .text (templateOf nestedTemplate)), ("variables", .map table)]

theorem url_of_template_nested :
    templateOf nestedTemplate = "https://\x7bhost\x7d:\x7bport\x7d/\x7bregion\x7d\x7bversion\x7d" ∧
    (url (nestedServer nestedVariables) : Except Fault String) =
      .ok "https://\x7bregion\x7d.example.com:\x7bport\x7d/eu\x7bversion\x7d" ∧
    (url (nestedServer nestedVariables.reverse) : Except Fault String) = url (nestedServer nestedVariables) := by
  have templated : ∀ table : List (Atom × Value), (∀ entry ∈ table, entry.2.shape.isMap = true) →
      HasTemplate (nestedServer table) table nestedTemplate := by
    intro table mappings
    exact ⟨rfl, rfl, rfl, mappings, by decide⟩
  have forwards := templated nestedVariables (by decide)
  have backwards := templated nestedVariables.reverse (by decide)
  obtain ⟨filled, -, independent⟩ := url_of_template forwards
  refine ⟨by decide, ?_, ?_⟩
  · rw [filled (by decide)]
    decide
  · exact independent _ _ backwards (List.reverse_perm _).symm (by decide)

/-- A default of too many digits for a text. -/
def unwritableDefault : List (Atom × Value) := [(.text "port", .ofFields [("default", .int (10 ^ 4300))])]

/-- A default that is a number of too many digits cannot be put in, and there is no address. -/
theorem unwritable_default :
    ¬ ∀ (server : Value) (table : List (Atom × Value)) (parts : List Part), HasTemplate server table parts →
      (url server : Except Fault String) = .ok (addressOf table parts) := by
  intro always
  have templated : HasTemplate (.ofFields [("url", .text "\x7bport\x7d"), ("variables", .map unwritableDefault)])
      unwritableDefault [.placeholder "port"] := by
    refine ⟨rfl, ?_, rfl, by decide, by decide⟩
    have spelled : templateOf [.placeholder "port"] = "\x7bport\x7d" := by decide
    rw [spelled]
    rfl
  have filled := always _ _ _ templated
  rw [url_eq templated, mapM_shown_of_not_fills (by decide +kernel)] at filled
  cases filled

end ClientGen.Servers
