import ClientGen.Proofs.Literal.ReadBack
import ClientGen.Proofs.Servers.Entries
import ClientGen.Proofs.Text.Letters

/-!
The settings of a module read back. An assignment of a plain value is printed, and its text is read as the assignment
(`readAssignment_render`). The settings `defaults` and `servers` are plain whatever the document says, for no two servers
have one key; so the module gives back the addresses as they are, character for character (`literals_read_back`).
-/

namespace ClientGen.Literal

open ClientGen.Expr (literal)

/-- What the text of an assignment gives to its name. -/
def evaluateAssignment (text : String) : Option (String × Value) := do
  let (target, e) ← readAssignment text.toList
  return (target, ← value? e)

variable {target : String} {v : Value}

/-- The assignment of a plain value is printed, and read as it was. -/
theorem readAssignment_render (isName : Naming.isIdentifier target.toList = true)
    (unreserved : Naming.isKeyword target.toList = false) (plain : v.IsPlain) (shallow : v.nesting ≤ Expr.nestingLimit) :
    ∃ text, (Statement.assign target (literal v)).render = .ok text ∧
      readAssignment text.toList = some (target, literal v) := by
  have letters : ∀ c ∈ target.toList, Text.isIdentifierContinue c = true := by
    obtain ⟨c, rest, spelled⟩ : ∃ c rest, target.toList = c :: rest := by
      cases spelled : target.toList with
      | nil => rw [spelled] at isName; cases isName
      | cons c rest => exact ⟨c, rest, rfl⟩
    rw [spelled, Naming.isIdentifier, Bool.and_eq_true, List.all_eq_true] at isName
    rw [spelled]
    exact List.forall_mem_cons.mpr ⟨Text.isIdentifierContinue_of_start isName.1, isName.2⟩
  have rendered : (Statement.assign target (literal v)).render = .ok (target ++ " = " ++ v.written) := by
    rw [Statement.render, Statement.block, shown_literal plain]
    simp [Text.join]
  refine ⟨_, rendered, ?_⟩
  have text : (target ++ " = " ++ v.written).toList = target.toList ++ ' ' :: '=' :: ' ' :: v.written.toList := by simp
  have front : (target ++ " = " ++ v.written).toList.takeWhile Text.isIdentifierContinue = target.toList := by
    rw [text, List.takeWhile_append_of_pos letters, List.takeWhile_cons_of_neg (by decide), List.append_nil]
  have back : (target ++ " = " ++ v.written).toList.dropWhile Text.isIdentifierContinue = ' ' :: '=' :: ' ' :: v.written.toList := by
    rw [text, List.dropWhile_append_of_pos letters, List.dropWhile_cons_of_neg (by decide)]
  have value : (' ' :: v.written.toList).dropWhile (· = ' ') = v.written.toList := by
    obtain ⟨c, rest, begins, noSpace, -⟩ := (reads plain).begins
    have noBlank : ¬ c = ' ' := by
      rintro rfl
      cases noSpace
    rw [begins, List.dropWhile_cons_of_pos (by simp), List.dropWhile_cons_of_neg (by simpa using noBlank)]
  rw [readAssignment, front, back, isName, unreserved]
  simp [value, read_written plain shallow]

end ClientGen.Literal

namespace ClientGen.Head

open ClientGen.Expr (literal)
open Literal (evaluate evaluateAssignment value? read)
open Servers (optionValue)

/-- The text of a setting gives a value to the name of the setting. -/
def ReadsAs (statements : List Statement) (target : String) (v : Value) : Prop :=
  ∃ statement text, findAssignment statements target = some statement ∧ statement.render = .ok text ∧
    evaluateAssignment text = some (target, v)

theorem isPlain_defaultsValue (address : String) : (defaultsValue (.text address)).IsPlain := by
  have thirty : (Binary64.ofInt 30).IsProper :=
    (Binary64.isProper_ofRatio false 30 one_pos).resolve_right (by decide +kernel)
  have noHeaders : (Value.map []).IsPlain := ⟨trivial, List.nodup_nil⟩
  exact ⟨⟨⟨_, rfl⟩, trivial, ⟨_, rfl⟩, noHeaders, ⟨_, rfl⟩, thirty, trivial⟩, by simp⟩

theorem serversValue_eq (entries : List (String × String)) :
    serversValue entries = .map (entries.map fun entry => (.text entry.1, .text entry.2)) := by
  rw [serversValue, Value.ofFields, List.map_map]
  rfl

private theorem havePlain_addresses (entries : List (String × String)) :
    Value.HavePlain (entries.map fun entry => (Atom.text entry.1, Value.text entry.2)) := by
  induction entries with
  | nil => trivial
  | cons entry rest ih => exact ⟨⟨_, rfl⟩, trivial, ih⟩

theorem isPlain_serversValue {entries : List (String × String)} (nodup : (entries.map (·.1)).Nodup) :
    (serversValue entries).IsPlain := by
  have injective : Function.Injective Atom.text := fun _ _ same => Atom.text.inj same
  have texts : (entries.map fun entry => (Atom.text entry.1, Value.text entry.2)).map (·.1) =
      (entries.map (·.1)).map Atom.text := by
    rw [List.map_map, List.map_map]
    rfl
  rw [serversValue_eq]
  refine ⟨havePlain_addresses entries, ?_⟩
  rw [texts]
  exact nodup.map injective

theorem nesting_serversValue (entries : List (String × String)) : (serversValue entries).nesting = 1 := by
  have flat : Value.nestingOfEntries (entries.map fun entry => (Atom.text entry.1, Value.text entry.2)) = 0 := by
    induction entries with
    | nil => rfl
    | cons entry rest ih => rw [List.map_cons, Value.nestingOfEntries, ih]; rfl
  rw [serversValue_eq, Value.nesting, flat]

/-- An assigned plain value is read back from its setting. -/
theorem readsAs_of_findAssignment {statements : List Statement} {target : String} {v : Value}
    (assigned : findAssignment statements target = some (.assign target (literal v)))
    (isName : Naming.isIdentifier target.toList = true) (unreserved : Naming.isKeyword target.toList = false)
    (plain : v.IsPlain) (shallow : v.nesting ≤ Expr.nestingLimit) : ReadsAs statements target v := by
  obtain ⟨text, rendered, found⟩ := Literal.readAssignment_render isName unreserved plain shallow
  refine ⟨_, text, assigned, rendered, ?_⟩
  rw [evaluateAssignment, found]
  simp [Literal.value?_literal plain]

/-- The settings of a module are read back as they were meant: the base address, wanted or first, with empty headers and
half a minute of patience, and the addresses under their keys, in their order. So is every plain value: its expression is
the one that its text is read as, evaluates to the value, and is printed so that the value is read back. -/
theorem literals_read_back :
    (∀ (document : Value) (given : Option String) (found : List (String × String)),
      (Servers.entries document : Except Fault (List (String × String))) = .ok found →
      ∃ statements, (build document (optionValue given) : Except Fault (List Statement)) = .ok statements ∧
        ReadsAs statements "defaults" (Value.ofFields
          [("base_url", .text (given.getD ((found.head?.map (·.2)).getD ""))), ("headers", .map []),
            ("timeout", .float (Binary64.ofInt 30))]) ∧
        ReadsAs statements "servers" (Value.ofFields (found.map fun entry => (entry.1, .text entry.2)))) ∧
    ∀ v : Value, v.IsPlain → v.nesting ≤ Expr.nestingLimit →
      ∃ e, Expr.ofValue v = .ok e ∧ read v.written.toList = some e ∧ value? e = some v ∧
        ∃ text, e.shown = .ok text ∧ evaluate text = some v := by
  constructor
  · intro document given found listed
    obtain ⟨statements, built, defaults, servers⟩ := Servers.build_ok listed given
    have shallowDefaults (address : String) : (defaultsValue (.text address)).nesting ≤ Expr.nestingLimit := by
      rw [Servers.nesting_defaultsValue]
      decide
    have shallowServers : (serversValue found).nesting ≤ Expr.nestingLimit := by
      rw [nesting_serversValue]
      decide
    exact ⟨statements, built,
      readsAs_of_findAssignment defaults (by decide) (by decide) (isPlain_defaultsValue _) (shallowDefaults _),
      readsAs_of_findAssignment servers (by decide) (by decide) (isPlain_serversValue (Servers.entries_nodup listed))
        shallowServers⟩
  · intro v plain shallow
    have found := Literal.read_written plain shallow
    have evaluates := Literal.value?_literal plain
    refine ⟨literal v, if_pos shallow, found, evaluates, v.written, Literal.shown_literal plain, ?_⟩
    rw [evaluate, found]
    exact evaluates

/-- An address with quotes, a backslash, a line break, a control character, braces and a letter outside ASCII. -/
def awkwardAddress : String := "https://é.test/\x7bx\x7d?q='\"\\\n\x07"

/-- A value of every plain kind. -/
def plainSample : Value :=
  .list [.null, .bool true, .int (-12), .float (.finite true 7205759403792794 (-56)), .text awkwardAddress,
    .tuple [.int 0], .map [(.text "a", .tuple [])]]

theorem literals_read_back_awkward :
    (∃ statements, (build (Value.ofFields [("servers", .list [Value.ofFields [("url", .text awkwardAddress)]])])
        (optionValue none) : Except Fault (List Statement)) = .ok statements ∧
      ReadsAs statements "servers" (Value.ofFields [("server1", .text awkwardAddress)])) ∧
    ∃ e, Expr.ofValue plainSample = .ok e ∧ value? e = some plainSample := by
  have listed : (Servers.entries (Value.ofFields [("servers", .list [Value.ofFields [("url", .text awkwardAddress)]])]) :
      Except Fault (List (String × String))) = .ok [("server1", awkwardAddress)] := by decide +kernel
  have writable : ∀ n ∈ ([-12, 0] : List Int), (Atom.int n).isWritable = true := by decide +kernel
  have tenth : Binary64.IsNormal 7205759403792794 (-56) := ⟨by norm_num, by decide, by decide, .inl (by norm_num)⟩
  have single : (Value.tuple [.int 0]).IsPlain := ⟨writable 0 (by decide), trivial⟩
  have mapping : (Value.map [(.text "a", .tuple [])]).IsPlain := ⟨⟨⟨_, rfl⟩, trivial, trivial⟩, List.nodup_singleton _⟩
  have plain : plainSample.IsPlain :=
    ⟨trivial, trivial, writable (-12) (by decide), tenth, trivial, single, mapping, trivial⟩
  obtain ⟨statements, built, -, servers⟩ := literals_read_back.1 _ none _ listed
  obtain ⟨e, isLiteral, -, evaluates, -⟩ := literals_read_back.2 plainSample plain (by decide)
  exact ⟨⟨statements, built, servers⟩, e, isLiteral, evaluates⟩

end ClientGen.Head
