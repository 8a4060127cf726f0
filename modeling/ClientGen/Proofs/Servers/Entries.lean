import ClientGen.Head
import ClientGen.Proofs.Number.Digits
import ClientGen.Proofs.Operation.ArgumentNames
import ClientGen.Proofs.Servers.Template

/-!
The servers of a document. Each member of the list that is a mapping has an entry of its own, in the order of the
list. Its key is the first free one of those that are made from its description or its place (`IsFirstFree`); the
search for it ends, since the keys that it tries grow longer and longer and only finitely many are taken
(`freeKey_isFirstFree`). So no two servers share a key, and the base address of the module is the first address
(`servers_kept`). An address that is a number of too many digits has no text, and then there are no entries at all
(`unwritable_address`).
-/

namespace ClientGen.Servers

/-- The members of a list that count as servers. -/
def mappings (servers : List Value) : List Value := servers.filter fun server => server.shape.isMap

/-- A wanted key with the index appended to it several times. -/
def suffixed (index : Nat) (wanted : String) : Nat → String
  | 0 => wanted
  | n + 1 => suffixed index (wanted ++ "_" ++ toString index) n

/-- The first key that is not taken of those that the search tries one after the other. -/
def IsFirstFree (taken : List String) (index : Nat) (wanted key : String) : Prop :=
  ∃ n, key = suffixed index wanted n ∧ key ∉ taken ∧ ∀ k < n, suffixed index wanted k ∈ taken

/-- The keys of servers: each server asks for a key, and gets the first form of it that is free. Every member of the
list counts, also those that are no servers. -/
inductive Keyed : List String → Nat → List Value → List String → Prop
  | nil (taken : List String) (index : Nat) : Keyed taken index [] []
  | other {taken : List String} {index : Nat} {member : Value} {rest : List Value} {keys : List String}
    (noServer : member.shape.isMap = false) (others : Keyed taken (index + 1) rest keys) :
    Keyed taken index (member :: rest) keys
  | server {taken : List String} {index : Nat} {server : Value} {rest : List Value} {wanted key : String}
    {keys : List String} (isServer : server.shape.isMap = true)
    (asks : (wantedKey server index : Except Fault String) = .ok wanted)
    (isFree : IsFirstFree taken index wanted key) (others : Keyed (taken ++ [key]) (index + 1) rest keys) :
    Keyed taken index (server :: rest) (key :: keys)

/-- A description is a text, and every variable is a mapping. -/
structure WellFormed (server : Value) : Prop where
  described : ∀ v, server.field? "description" = some v → ∃ text, v = .text text
  variables' : ∀ v, server.field? "variables" = some v →
    ∃ table, v = .map table ∧ ∀ entry ∈ table, entry.2.shape.isMap = true

/-- The table of the variables of a server. -/
def tableOf (server : Value) : List (Atom × Value) :=
  match server.field? "variables" with
  | some (.map table) => table
  | _ => []

/-- The template of a server, where it has a text. -/
def templateText (server : Value) : String := ((server.field? "url").map Value.displayed).getD ""

/-- A piece that can be put in: the default of its variable has a text. -/
def Suits (table : List (Atom × Value)) : Piece → Prop
  | .char _ => True
  | .variable name => (Part.placeholder (String.ofList name)).Fills table

/-- A server whose address has a text: neither its template nor a default that the template needs is a number of too
many digits. -/
structure Printable (server : Value) : Prop where
  template : ∀ v, server.field? "url" = some v → v.isWritable = true
  defaults : ∀ piece ∈ pieces none (templateText server).toList, Suits (tableOf server) piece

/-- What the generated language takes for a name. -/
def IsBindable (name : String) : Prop := Naming.isIdentifier name.toList = true ∧ Naming.isKeyword name.toList = false

/-- The option for the base address, as the program holds it. -/
def optionValue : Option String → Value
  | some text => .text text
  | none => .null

/-- Every server has its entry. -/
structure Complete (document : Value) (servers : List Value) (keys addresses : List String) : Prop where
  keyed : Keyed [] 1 servers keys
  addressed : List.Forall₂ (fun server address => (url server : Except Fault String) = .ok address) (mappings servers)
    addresses
  length : keys.length = addresses.length
  entries : (entries document : Except Fault (List (String × String))) = .ok (keys.zip addresses)
  nodup : keys.Nodup
  bindable : ∀ key ∈ keys, IsBindable key
  base : ∀ given : Option String, ∃ statements,
    (Head.build document (optionValue given) : Except Fault (List Statement)) = .ok statements ∧
    Head.findAssignment statements "defaults" =
      some (.assign "defaults" (Expr.literal (Head.defaultsValue (.text (given.getD (addresses.head?.getD ""))))))

/-! ### The search for a key -/

theorem length_suffixed (index : Nat) (wanted : String) (n : Nat) :
    (suffixed index wanted n).length = wanted.length + n * (1 + (toString index).length) := by
  induction n generalizing wanted with
  | zero => simp [suffixed]
  | succ n ih =>
    have one : "_".length = 1 := rfl
    rw [suffixed, ih, String.length_append, String.length_append, one, Nat.succ_mul]
    omega

theorem suffixed_injective {index : Nat} {wanted : String} {j k : Nat}
    (same : suffixed index wanted j = suffixed index wanted k) : j = k := by
  have lengths := congrArg String.length same
  rw [length_suffixed, length_suffixed, Nat.add_left_cancel_iff] at lengths
  exact Nat.eq_of_mul_eq_mul_right (by omega) lengths

/-- The search ends at a form that is free, or it has tried as many taken ones as it may. -/
theorem freeKey_eq (taken : List String) (index fuel : Nat) (wanted : String) :
    ∃ n, freeKey taken index fuel wanted = suffixed index wanted n ∧ (∀ k < n, suffixed index wanted k ∈ taken) ∧
      (suffixed index wanted n ∉ taken ∨ n = fuel) := by
  induction fuel generalizing wanted with
  | zero => exact ⟨0, rfl, nofun, .inr rfl⟩
  | succ fuel ih =>
    rw [freeKey]
    split
    · rename_i isTaken
      obtain ⟨n, found, before, ends⟩ := ih (wanted ++ "_" ++ toString index)
      refine ⟨n + 1, found, fun k bound => ?_, ends.imp_right (congrArg (· + 1))⟩
      cases k with
      | zero => simpa [suffixed] using isTaken
      | succ k => exact before k (Nat.lt_of_succ_lt_succ bound)
    · rename_i isFree
      exact ⟨0, rfl, nofun, .inl (by simpa [suffixed] using isFree)⟩

/-- The search ends at the first free form. -/
theorem freeKey_isFirstFree (taken : List String) (index : Nat) (wanted : String) :
    IsFirstFree taken index wanted (freeKey taken index (taken.length + 1) wanted) := by
  obtain ⟨n, found, before, isFree | exhausted⟩ := freeKey_eq taken index (taken.length + 1) wanted
  · exact ⟨n, found, found ▸ isFree, before⟩
  · have few := Operation.le_length_of_injective (fun _ _ => suffixed_injective) before
    omega

/-! ### The address of a server -/

theorem WellFormed.declared {server : Value} (formed : WellFormed server) :
    (server.field? "variables").getD (.map []) = .map (tableOf server) := by
  rw [tableOf]
  cases stated : server.field? "variables" with
  | none => rfl
  | some v =>
    obtain ⟨table, rfl, -⟩ := formed.variables' v stated
    rfl

theorem WellFormed.mappings {server : Value} (formed : WellFormed server) : ∀ entry ∈ tableOf server, entry.2.shape.isMap = true := by
  rw [tableOf]
  cases stated : server.field? "variables" with
  | none => exact nofun
  | some v =>
    obtain ⟨table, rfl, mappings⟩ := formed.variables' v stated
    exact mappings

section

variable {table : List (Atom × Value)} (mappings : ∀ entry ∈ table, entry.2.shape.isMap = true)

include mappings

theorem pieceText_cases (piece : Piece) :
    ((∃ text, (pieceText ((some (Value.map table)).filter Value.truthy) piece : Except Fault (List Char)) = .ok text) ∧
      Suits table piece) ∨
    ((pieceText ((some (Value.map table)).filter Value.truthy) piece : Except Fault (List Char)) =
      .error .tooManyDigits ∧ ¬Suits table piece) := by
  match piece with
  | .char c => exact .inl ⟨⟨[c], rfl⟩, trivial⟩
  | .variable name =>
    have becomes := pieceText_variable mappings (String.ofList name)
    rw [String.toList_ofList] at becomes
    rw [becomes, Suits, Part.Fills, Part.shown]
    cases (Part.placeholder (String.ofList name)).default? table with
    | none => exact .inl ⟨⟨_, rfl⟩, by simp⟩
    | some v =>
      by_cases writable : v.isWritable = true
      · refine .inl ⟨⟨v.displayed.toList, ?_⟩, by simpa using writable⟩
        simp only [shown_of_isWritable writable, Except.map]
      · refine .inr ⟨?_, by simpa using writable⟩
        simp only [Value.shown, if_neg writable, Except.map]

/-- Pieces become text exactly if each of them can be put in; nothing else goes wrong. -/
theorem pieceTexts_cases (found : List Piece) :
    ((∃ text, (pieceTexts ((some (Value.map table)).filter Value.truthy) found : Except Fault (List Char)) = .ok text) ∧
      ∀ piece ∈ found, Suits table piece) ∨
    ((pieceTexts ((some (Value.map table)).filter Value.truthy) found : Except Fault (List Char)) =
      .error .tooManyDigits ∧ ¬∀ piece ∈ found, Suits table piece) := by
  induction found with
  | nil => exact .inl ⟨⟨[], rfl⟩, nofun⟩
  | cons piece rest ih =>
    rw [pieceTexts, List.forall_mem_cons]
    obtain ⟨⟨first, isFirst⟩, suits⟩ | ⟨stuck, unsuited⟩ := pieceText_cases mappings piece
    · rw [isFirst, except_bind_ok]
      obtain ⟨⟨others, areOthers⟩, suit⟩ | ⟨stuck, unsuited⟩ := ih
      · rw [areOthers]
        exact .inl ⟨⟨first ++ others, rfl⟩, suits, suit⟩
      · rw [stuck]
        exact .inr ⟨rfl, fun all => unsuited all.2⟩
    · rw [stuck]
      exact .inr ⟨rfl, fun all => unsuited all.1⟩

end

/-- A server has an address exactly if the address has a text; nothing else goes wrong. -/
theorem url_cases {server : Value} (isMap : server.shape.isMap = true) (formed : WellFormed server) :
    ((∃ address, (url server : Except Fault String) = .ok address) ∧ Printable server) ∨
    ((url server : Except Fault String) = .error .tooManyDigits ∧ ¬Printable server) := by
  have put : ∀ template, ((server.field? "url").map Value.shown).getD (.ok "") = .ok template →
      templateText server = template → (∀ v, server.field? "url" = some v → v.isWritable = true) →
      ((∃ address, (url server : Except Fault String) = .ok address) ∧ Printable server) ∨
        ((url server : Except Fault String) = .error .tooManyDigits ∧ ¬Printable server) := by
    intro template shown same writable
    rw [url_of_declared isMap formed.declared, shown, except_bind_ok, ← same]
    obtain ⟨⟨text, become⟩, suit⟩ | ⟨stuck, unsuited⟩ :=
      pieceTexts_cases formed.mappings (pieces none (templateText server).toList)
    · rw [become]
      exact .inl ⟨⟨String.ofList text, rfl⟩, writable, suit⟩
    · rw [stuck]
      exact .inr ⟨rfl, fun printable => unsuited printable.defaults⟩
  cases stated : server.field? "url" with
  | none => exact put "" (by rw [stated]; rfl) (by rw [templateText, stated]; rfl) (by simp [stated])
  | some v =>
    by_cases writable : v.isWritable = true
    · refine put v.displayed ?_ ?_ ?_
      · rw [stated, Option.map_some, Option.getD_some, shown_of_isWritable writable]
      · rw [templateText, stated, Option.map_some, Option.getD_some]
      · rintro other isOther
        obtain rfl : v = other := Option.some.inj (stated.symm.trans isOther)
        exact writable
    · refine .inr ⟨?_, fun printable => writable (printable.template v stated)⟩
      rw [url_of_declared isMap formed.declared, stated, Option.map_some, Option.getD_some, Value.shown, if_neg writable]
      rfl

/-! ### Keys -/

/-- A place in the list as a key. -/
theorem isArgumentName_numbered (index : Nat) : Naming.IsArgumentName ("server" ++ toString index) := by
  have spelled : ("server" ++ toString index).toList = "server".toList ++ (toString index).toList := String.toList_append
  have small : ∀ c ∈ "server".toList, Text.isAsciiLower c = true := List.all_eq_true.mp (by decide)
  constructor
  · rw [spelled]
    intro c member
    rcases List.mem_append.mp member with inside | digit
    · exact .inl (small c inside)
    · exact .inr (.inl (Number.isAsciiDigit_toString c digit))
  · rw [spelled]
    exact Naming.beginsSnake_append (by decide) _
  · have none : ∀ word ∈ Naming.keywords, word.toList.head? ≠ some 's' := by decide +kernel
    rw [Naming.isKeyword, List.any_eq_false]
    intro word isWord same
    refine none word isWord ?_
    rw [of_decide_eq_true same, spelled]
    rfl

/-- A server with a text for a description asks for a key that can be bound as a name. -/
theorem wantedKey_ok {server : Value} (isMap : server.shape.isMap = true) (formed : WellFormed server) (index : Nat) :
    ∃ wanted, (wantedKey server index : Except Fault String) = .ok wanted ∧ Naming.IsArgumentName wanted := by
  have numbered := isArgumentName_numbered index
  rw [wantedKey, fieldOf_of_isMap isMap, except_bind_ok, ifTrue_except, except_bind_ok]
  cases stated : (server.field? "description").filter Value.truthy with
  | none => exact ⟨_, rfl, numbered⟩
  | some v =>
    obtain ⟨text, rfl⟩ := formed.described v (Option.filter_eq_some_iff.mp stated).1
    have begins : ("server" ++ toString index).toList = 's' :: ("erver".toList ++ (toString index).toList) := by simp
    obtain ⟨wanted, named⟩ := Naming.snakeCase_ok text (List.ne_nil_of_mem (begins ▸ List.mem_cons_self))
    refine ⟨wanted, ?_, Naming.isArgumentName_snakeCase numbered.snake ⟨'s', _, begins, .inl (by decide)⟩ named⟩
    simp only [shape_except, Value.shape_atom, except_bind_ok, describedKey, named, lift_except]

theorem isArgumentName_suffixed {index : Nat} {wanted : String} (isName : Naming.IsArgumentName wanted) (n : Nat) :
    Naming.IsArgumentName (suffixed index wanted n) := by
  induction n generalizing wanted with
  | zero => exact isName
  | succ n ih =>
    have extended : wanted ++ "_" ++ toString index = wanted ++ String.ofList ('_' :: (toString index).toList) := by
      apply String.toList_injective
      simp
    rw [suffixed, extended]
    exact ih (isName.extend fun c digit => .inr (.inl (Number.isAsciiDigit_toString c digit)))

section

variable {taken keys : List String} {index : Nat} {servers : List Value}

/-- Keys differ from each other and from those that were taken before. -/
theorem Keyed.fresh (keyed : Keyed taken index servers keys) : keys.Nodup ∧ ∀ key ∈ keys, key ∉ taken := by
  induction keyed with
  | nil => exact ⟨.nil, nofun⟩
  | other _ _ ih => exact ih
  | server _ _ isFree _ ih =>
    obtain ⟨nodup, fresh⟩ := ih
    obtain ⟨-, -, free, -⟩ := isFree
    refine ⟨List.nodup_cons.mpr ⟨fun again => ?_, nodup⟩, List.forall_mem_cons.mpr ⟨free, fun key member => ?_⟩⟩
    · exact fresh _ again (by simp)
    · exact fun before => fresh key member (List.mem_append_left _ before)

/-- Keys can be bound as names. -/
theorem Keyed.bindable (keyed : Keyed taken index servers keys) (formed : ∀ server ∈ mappings servers, WellFormed server) :
    ∀ key ∈ keys, IsBindable key := by
  induction keyed with
  | nil => exact nofun
  | other noServer _ ih =>
    refine ih fun server member => formed server ?_
    rwa [mappings, List.filter_cons_of_neg (by simp [noServer])]
  | @server taken index first rest wanted key keys isServer asks isFree _ ih =>
    have listed : mappings (first :: rest) = first :: mappings rest := List.filter_cons_of_pos isServer
    rw [listed, List.forall_mem_cons] at formed
    obtain ⟨other, asksToo, isName⟩ := wantedKey_ok isServer formed.1 index
    obtain rfl : wanted = other := Except.ok.inj (asks.symm.trans asksToo)
    obtain ⟨n, rfl, -, -⟩ := isFree
    have isName := @isArgumentName_suffixed index _ isName n
    exact List.forall_mem_cons.mpr ⟨⟨isName.isIdentifier, isName.unreserved⟩, ih formed.2⟩

/-- The servers of a list are collected behind the entries that there are already: with a key of its own each, if every
address has a text, and not at all otherwise. -/
theorem collect_cases {servers : List Value} (formed : ∀ server ∈ mappings servers, WellFormed server)
    (done : List (String × String)) (index : Nat) :
    (∃ keys addresses, Keyed (done.map (·.1)) index servers keys ∧
      List.Forall₂ (fun server address => (url server : Except Fault String) = .ok address) (mappings servers) addresses ∧
      keys.length = addresses.length ∧
      (collect done index servers : Except Fault (List (String × String))) = .ok (done ++ keys.zip addresses) ∧
      ∀ server ∈ mappings servers, Printable server) ∨
    ((collect done index servers : Except Fault (List (String × String))) = .error .tooManyDigits ∧
      ¬∀ server ∈ mappings servers, Printable server) := by
  induction servers generalizing done index with
  | nil => exact .inl ⟨[], [], .nil _ _, .nil, rfl, by rw [List.zip_nil_left, List.append_nil]; rfl, nofun⟩
  | cons first rest ih =>
    rw [collect, shape_except, except_bind_ok]
    by_cases isServer : first.shape.isMap = true
    · have listed : mappings (first :: rest) = first :: mappings rest := List.filter_cons_of_pos isServer
      rw [listed, List.forall_mem_cons] at formed ⊢
      rw [if_pos isServer]
      obtain ⟨wanted, asks, -⟩ := wantedKey_ok isServer formed.1 index
      have isFree := freeKey_isFirstFree (done.map (·.1)) index wanted
      rw [List.length_map] at isFree
      rw [asks, except_bind_ok]
      dsimp only
      generalize freeKey (done.map (·.1)) index (done.length + 1) wanted = key at isFree
      obtain ⟨⟨address, isAddress⟩, printable⟩ | ⟨stuck, unprintable⟩ := url_cases isServer formed.1
      · rw [isAddress, except_bind_ok]
        have taken : (done ++ [(key, address)]).map (·.1) = done.map (·.1) ++ [key] := by simp
        obtain ⟨keys, addresses, keyed, addressed, length, collected, others⟩ | ⟨stuck, unprintable⟩ :=
          ih formed.2 (done ++ [(key, address)]) (index + 1)
        · rw [taken] at keyed
          refine .inl ⟨key :: keys, address :: addresses, .server isServer asks isFree keyed, .cons isAddress addressed,
            congrArg (· + 1) length, ?_, printable, others⟩
          rw [collected, List.append_assoc]
          rfl
        · exact .inr ⟨stuck, fun all => unprintable all.2⟩
      · rw [stuck]
        exact .inr ⟨rfl, fun all => unprintable all.1⟩
    · have listed : mappings (first :: rest) = mappings rest := List.filter_cons_of_neg isServer
      rw [listed] at formed ⊢
      rw [if_neg isServer]
      obtain ⟨keys, addresses, keyed, addressed, length, collected, printable⟩ | stuck := ih formed done (index + 1)
      · exact .inl ⟨keys, addresses, .other (by simpa using isServer) keyed, addressed, length, collected, printable⟩
      · exact .inr stuck

theorem nesting_defaultsValue (address : String) : (Head.defaultsValue (.text address)).nesting = 2 := by
  simp [Head.defaultsValue, Value.ofFields, Value.nesting, Value.nestingOfEntries]

/-- The head of the module is built whenever there are entries, with the wanted base address or the first one. -/
theorem build_ok {document : Value} {found : List (String × String)}
    (listed : (entries document : Except Fault (List (String × String))) = .ok found) (given : Option String) :
    ∃ statements, (Head.build document (optionValue given) : Except Fault (List Statement)) = .ok statements ∧
      Head.findAssignment statements "defaults" = some (.assign "defaults"
        (Expr.literal (Head.defaultsValue (.text (given.getD ((found.head?.map (·.2)).getD "")))))) ∧
      Head.findAssignment statements "servers" =
        some (.assign "servers" (Expr.literal (Head.serversValue found))) := by
  have chosen : Head.chooseBase (optionValue given) found = .text (given.getD ((found.head?.map (·.2)).getD "")) := by
    cases given <;> rfl
  have shallow : ∀ base : String, Expr.ofValue (Head.defaultsValue (.text base)) =
      .ok (Expr.literal (Head.defaultsValue (.text base))) := by
    intro base
    rw [Expr.ofValue, if_pos (by rw [nesting_defaultsValue]; decide)]
  refine ⟨Head.statements (Expr.literal (Head.defaultsValue (.text (given.getD ((found.head?.map (·.2)).getD "")))))
    (Expr.literal (Head.serversValue found)), ?_, rfl, rfl⟩
  rw [Head.build, listed, except_bind_ok]
  simp only [chosen, shallow, lift_except, except_bind_ok, except_pure]

/-- However the servers look, no two entries that are collected have one key. -/
theorem collect_nodup {servers : List Value} {done found : List (String × String)} {index : Nat}
    (distinct : (done.map (·.1)).Nodup)
    (collected : (collect done index servers : Except Fault (List (String × String))) = .ok found) :
    (found.map (·.1)).Nodup := by
  induction servers generalizing done index with
  | nil =>
    obtain rfl : done = found := Except.ok.inj collected
    exact distinct
  | cons server rest ih =>
    rw [collect, shape_except, except_bind_ok] at collected
    split at collected
    · cases asks : (wantedKey server index : Except Fault String) with
      | error e => rw [asks] at collected; cases collected
      | ok wanted =>
        cases addressed : (url server : Except Fault String) with
        | error e => rw [asks, except_bind_ok, addressed] at collected; cases collected
        | ok address =>
          rw [asks, except_bind_ok, addressed, except_bind_ok] at collected
          obtain ⟨-, -, free, -⟩ := freeKey_isFirstFree (done.map (·.1)) index wanted
          rw [List.length_map] at free
          refine ih ?_ collected
          rw [List.map_append, List.map_singleton, ← List.concat_eq_append, List.nodup_concat]
          exact ⟨free, distinct⟩
    · exact ih distinct collected

/-- The entries are collected from the first member of the list on. -/
theorem entries_eq_collect {document : Value} {servers : List Value}
    (listed : document.field? "servers" = some (.list servers)) :
    (entries document : Except Fault (List (String × String))) = collect [] 1 servers := by
  have isMap : document.shape.isMap = true := by
    cases document with
    | map fields => rfl
    | _ => cases listed
  rw [entries, fieldOf_of_isMap isMap, listed, except_bind_ok, ifTrue_except, except_bind_ok]
  cases servers <;> rfl

/-- Whatever document they come from, no two entries have one key. -/
theorem entries_nodup {document : Value} {found : List (String × String)}
    (listed : (entries document : Except Fault (List (String × String))) = .ok found) : (found.map (·.1)).Nodup := by
  rw [entries] at listed
  cases stated : (fieldOf document "servers" : Except Fault (Option Value)) with
  | error e => rw [stated] at listed; cases listed
  | ok field =>
    rw [stated, except_bind_ok, ifTrue_except, except_bind_ok] at listed
    split at listed
    · obtain rfl : [] = found := Except.ok.inj listed
      exact .nil
    · rename_i servers _
      rw [shape_except, except_bind_ok] at listed
      cases parts : servers.shape.parts? with
      | error e => rw [parts] at listed; cases listed
      | ok members =>
        rw [parts, lift_except, except_bind_ok] at listed
        exact @collect_nodup members [] found 1 List.nodup_nil listed

/-- Every server has an entry of its own under a key that can be bound as a name, in the order of the list, and the
first address is the base address unless another one is wanted. Only where an address is a number of too many digits
there are no entries. -/
theorem servers_kept {document : Value} {servers : List Value} (listed : document.field? "servers" = some (.list servers))
    (formed : ∀ server ∈ mappings servers, WellFormed server) :
    ((∀ server ∈ mappings servers, Printable server) → ∃ keys addresses, Complete document servers keys addresses) ∧
    ((¬∀ server ∈ mappings servers, Printable server) →
      (entries document : Except Fault (List (String × String))) = .error .tooManyDigits) := by
  have begun := entries_eq_collect listed
  obtain ⟨keys, addresses, keyed, addressed, length, collected, printable⟩ | ⟨stuck, unprintable⟩ :=
    collect_cases formed [] 1
  · refine ⟨fun _ => ⟨keys, addresses, ?_⟩, fun unprintable => absurd printable unprintable⟩
    have found : (entries document : Except Fault (List (String × String))) = .ok (keys.zip addresses) :=
      begun.trans collected
    refine ⟨keyed, addressed, length, found, keyed.fresh.1, keyed.bindable formed, fun given => ?_⟩
    have first : ((keys.zip addresses).head?.map (·.2)).getD "" = addresses.head?.getD "" := by
      cases keys with
      | nil => rw [List.length_eq_zero_iff.mp length.symm]; rfl
      | cons key keys =>
        cases addresses with
        | nil => cases length
        | cons address addresses => rfl
    rw [← first]
    obtain ⟨statements, built, assigned, -⟩ := build_ok found given
    exact ⟨statements, built, assigned⟩
  · exact ⟨fun printable => absurd printable unprintable, fun _ => begun.trans stuck⟩

end

/-- A server with a description and an address. -/
def describedServer (description : String) (address : Value) : Value :=
  .ofFields [("description", .text description), ("url", address)]

theorem wellFormed_describedServer (description : String) (address : Value) :
    WellFormed (describedServer description address) where
  described := by
    intro v stated
    cases stated
    exact ⟨description, rfl⟩
  variables' := by
    intro v stated
    cases stated

/-- Servers whose descriptions are the keys of others, and a member that is no server. -/
def crowdedServers : List Value :=
  [.text "none", describedServer "Server4" (.text "https://a"), describedServer "server4" (.text "https://b"),
    describedServer "" (.text "https://c"), describedServer "server4 4" (.text "https://d")]

theorem servers_kept_crowded :
    ∃ keys addresses,
      Complete (.ofFields [("servers", .list crowdedServers)]) crowdedServers keys addresses ∧
      keys.zip addresses = [("server4", "https://a"), ("server4_3", "https://b"), ("server4_4", "https://c"),
        ("server4_4_5", "https://d")] := by
  have isServers : mappings crowdedServers = crowdedServers.tail := rfl
  have formed : ∀ server ∈ mappings crowdedServers, WellFormed server := by
    rw [isServers]
    simp only [crowdedServers, List.tail_cons, List.forall_mem_cons]
    exact ⟨wellFormed_describedServer _ _, wellFormed_describedServer _ _, wellFormed_describedServer _ _,
      wellFormed_describedServer _ _, nofun⟩
  have printable : ∀ server ∈ mappings crowdedServers, Printable server := by
    have plainAddress : ∀ {description address}, pieces none address.toList = plain address.toList →
        Printable (describedServer description (.text address)) := by
      intro description address unopened
      refine ⟨fun v stated => by cases stated; rfl, fun piece member => ?_⟩
      have text : templateText (describedServer description (.text address)) = address := rfl
      rw [text, unopened] at member
      obtain ⟨c, -, rfl⟩ := List.mem_map.mp member
      trivial
    rw [isServers]
    simp only [crowdedServers, List.tail_cons, List.forall_mem_cons]
    exact ⟨plainAddress (by decide), plainAddress (by decide), plainAddress (by decide), plainAddress (by decide), nofun⟩
  have listed : (Value.ofFields [("servers", .list crowdedServers)]).field? "servers" =
      some (.list crowdedServers) := rfl
  obtain ⟨keys, addresses, complete⟩ := (servers_kept listed formed).1 printable
  refine ⟨keys, addresses, complete, Except.ok.inj (complete.entries.symm.trans ?_)⟩
  decide +kernel

/-- A server whose address is a number of too many digits. -/
def unwritableServer : Value := describedServer "main" (.int (10 ^ 4300))

/-- An address that is a number of too many digits has no text, and no server of the document is kept. -/
theorem unwritable_address :
    ¬ ∀ (document : Value) (servers : List Value), document.field? "servers" = some (.list servers) →
      (∀ server ∈ mappings servers, WellFormed server) →
      ∃ found, (entries document : Except Fault (List (String × String))) = .ok found := by
  intro always
  have listed : (Value.ofFields [("servers", .list [unwritableServer])]).field? "servers" =
      some (.list [unwritableServer]) := rfl
  have single : mappings [unwritableServer] = [unwritableServer] := rfl
  have formed : ∀ server ∈ mappings [unwritableServer], WellFormed server := by
    rw [single, List.forall_mem_singleton]
    exact wellFormed_describedServer _ _
  obtain ⟨found, kept⟩ := always _ _ listed formed
  obtain ⟨_, _, _, _, _, _, printable⟩ | ⟨stuck, -⟩ := collect_cases formed [] 1
  · have long : ¬(Value.int (10 ^ 4300)).isWritable = true := by decide +kernel
    rw [single, List.forall_mem_singleton] at printable
    exact long (printable.template _ rfl)
  · rw [entries_eq_collect listed, stuck] at kept
    cases kept

end ClientGen.Servers
