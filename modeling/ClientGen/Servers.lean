import ClientGen.Naming
import ClientGen.Reading

/-!
The servers of a document: the address of each, with its variables set to their defaults, under a
key that can be used as a name.
-/

namespace ClientGen.Servers

/-- A part of an address template: a character as it stands, or a variable in braces. -/
inductive Piece where
  | char (c : Char)
  | variable (name : List Char)
  deriving DecidableEq, Repr

/-- The characters of a text as pieces. -/
def plain (cs : List Char) : List Piece := cs.map .char

/-- Cuts a template into pieces. Behind an opening brace the characters up to the next closing one
are collected; braces around nothing, and a brace that is never closed, stand for themselves. -/
def pieces : Option (List Char) → List Char → List Piece
  | none, [] => []
  | some name, [] => plain ('\x7b' :: name)
  | none, c :: rest => if c = '\x7b' then pieces (some []) rest else .char c :: pieces none rest
  | some name, c :: rest =>
    if c = '\x7d' then
      if name.isEmpty then plain ['\x7b', '\x7d'] ++ pieces none rest
      else .variable name :: pieces none rest
    else pieces (some (name ++ [c])) rest

section

variable {ν : Type} {m : Type → Type} [Monad m] [MonadExceptOf Fault m] [Reading ν m]

/-- The text that a piece becomes. A variable that is not declared, or has no default, stays. -/
def pieceText (table : Option ν) : Piece → m (List Char)
  | .char c => pure [c]
  | .variable name => do
    let kept := '\x7b' :: name ++ ['\x7d']
    match table with
    | none => pure kept
    | some table =>
      match ← ifTrue (← fieldOf table (String.ofList name)) with
      | none => pure kept
      | some declared =>
        match ← fieldOf declared "default" with
        | none => pure kept
        | some value => return (← lift (← whole value).shown).toList

/-- The texts of several pieces in a row. -/
def pieceTexts (table : Option ν) : List Piece → m (List Char)
  | [] => pure []
  | p :: rest => do
    let first ← pieceText table p
    return first ++ (← pieceTexts table rest)

/-- The address of a server. -/
def url (server : ν) : m String := do
  let table ← ifTrue (← fieldOf server "variables")
  let template ← match ← fieldOf server "url" with
    | some node => lift (← whole node).shown
    | none => pure ""
  return String.ofList (← pieceTexts table (pieces none template.toList))

/-- A key that is not taken, made by appending the index again and again. -/
def freeKey (taken : List String) (index : Nat) : Nat → String → String
  | 0, key => key
  | fuel + 1, key =>
    if taken.contains key then freeKey taken index fuel (key ++ "_" ++ toString index) else key

/-- A description as a name; only text can be one. -/
def describedKey (fallback : String) : Shape ν → Except Fault String
  | .atom (.text s) => Naming.snakeCase s fallback
  | _ => .error .wrongType

/-- The key a server asks for: its description as a name, or its place in the list. -/
def wantedKey (server : ν) (index : Nat) : m String := do
  let numbered := "server" ++ toString index
  match ← ifTrue (← fieldOf server "description") with
  | some description => lift (describedKey numbered (← shape description))
  | none => pure numbered

/-- Adds the servers of a list to the entries, counting every member of the list. -/
def collect (entries : List (String × String)) (index : Nat) : List ν → m (List (String × String))
  | [] => pure entries
  | server :: rest => do
    if (← shape server).isMap then
      let wanted ← wantedKey server index
      let key := freeKey (entries.map (·.1)) index (entries.length + 1) wanted
      let address ← url server
      collect (entries ++ [(key, address)]) (index + 1) rest
    else collect entries (index + 1) rest

/-- The keys and addresses of the servers of a document, in document order. -/
def entries (document : ν) : m (List (String × String)) := do
  match ← ifTrue (← fieldOf document "servers") with
  | none => pure []
  | some servers => collect [] 1 (← lift (← shape servers).parts?)

end

end ClientGen.Servers
