import ClientGen.Number.Text
import ClientGen.Text.Utf8
import ClientGen.Yaml.Scalar

/-!
The tokens of YAML text. Indentation becomes tokens of its own: a block opens where an entry is
indented further than what is around it, and closes where a later line is indented less. That
something is a key shows only at the colon behind it; so the places of possible keys are kept, and
the tokens that announce a key are put there afterwards.
-/

namespace ClientGen.Yaml

/-- A tag as it is written: a handle, if it has one, and the rest. -/
structure WrittenTag where
  handle : Option String
  rest : String
  deriving DecidableEq, Inhabited, Repr

/-- A line that begins with a percent sign. -/
inductive Directive where
  | version (major minor : Nat)
  | handle (name replacement : String)
  | other
  deriving DecidableEq, Repr

inductive Token where
  | directive (d : Directive)
  | documentStart
  | documentEnd
  | blockSequenceStart
  | blockMappingStart
  | blockEnd
  | flowSequenceStart
  | flowSequenceEnd
  | flowMappingStart
  | flowMappingEnd
  | blockEntry
  | flowEntry
  | key
  | value
  | alias (name : String)
  | anchor (name : String)
  | tag (t : WrittenTag)
  | scalar (text : String) (isPlain : Bool)
  deriving DecidableEq, Repr

namespace Token

open Scan

/-- The name of an anchor or an alias behind its indicator. -/
def anchorName : Scan String := do
  forward 1
  let name ← takeWhile isNameChar
  if name.isEmpty then refuse "expected alphabetic or numeric character"
  let c ← peek 0
  if !(isGapOrEnd c || ['?', ':', ',', ']', '\x7d', '%', '@', Char.ofNat 0x60].contains c) then
    refuse "expected alphabetic or numeric character"
  return String.ofList name

/-- The characters of tags besides letters and digits. -/
def isTagChar (c : Char) : Bool :=
  Text.isWord c || "-;/?:@&=+$,_.!~*'()[]%".toList.contains c

/-- The bytes of escapes, each a percent sign and two hexadecimal digits. -/
def tagEscapes : Nat → Scan (List UInt8)
  | 0 => return []
  | fuel + 1 => do
    if (← peek 0) ≠ '%' then return []
    forward 1
    let digits ← take 2
    if digits.length = 2 && digits.all isHexDigit then
      return UInt8.ofNat (hexNumber digits) :: (← tagEscapes fuel)
    else refuse "expected URI escape sequence of 2 hexadecimal numbers"

/-- The parts of a tag, with escapes replaced by what they encode. -/
def tagParts : Nat → Scan (List Char)
  | 0 => return []
  | fuel + 1 => do
    let run ← takeWhile fun c => isTagChar c && c ≠ '%'
    if (← peek 0) ≠ '%' then return run
    let bytes ← tagEscapes (fuel + 1)
    match Text.decode bytes with
    | .ok chars => return run ++ chars ++ (← tagParts fuel)
    | .error _ => refuse "invalid URI escape"

/-- The text of a tag, which must not be empty. -/
def tagText : Scan String := do
  if !isTagChar (← peek 0) then refuse "expected URI"
  return String.ofList (← tagParts ((← get).rest.length + 1))

/-- A handle: an exclamation mark by itself, or a name between two of them. -/
def tagHandle : Scan String := do
  if (← peek 0) ≠ '!' then refuse "expected '!'"
  forward 1
  if (← peek 0) = ' ' then return "!"
  let name ← takeWhile isNameChar
  if (← peek 0) ≠ '!' then refuse "expected '!'"
  forward 1
  return String.ofList ('!' :: name ++ ['!'])

/-- Whether a further exclamation mark stands in the word that begins here. -/
def hasHandle (rest : List Char) : Bool :=
  (rest.takeWhile fun c => !isSpaceOrEnd c).contains '!'

/-- A tag; its exclamation mark comes next. -/
def writtenTag : Scan WrittenTag := do
  let c ← peek 1
  let tag ←
    if c = '<' then do
      forward 2
      let rest ← tagText
      if (← peek 0) ≠ '>' then refuse "expected '>'"
      forward 1
      pure ⟨none, rest⟩
    else if isGapOrEnd c then do
      forward 1
      pure ⟨none, "!"⟩
    else if hasHandle ((← get).rest.drop 1) then do
      let handle ← tagHandle
      pure ⟨some handle, ← tagText⟩
    else do
      forward 1
      pure ⟨some "!", ← tagText⟩
  if !isSpaceOrEnd (← peek 0) then refuse "expected ' '"
  return tag

/-- Decimal digits, not too many. -/
def decimal : Scan Nat := do
  let digits ← takeWhile Text.isAsciiDigit
  if digits.isEmpty then refuse "expected a digit"
  if Number.digitLimit < digits.length then throw (.unusable .badValue)
  return digits.foldl (fun n c => 10 * n + (c.toNat - 0x30)) 0

/-- What a directive says behind its name. -/
def directiveContent (name : String) : Scan Directive := do
  if name = "YAML" then
    skipSpaces
    let major ← decimal
    if (← peek 0) ≠ '.' then refuse "expected a digit or '.'"
    forward 1
    let minor ← decimal
    if !isSpaceOrEnd (← peek 0) then refuse "expected a digit or ' '"
    return .version major minor
  else if name = "TAG" then
    skipSpaces
    let handle ← tagHandle
    if (← peek 0) ≠ ' ' then refuse "expected ' '"
    skipSpaces
    let replacement ← tagText
    if !isSpaceOrEnd (← peek 0) then refuse "expected ' '"
    return .handle handle replacement
  else
    skipWhile fun c => !isBreakOrEnd c
    return .other

/-- A directive; its percent sign comes next. -/
def directiveLine : Scan Directive := do
  forward 1
  let name ← takeWhile isNameChar
  if name.isEmpty then refuse "expected alphabetic or numeric character"
  if !isSpaceOrEnd (← peek 0) then refuse "expected alphabetic or numeric character"
  let content ← directiveContent (String.ofList name)
  restOfLine
  return content

end Token

/-- A place where a key may have begun. -/
structure PossibleKey where
  /-- How many tokens stand before it. -/
  place : Nat
  required : Bool
  index : Nat
  line : Nat
  column : Nat
  deriving Repr

/-- The state of reading tokens. -/
structure Lexer where
  cursor : Cursor
  tokens : Array Token := #[]
  /-- How many brackets and braces are open. -/
  depth : Nat := 0
  /-- The column of the innermost block, and those around it. -/
  indent : Int := -1
  outer : List Int := []
  keyAllowed : Bool := true
  /-- At most one possible key for each count of open brackets. -/
  keys : List (Nat × PossibleKey) := []
  /-- The places of the tokens that could still begin a key when the last token was begun. -/
  undecided : List Nat := []

namespace Lexer

/-- Steps of reading tokens; those read before a failure are kept. -/
abbrev Lex := ExceptT Refusal (StateM Lexer)

/-- A key that spans more characters than this is none. -/
def keyReach : Nat := 1024

/-- A step that only moves the cursor. -/
def scan {α : Type} (step : Scan α) : Lex α := do
  match step.run (← get).cursor with
  | .ok (a, cursor) =>
    modify fun s => { s with cursor }
    return a
  | .error refusal => throw refusal

def push (t : Token) : Lex Unit := modify fun s => { s with tokens := s.tokens.push t }

/-- Puts a token in front of one that has been read before. -/
def insertAt (place : Nat) (t : Token) : Lex Unit :=
  modify fun s => { s with
    tokens := s.tokens.extract 0 place ++ #[t] ++ s.tokens.extract place s.tokens.size }

def allowKey (allowed : Bool) : Lex Unit := modify fun s => { s with keyAllowed := allowed }

private def missingColon {α : Type} : Lex α := throw (.malformed "could not find expected ':'")

/-- Whether a possible key is too far behind a cursor. -/
def isStale (c : Cursor) (k : PossibleKey) : Bool := k.line ≠ c.line || keyReach < c.index - k.index

/-- Forgets the possible keys that are too far back. -/
def dropStale : Lex Unit := do
  let s ← get
  if s.keys.any fun entry => isStale s.cursor entry.2 && entry.2.required then missingColon
  set { s with keys := s.keys.filter fun entry => !isStale s.cursor entry.2 }

/-- Notes which tokens can still begin a key. -/
def noteUndecided : Lex Unit := modify fun s =>
  { s with undecided := (s.keys.filter fun entry => !isStale s.cursor entry.2).map (·.2.place) }

/-- Forgets the possible key between the innermost brackets. -/
def dropKey : Lex Unit := do
  let s ← get
  if s.keys.any fun entry => entry.1 = s.depth && entry.2.required then missingColon
  set { s with keys := s.keys.filter fun entry => entry.1 ≠ s.depth }

/-- Notes that a key may begin here. -/
def markKey : Lex Unit := do
  if (← get).keyAllowed then
    dropKey
    modify fun s =>
      let required := s.depth = 0 && s.indent = s.cursor.column
      let key : PossibleKey :=
        ⟨s.tokens.size, required, s.cursor.index, s.cursor.line, s.cursor.column⟩
      { s with keys := (s.depth, key) :: s.keys }

/-- Closes the blocks that are indented further than a column. -/
def unwind (column : Int) : Lex Unit := do
  if (← get).depth = 0 then
    modify fun s =>
      let closed := (s.indent :: s.outer).takeWhile fun i => column < i
      let left := (s.indent :: s.outer).dropWhile fun i => column < i
      { s with
        tokens := s.tokens ++ (closed.map fun _ => Token.blockEnd).toArray
        indent := (left.head?).getD (-1)
        outer := left.tail }

/-- Opens a block at a column if none is open there; tells whether it did. -/
def openBlock (column : Nat) : Lex Bool := do
  let s ← get
  if s.indent < column then
    set { s with indent := column, outer := s.indent :: s.outer }
    return true
  else return false

/-- Skips spaces, comments and line breaks. -/
def skipToToken : Nat → Lex Unit
  | 0 => return ()
  | fuel + 1 => do
    scan Scan.skipSpaces
    scan Scan.skipComment
    let ending ← scan Scan.lineBreak
    if ending.isEmpty then return ()
    if (← get).depth = 0 then allowKey true
    skipToToken fuel

/-- Ends all blocks, for what stands between documents. -/
def closeAll : Lex Unit := do
  unwind (-1)
  dropKey
  allowKey false

/-- An opening bracket or brace. -/
def openFlow (t : Token) : Lex Unit := do
  markKey
  modify fun s => { s with depth := s.depth + 1, keyAllowed := true }
  scan (Scan.forward 1)
  push t

/-- A closing bracket or brace. -/
def closeFlow (t : Token) : Lex Unit := do
  dropKey
  modify fun s => { s with depth := s.depth - 1, keyAllowed := false }
  scan (Scan.forward 1)
  push t

/-- What opens a block in front of an entry or a key, if it does. -/
def beginBlock (start : Token) : Lex Unit := do
  let s ← get
  if s.depth = 0 then
    if !s.keyAllowed then throw (.malformed "entries are not allowed here")
    if ← openBlock s.cursor.column then push start

/-- The dash of an entry. -/
def blockEntry : Lex Unit := do
  beginBlock .blockSequenceStart
  allowKey true
  dropKey
  scan (Scan.forward 1)
  push .blockEntry

/-- The question mark of a key. -/
def explicitKey : Lex Unit := do
  beginBlock .blockMappingStart
  allowKey ((← get).depth = 0)
  dropKey
  scan (Scan.forward 1)
  push .key

/-- The colon of a value; what stands before it may turn out to be its key. -/
def value : Lex Unit := do
  let s ← get
  match s.keys.find? fun entry => entry.1 = s.depth with
  | some (_, key) =>
    set { s with keys := s.keys.filter fun entry => entry.1 ≠ s.depth }
    insertAt key.place .key
    if s.depth = 0 then
      if ← openBlock key.column then insertAt key.place .blockMappingStart
    allowKey false
  | none =>
    beginBlock .blockMappingStart
    allowKey (s.depth = 0)
    dropKey
  scan (Scan.forward 1)
  push .value

/-- A token that may begin a key. -/
def keyed (step : Scan Token) : Lex Unit := do
  markKey
  allowKey false
  push (← scan step)

/-- A block scalar. -/
def blockScalar (folded : Bool) : Lex Unit := do
  allowKey true
  dropKey
  let text ← scan (Scalar.block folded (← get).indent)
  push (.scalar (String.ofList text) false)

/-- A plain scalar; a key may follow it where it ends on another line. -/
def plainScalar : Lex Unit := do
  markKey
  let s ← get
  let (text, moved) ← scan (Scalar.plain (s.depth ≠ 0) (s.indent + 1))
  allowKey moved
  push (.scalar (String.ofList text) true)

/-- The characters that begin something other than a plain scalar. -/
def isIndicator (c : Char) : Bool :=
  "-?:,[]\x7b\x7d#&*!|>'\"%@".toList.contains c || c.toNat = 0x60

/-- Whether a plain scalar begins here. -/
def beginsPlain (inFlow : Bool) (c next : Char) : Bool :=
  !(isGapOrEnd c || isIndicator c) ||
    (!isGapOrEnd next && (c = '-' || (!inFlow && (c = '?' || c = ':'))))

/-- Reads the token that begins with a character. -/
def readToken (c : Char) : Lex Unit := do
  let s ← get
  let inFlow := s.depth ≠ 0
  let next := s.cursor.peek 1
  let atStart := s.cursor.column = 0
  if c = '%' && atStart then
    closeAll
    push (.directive (← scan Token.directiveLine))
  else if atStart && beginsMarker '-' s.cursor.rest then
    closeAll
    scan (Scan.forward 3)
    push .documentStart
  else if atStart && beginsMarker '.' s.cursor.rest then
    closeAll
    scan (Scan.forward 3)
    push .documentEnd
  else if c = '[' then openFlow .flowSequenceStart
  else if c = '\x7b' then openFlow .flowMappingStart
  else if c = ']' then closeFlow .flowSequenceEnd
  else if c = '\x7d' then closeFlow .flowMappingEnd
  else if c = ',' then
    allowKey true
    dropKey
    scan (Scan.forward 1)
    push .flowEntry
  else if c = '-' && isGapOrEnd next then blockEntry
  else if c = '?' && (inFlow || isGapOrEnd next) then explicitKey
  else if c = ':' && (inFlow || isGapOrEnd next) then value
  else if c = '*' then keyed (Token.alias <$> Token.anchorName)
  else if c = '&' then keyed (Token.anchor <$> Token.anchorName)
  else if c = '!' then keyed (Token.tag <$> Token.writtenTag)
  else if c = '|' && !inFlow then blockScalar false
  else if c = '>' && !inFlow then blockScalar true
  else if c = '\'' || c = '"' then
    keyed do return .scalar (String.ofList (← Scalar.quoted (c = '"'))) false
  else if beginsPlain inFlow c next then plainScalar
  else throw (.malformed "found character that cannot start any token")

/-- Reads tokens up to the end of the text. -/
def readAll : Nat → Lex Unit
  | 0 => return ()
  | fuel + 1 => do
    noteUndecided
    skipToToken ((← get).cursor.rest.length + 1)
    dropStale
    unwind (← get).cursor.column
    match (← get).cursor.rest with
    | [] => closeAll
    | c :: _ => do
      readToken c
      readAll fuel

end Lexer

/-- The tokens of a text up to where it can be read, and why not further. Whether a token begins a key
shows only behind it; so the tokens at the `undecided` places cannot be used without reading on. -/
structure TokenStream where
  tokens : List Token
  failure : Option Refusal := none
  undecided : List Nat := []

/-- Reads the tokens of a text. A byte order mark at the beginning is skipped. -/
def TokenStream.ofText (text : String) : TokenStream :=
  let cs := text.toList
  if !cs.all isAllowed then { tokens := [], failure := some (.malformed "special characters are not allowed") }
  else
    let start : Cursor := ⟨cs, 0, 0, 0⟩
    let start := if cs.head? = some (Char.ofNat 0xfeff) then start.next else start
    let (outcome, lexer) := (Lexer.readAll (cs.length + 1)).run.run { cursor := start }
    match outcome with
    | .ok _ => { tokens := lexer.tokens.toList }
    | .error refusal =>
      { tokens := lexer.tokens.toList, failure := some refusal, undecided := lexer.undecided }

end ClientGen.Yaml
