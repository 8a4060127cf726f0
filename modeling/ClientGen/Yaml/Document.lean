import ClientGen.Number.Text
import ClientGen.Store.Basic
import ClientGen.Yaml.Graph

/-!
The value of a YAML document. Containers are built one layer after the other, so that a container may
hold itself; a node that stands at several places is one container.
-/

namespace ClientGen.Yaml

namespace Scalar

private def ofOption {α : Type} (o : Option α) : Except ValueFault α :=
  match o with
  | some a => .ok a
  | none => .error .badValue

private def withoutLowLines (text : List Char) : List Char := text.filter (· ≠ '_')

/-- The sign of a number that must not be empty, and the rest. -/
def signed (text : List Char) : Except ValueFault (Bool × List Char) :=
  match text with
  | [] => .error .outOfRange
  | text => .ok (Number.takeSign text)

/-- A whole number of not too many digits. -/
def limited (text : List Char) : Except ValueFault Int := ofOption (Number.limitedWhole? text)

/-- The value of figures in base sixty, the highest first. -/
def sexagesimal (figures : List Int) : Int := figures.foldl (fun n figure => 60 * n + figure) 0

/-- A whole number: in base two, eight, sixteen or sixty by its form, else in base ten. -/
def toInt (text : List Char) : Except ValueFault Int := do
  let (negative, digits) ← signed (withoutLowLines text)
  let n ← match digits with
    | ['0'] => pure 0
    | '0' :: 'b' :: rest => ofOption (Number.wholeIn? 2 rest)
    | '0' :: 'x' :: rest => ofOption (Number.wholeIn? 16 rest)
    | '0' :: _ => ofOption (Number.wholeIn? 8 digits)
    | [] => throw .outOfRange
    | _ =>
      if digits.contains ':' then
        pure (sexagesimal (← (Text.fields (· = ':') digits).mapM limited))
      else limited digits
  return if negative then -n else n

/-- Adds figures in base sixty to a sum, the lowest first. Their weights, the products and the sums
are rounded, and a weight must not be beyond all numbers. -/
def addFigures (sum : Binary64) (weight : Int) : List Binary64 → Except ValueFault Binary64
  | [] => .ok sum
  | figure :: rest =>
    match Binary64.ofInt weight with
    | .infinite _ => .error .overflow
    | rounded => addFigures (sum.add (figure.mul rounded)) (60 * weight) rest

/-- A number with a fraction, in base sixty where it has colons. The mark is for a result that is no
number, other than the one that is written by name. -/
def toFloat (mark : Nat) (text : List Char) : Except ValueFault Binary64 := do
  let lowered := (withoutLowLines text).flatMap Text.lower
  let (negative, body) ← signed lowered
  if body = ".inf".toList then return .infinite negative
  if body = ".nan".toList then return .nan 0
  let x ←
    if body.contains ':' then do
      let figures ← (Text.fields (· = ':') body).mapM fun figure => ofOption (Number.real? figure)
      addFigures (Binary64.zero false) 1 figures.reverse
    else ofOption (Number.real? body)
  return if x.isNan then .nan mark else if negative then x.negate else x

/-- The words for truth values. -/
def toBool (text : List Char) : Except ValueFault Bool :=
  let lowered := String.ofList (text.flatMap Text.lower)
  if ["yes", "true", "on"].contains lowered then .ok true
  else if ["no", "false", "off"].contains lowered then .ok false
  else .error (.noKey lowered)

/-- Takes between `least` and `most` digits. -/
def takeDigits (least most : Nat) (cs : List Char) : Option (Nat × List Char) :=
  let digits := (cs.take most).takeWhile Text.isAsciiDigit
  if digits.length < least then none
  else some (digits.foldl (fun n c => 10 * n + (c.toNat - 0x30)) 0, cs.drop digits.length)

/-- Takes one given character. -/
def takeMark (mark : Char) : List Char → Option (List Char)
  | c :: rest => if c = mark then some rest else none
  | [] => none

private def isTabOrSpace (c : Char) : Bool := c = ' ' || c = '\t'

/-- The distance to universal time at the end of a moment, in minutes. -/
def zone (cs : List Char) : Option (Option Int) :=
  match cs.dropWhile isTabOrSpace with
  | [] => if cs.isEmpty then some none else none
  | ['Z'] => some (some 0)
  | c :: rest =>
    if c = '+' ∨ c = '-' then do
      let (hours, rest) ← takeDigits 1 2 rest
      let minutes ← match rest with
        | [] => some 0
        | rest => do
          let (minutes, rest) ← takeDigits 2 2 (← takeMark ':' rest)
          if rest.isEmpty then some minutes else none
      let total : Int := 60 * hours + minutes
      some (some (if c = '-' then -total else total))
    else none

/-- The fraction of a second in millionths; further digits are dropped. -/
def microseconds (digits : List Char) : Nat :=
  let six := (digits ++ List.replicate 6 '0').take 6
  six.foldl (fun n c => 10 * n + (c.toNat - 0x30)) 0

/-- The time of day behind a date, and the distance to universal time. -/
def timeOfDay (date : Date) (cs : List Char) : Option Moment := do
  let (hour, cs) ← takeDigits 1 2 cs
  let (minute, cs) ← takeDigits 2 2 (← takeMark ':' cs)
  let (second, cs) ← takeDigits 2 2 (← takeMark ':' cs)
  let (fraction, cs) := match cs with
    | '.' :: rest => (rest.takeWhile Text.isAsciiDigit, rest.dropWhile Text.isAsciiDigit)
    | cs => ([], cs)
  return ⟨date, hour, minute, second, microseconds fraction, ← zone cs⟩

/-- A date, or a date with a time. -/
def timestamp? (cs : List Char) : Option (Date ⊕ Moment) := do
  let (year, cs) ← takeDigits 4 4 cs
  let (month, cs) ← takeDigits 1 2 (← takeMark '-' cs)
  let (day, cs) ← takeDigits 1 2 (← takeMark '-' cs)
  let date : Date := ⟨year, month, day⟩
  match cs with
  | [] => some (.inl date)
  | c :: rest =>
    if c = 'T' ∨ c = 't' then some (.inr (← timeOfDay date rest))
    else if isTabOrSpace c then some (.inr (← timeOfDay date (rest.dropWhile isTabOrSpace)))
    else none

/-- A day has this many minutes; no place is that far from universal time. -/
def dayMinutes : Nat := 1440

/-- A date or moment, which the calendar and the clock must have. A line break at the end makes no
difference. -/
def toTimestamp (text : List Char) : Except ValueFault Atom :=
  match timestamp? (Tag.withoutBreak text) with
  | none => .error .noMember
  | some (.inl date) => if date.isValid then .ok (.date date) else .error .badValue
  | some (.inr moment) =>
    if moment.isValid && (moment.offset.all fun o => o.natAbs < dayMinutes) then
      .ok (.moment moment)
    else .error .badValue

/-- The value of a character of base 64. -/
def base64Value? (c : Char) : Option Nat :=
  if Text.isAsciiUpper c then some (c.toNat - 0x41)
  else if Text.isAsciiLower c then some (c.toNat - 0x61 + 26)
  else if Text.isAsciiDigit c then some (c.toNat - 0x30 + 52)
  else if c = '+' then some 62
  else if c = '/' then some 63
  else none

/-- Decodes base 64: four characters make three bytes, and equals signs fill up the last four.
Other characters are skipped. `held` are the bits that do not make a byte yet, `read` counts the
characters of the four, and `fill` the equals signs behind them. -/
def base64 (held read fill : Nat) : List Char → Option (List UInt8)
  | [] => if read = 0 then some [] else none
  | c :: rest =>
    if c = '=' then
      if 2 ≤ read ∧ 4 ≤ read + fill + 1 then some []
      else base64 held read (fill + 1) rest
    else
      match base64Value? c with
      | none => base64 held read fill rest
      | some v =>
        if read = 0 then base64 v 1 0 rest
        else
          let left := [6, 4, 2, 0]
          let keep := (left[read]?).getD 0
          let bits := held * 64 + v
          let byte := UInt8.ofNat (bits / Nat.pow 2 keep)
          (base64 (bits % Nat.pow 2 keep) ((read + 1) % 4) 0 rest).map (byte :: ·)

end Scalar

/-- The state of building values. -/
structure Builder where
  graph : Graph
  store : Store := {}
  /-- The nodes that have been begun, with their values. -/
  begun : List (Nat × Node) := []

namespace Builder

/-- Steps of building values. -/
abbrev Build := StateT Builder (Except Refusal)

private def refuse {α : Type} (reason : String) : Build α := throw (.malformed reason)

private def use {α : Type} : Except ValueFault α → Build α
  | .ok a => pure a
  | .error fault => throw (.unusable fault)

/-- The node with an identity. -/
def nodeAt (id : Nat) : Build GraphNode := return ((← get).graph[id]?).getD default

def setNode (id : Nat) (n : GraphNode) : Build Unit :=
  modify fun s => { s with graph := s.graph.setIfInBounds id n }

/-- The text of a scalar. A mapping with a value key has the text of its value. -/
def textOf : Nat → Nat → Build (List Char)
  | 0, _ => refuse "expected a scalar node"
  | fuel + 1, id => do
    match (← nodeAt id).content with
    | .scalar text => return text
    | .sequence _ => refuse "expected a scalar node"
    | .mapping entries =>
      let graph := (← get).graph
      match entries.find? fun entry => ((graph[entry.1]?).getD default).tag = .value with
      | some (_, value) => textOf fuel value
      | none => refuse "expected a scalar node"

/-- The kind of a node in a graph. -/
private def tagIn (graph : Graph) (id : Nat) : Tag := ((graph[id]?).getD default).tag

/-- The entries of a node in a graph. -/
private def entriesIn (graph : Graph) (id : Nat) : List (Nat × Nat) :=
  match ((graph[id]?).getD default).content with
  | .mapping entries => entries
  | _ => []

private def setEntries (id : Nat) (entries : List (Nat × Nat)) : Build Unit := do
  setNode id { ← nodeAt id with content := .mapping entries }

/-- Keys that would stand for the value of their mapping become texts. -/
private def settleKeys : List (Nat × Nat) → Build Unit
  | [] => return ()
  | (key, _) :: rest => do
    let n ← nodeAt key
    if n.tag = .value then setNode key { n with tag := .text }
    settleKeys rest

/-- Takes the merge keys of a mapping away from a place on and puts the entries that they stand for in
front; `merged` are those of merge keys before. Since the mapping may be among what is merged into
it, its entries are looked at anew behind every merge key. -/
def flattenFrom : Nat → Nat → Nat → List (Nat × Nat) → Build Unit
  | 0, _, _, _ => return ()
  | fuel + 1, id, place, merged => do
    let graph := (← get).graph
    let entries := entriesIn graph id
    let ahead := (entries.drop place).takeWhile fun entry => tagIn graph entry.1 ≠ .merge
    settleKeys ahead
    let place := place + ahead.length
    match entries.drop place with
    | [] => if !merged.isEmpty then setEntries id (merged ++ entries)
    | (_, source) :: rest => do
      setEntries id (entries.take place ++ rest)
      let sources ← match (← nodeAt source).content with
        | .mapping _ => pure [source]
        | .sequence items => pure items
        | .scalar _ => refuse "expected a mapping or list of mappings for merging"
      let parts ← sources.mapM fun part => do
        match (← nodeAt part).content with
        | .mapping _ =>
          flattenFrom fuel part 0 []
          return entriesIn (← get).graph part
        | _ => refuse "expected a mapping for merging"
      flattenFrom fuel id place (merged ++ parts.reverse.flatten)

/-- Replaces the merge keys of a mapping by the entries that they stand for. -/
def flatten (fuel id : Nat) : Build Unit := flattenFrom fuel id 0 []

/-- A bound for the depth of flattening, since every step takes a merge key away. -/
def weight (graph : Graph) : Nat :=
  graph.foldl (fun n node => match node.content with
    | .scalar _ => n + 1
    | .sequence items => n + items.length + 1
    | .mapping entries => n + entries.length + 1) 1

/-- The value of a node by its kind and its text. Dates must be scalars themselves. -/
def atomOf (id : Nat) (n : GraphNode) (text : List Char) : Build Atom := do
  match n.tag with
  | .null => return .null
  | .bool => return .bool (← use (Scalar.toBool text))
  | .int => return .int (← use (Scalar.toInt text))
  | .float => return .float (← use (Scalar.toFloat (id + 1) text))
  | .timestamp =>
    match n.content with
    | .scalar _ => use (Scalar.toTimestamp text)
    | _ => use (.error .wrongType)
  | .binary =>
    if !text.all Text.isAscii then refuse "failed to convert base64 data into ascii"
    match Scalar.base64 0 0 0 text with
    | some bytes => return .bytes bytes
    | none => refuse "failed to decode base64 data"
  | .text => return .text (String.ofList text)
  | _ => refuse "could not determine a constructor for the tag"

/-- The empty container of a kind, if the kind is one of containers. -/
def emptyLayer? : Tag → Option (Shape Node)
  | .sequence => some (.list [])
  | .pairs => some (.list [])
  | .mapping => some (.map [])
  | .set => some (.set [])
  | _ => none

/-- Begins the value of a node: a scalar is built at once, a container is still empty. The second
part tells whether there is a container to fill. -/
def begin? (id : Nat) : Build (Node × Bool) := do
  match (← get).begun.find? (·.1 = id) with
  | some (_, node) => return (node, false)
  | none =>
    let n ← nodeAt id
    let (node, open_) ← match emptyLayer? n.tag with
      | some layer => do
        let s ← get
        let (node, store) := s.store.add layer
        set { s with store }
        pure (node, true)
      | none => do
        let text ← textOf ((← get).graph.size + 1) id
        pure (.atom (← atomOf id n text), false)
    modify fun s => { s with begun := (id, node) :: s.begun }
    return (node, open_)

/-- Begins the values of nodes in order; yields also the nodes that are to be filled. -/
def beginAll : List Nat → Build (List Node × List Nat)
  | [] => return ([], [])
  | id :: rest => do
    let (node, isOpen) ← begin? id
    let (nodes, open_) ← beginAll rest
    return (node :: nodes, (if isOpen then [id] else []) ++ open_)

/-- Begins the entries of a mapping; keys must be scalars. -/
def beginEntries : List (Nat × Nat) → Build (List (Atom × Node) × List Nat)
  | [] => return ([], [])
  | (key, value) :: rest => do
    match (← begin? key).1 with
    | .cell _ => refuse "found unhashable key"
    | .atom key =>
      let (node, isOpen) ← begin? value
      let (entries, open_) ← beginEntries rest
      return ((key, node) :: entries, (if isOpen then [value] else []) ++ open_)

/-- Begins the pairs of a list of pairs: mappings of one entry each. -/
def beginPairs : List Nat → Build (List Node × List Nat)
  | [] => return ([], [])
  | id :: rest => do
    match (← nodeAt id).content with
    | .mapping [(key, value)] =>
      let (parts, first) ← beginAll [key, value]
      let s ← get
      let (pair, store) := s.store.add (.tuple parts)
      set { s with store }
      let (pairs, others) ← beginPairs rest
      return (pair :: pairs, first ++ others)
    | _ => refuse "expected a mapping of length 1"

/-- Entries with later ones in the place of earlier ones of the same key. -/
def latest {α : Type} (entries : List (Atom × α)) : List (Atom × α) :=
  entries.foldl (fun done entry => Entries.put done entry.1 entry.2) []

/-- Fills a container; yields the nodes that are to be filled next. -/
def fill (id : Nat) : Build (List Nat) := do
  let n ← nodeAt id
  let (layer, open_) ← match n.tag, n.content with
    | .sequence, .sequence items => do
      let (nodes, open_) ← beginAll items
      pure (Shape.list nodes, open_)
    | .pairs, .sequence items => do
      let (nodes, open_) ← beginPairs items
      pure (Shape.list nodes, open_)
    | tag, .mapping _ =>
      if tag = .mapping ∨ tag = .set then do
        flatten (weight (← get).graph) id
        let entries ← match (← nodeAt id).content with
          | .mapping entries => pure entries
          | _ => pure []
        let (entries, open_) ← beginEntries entries
        let entries := latest entries
        pure (if tag = .set then Shape.set (entries.map (·.1)) else Shape.map entries, open_)
      else refuse "expected a sequence"
    | _, _ => refuse "expected another kind of node"
  match (← get).begun.find? (·.1 = id) with
  | some (_, .cell cell) => modify fun s => { s with store := s.store.update cell layer }
  | _ => pure ()
  return open_

/-- Fills containers, layer by layer. -/
def fillAll : Nat → List Nat → Build Unit
  | 0, _ => return ()
  | _ + 1, [] => return ()
  | fuel + 1, id :: rest => do
    let next ← fill id
    fillAll fuel (rest ++ next)

end Builder

/-- Reads the only document of a text; without one the value is null. -/
def load (text : String) : Except Refusal (Node × Store) := do
  match ← Graph.ofText text with
  | (none, _) => return (.atom .null, {})
  | (some root, graph) =>
    let build : Builder.Build Node := do
      let (node, isOpen) ← Builder.begin? root
      Builder.fillAll (graph.size + 1) (if isOpen then [root] else [])
      return node
    let (node, builder) ← build.run { graph }
    return (node, builder.store)

end ClientGen.Yaml
