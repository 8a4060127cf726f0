import ClientGen.Yaml.Cursor

/-!
The text of YAML scalars: plain, between quotes, and in blocks. In all of them the lines of one
paragraph are joined by a space, except in literal blocks, where lines stay lines.
-/

namespace ClientGen.Yaml.Scalar

open Scan

/-- The line breaks of empty lines in quoted text; the bounds of a document may not stand there. -/
def quotedBreaks : Nat → Scan (List Char)
  | 0 => return []
  | fuel + 1 => do
    if beginsBoundary (← get).rest then refuse "found unexpected document separator"
    skipWhile fun c => c = ' ' || c = '\t'
    if isBreak (← peek 0) then
      let first ← lineBreak
      return first ++ (← quotedBreaks fuel)
    else return []

/-- Blanks and line breaks inside quoted text. -/
def quotedGap (fuel : Nat) : Scan (List Char) := do
  let blanks ← takeWhile fun c => c = ' ' || c = '\t'
  let c ← peek 0
  if c = endMark then refuse "found unexpected end of stream"
  else if isBreak c then
    let first ← lineBreak
    let breaks ← quotedBreaks fuel
    let joint := if first ≠ ['\n'] then first else if breaks.isEmpty then [' '] else []
    return joint ++ breaks
  else return blanks

/-- The characters that an escape of one letter stands for. -/
def escapes : List (Char × Nat) :=
  [('0', 0), ('a', 7), ('b', 8), ('t', 9), ('\t', 9), ('n', 10), ('v', 11), ('f', 12), ('r', 13),
   ('e', 0x1b), (' ', 0x20), ('"', 0x22), ('\\', 0x5c), ('/', 0x2f), ('N', 0x85), ('_', 0xa0),
   ('L', 0x2028), ('P', 0x2029)]

/-- How many hexadecimal digits follow an escape by code. -/
def codeLength? (c : Char) : Option Nat :=
  if c = 'x' then some 2 else if c = 'u' then some 4 else if c = 'U' then some 8 else none

/-- An escape behind its backslash. -/
def escape (fuel : Nat) : Scan (List Char) := do
  let c ← peek 0
  match escapes.find? (·.1 = c), codeLength? c with
  | some (_, code), _ =>
    forward 1
    return [Char.ofNat code]
  | none, some length =>
    forward 1
    let digits ← take length
    if digits.length = length && digits.all isHexDigit then
      let code := hexNumber digits
      if 0x7fffffff < code then throw (.unusable .overflow)
      if 0x10ffff < code then throw (.unusable .badValue)
      return [Char.ofNat code]
    else refuse "expected escape sequence of hexadecimal numbers"
  | none, none =>
    if isBreak c then
      let _ ← lineBreak
      quotedBreaks fuel
    else refuse "found unknown escape character"

/-- Quoted text up to the next blank, line break or closing quote. -/
def quotedRun (double : Bool) : Nat → Scan (List Char)
  | 0 => return []
  | fuel + 1 => do
    let run ← takeWhile fun c => !(c = '\'' || c = '"' || c = '\\' || isGapOrEnd c)
    let c ← peek 0
    let next ← peek 1
    if !double && c = '\'' && next = '\'' then
      forward 2
      return run ++ '\'' :: (← quotedRun double fuel)
    else if (double && c = '\'') || (!double && (c = '"' || c = '\\')) then
      forward 1
      return run ++ c :: (← quotedRun double fuel)
    else if double && c = '\\' then
      forward 1
      let escaped ← escape fuel
      return run ++ escaped ++ (← quotedRun double fuel)
    else return run

/-- Quoted text behind its first run, up to the closing quote. -/
def quotedRest (double : Bool) : Nat → Scan (List Char)
  | 0 => return []
  | fuel + 1 => do
    if (← peek 0) = (if double then '"' else '\'') then
      forward 1
      return []
    else
      let gap ← quotedGap (fuel + 1)
      let run ← quotedRun double (fuel + 1)
      return gap ++ run ++ (← quotedRest double fuel)

/-- Text between quotes; the opening quote comes next. -/
def quoted (double : Bool) : Scan (List Char) := do
  let fuel := (← get).rest.length + 1
  forward 1
  let run ← quotedRun double fuel
  return run ++ (← quotedRest double fuel)

/-- The line breaks of empty lines in plain text, or nothing where a document ends. -/
def plainBreaks : Nat → Scan (Option (List Char))
  | 0 => return some []
  | fuel + 1 => do
    skipSpaces
    if isBreak (← peek 0) then
      let first ← lineBreak
      if beginsBoundary (← get).rest then return none
      return (← plainBreaks fuel).map (first ++ ·)
    else return some []

/-- Blanks and line breaks inside plain text, and whether there was a line break. Nothing is joined
where a document ends. -/
def plainGap (fuel : Nat) : Scan (List Char × Bool) := do
  let blanks ← takeWhile (· = ' ')
  if isBreak (← peek 0) then
    let first ← lineBreak
    if beginsBoundary (← get).rest then return ([], true)
    match ← plainBreaks fuel with
    | none => return ([], true)
    | some breaks =>
      let joint := if first ≠ ['\n'] then first else if breaks.isEmpty then [' '] else []
      return (joint ++ breaks, true)
  else return (blanks, false)

/-- How many characters of plain text come next. -/
def plainLength (inFlow : Bool) : List Char → Nat
  | [] => 0
  | c :: rest =>
    let next := (rest.head?).getD endMark
    if isGapOrEnd c then 0
    else if c = ':' && (isGapOrEnd next || (inFlow && [',', '[', ']', '\x7b', '\x7d'].contains next)) then 0
    else if inFlow && [',', '?', '[', ']', '\x7b', '\x7d'].contains c then 0
    else plainLength inFlow rest + 1

/-- Plain text, which continues on lines that are indented at least as far as given. The second part
of the result tells whether the cursor has moved to another line, and the third whether it did so
behind the text. -/
def plainFrom (inFlow : Bool) (indent : Int) : Nat → List Char → Bool → Scan (List Char × Bool)
  | 0, _, moved => return ([], moved)
  | fuel + 1, gap, moved => do
    if (← peek 0) = '#' then return ([], moved)
    let length := plainLength inFlow (← get).rest
    if length = 0 then return ([], moved)
    let run ← take length
    let (next, moved) ← plainGap fuel
    let stop := next.isEmpty || (← peek 0) = '#' || (!inFlow && ((← get).column : Int) < indent)
    if stop then return (gap ++ run, moved)
    let (rest, moved) ← plainFrom inFlow indent fuel next moved
    return (gap ++ run ++ rest, moved)

/-- Plain text, and whether the cursor has come to another line behind its last part. -/
def plain (inFlow : Bool) (indent : Int) : Scan (List Char × Bool) := do
  plainFrom inFlow indent ((← get).rest.length + 1) [] false

/-- What becomes of the line breaks at the end of a block. -/
inductive Chomping where
  | clip
  | strip
  | keep
  deriving DecidableEq, Repr

private def chompingOf? (c : Char) : Option Chomping :=
  if c = '+' then some .keep else if c = '-' then some .strip else none

/-- A digit that says how far a block is indented. -/
def increment? : Scan (Option Nat) := do
  let c ← peek 0
  if !Text.isAsciiDigit c then return none
  if c = '0' then refuse "expected indentation indicator in the range 1-9, but found 0"
  forward 1
  return some (c.toNat - 0x30)

/-- A sign that says what becomes of the line breaks at the end. -/
def chomping? : Scan (Option Chomping) := do
  match chompingOf? (← peek 0) with
  | none => return none
  | some chomping =>
    forward 1
    return some chomping

/-- The indicators of a block, in either order. -/
def blockIndicators : Scan (Chomping × Option Nat) := do
  let found ← match ← chomping? with
    | some chomping => pure (chomping, ← increment?)
    | none =>
      match ← increment? with
      | some increment => pure ((← chomping?).getD .clip, some increment)
      | none => pure (.clip, none)
  if !isSpaceOrEnd (← peek 0) then refuse "expected chomping or indentation indicators"
  return found

/-- The empty lines before a block, with the indentation of the widest of them. -/
def blockStart : Nat → Nat → Scan (List Char × Nat)
  | 0, widest => return ([], widest)
  | fuel + 1, widest => do
    let c ← peek 0
    if c = ' ' then
      forward 1
      blockStart fuel (max widest (← get).column)
    else if isBreak c then
      let first ← lineBreak
      let (rest, widest) ← blockStart fuel widest
      return (first ++ rest, widest)
    else return ([], widest)

/-- Skips spaces up to a column. -/
def skipIndent (indent : Nat) : Scan Unit := do
  let spaces := ((← get).rest.takeWhile (· = ' ')).length
  forward (min spaces (indent - (← get).column))

/-- The line breaks of empty lines inside a block. -/
def blockBreaks (indent : Nat) : Nat → Scan (List Char)
  | 0 => return []
  | fuel + 1 => do
    skipIndent indent
    if isBreak (← peek 0) then
      let first ← lineBreak
      return first ++ (← blockBreaks indent fuel)
    else return []

/-- Whether a line of the block begins at the cursor. -/
def atBlockLine (indent : Nat) : Scan Bool := do
  return (← get).column = indent && (← peek 0) ≠ endMark

/-- The lines of a block behind the given empty ones; the last line break comes apart from what
follows it. -/
def blockLines (folded : Bool) (indent : Nat) :
    Nat → List Char → Scan (List Char × List Char × List Char)
  | 0, breaks => return ([], [], breaks)
  | fuel + 1, breaks => do
    if !(← atBlockLine indent) then return ([], [], breaks)
    let isBlank (c : Char) : Bool := c = ' ' || c = '\t'
    let first ← peek 0
    let line ← takeWhile fun c => !isBreakOrEnd c
    let ending ← lineBreak
    let next ← blockBreaks indent (fuel + 1)
    if ← atBlockLine indent then
      let joined := folded && ending = ['\n'] && !isBlank first && !isBlank (← peek 0)
      let joint := if joined then (if next.isEmpty then [' '] else []) else ending
      let (rest, last, after) ← blockLines folded indent fuel next
      return (breaks ++ line ++ joint ++ rest, last, after)
    else return (breaks ++ line, ending, next)

/-- A block; its indicator comes next. `outer` is the indentation around it. -/
def block (folded : Bool) (outer : Int) : Scan (List Char) := do
  let fuel := (← get).rest.length + 1
  forward 1
  let (chomping, increment) ← blockIndicators
  restOfLine
  let least := (max (outer + 1) 1).toNat
  let (breaks, indent) ← match increment with
    | none => do
      let (breaks, widest) ← blockStart fuel 0
      pure (breaks, max least widest)
    | some increment => do
      let indent := least + increment - 1
      pure (← blockBreaks indent fuel, indent)
  let (text, last, after) ← blockLines folded indent fuel breaks
  return text ++ (if chomping = .strip then [] else last) ++ (if chomping = .keep then after else [])

end ClientGen.Yaml.Scalar
