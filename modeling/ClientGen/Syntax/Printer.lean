import ClientGen.Fault
import ClientGen.Syntax.Literal
import ClientGen.Value.Printer

/-!
The text of generated modules. Statements stand on lines of their own; a function has an empty line
in front unless it is the first statement.
-/

namespace ClientGen

/-- How numbers are laid out in constants: what is not finite is written by a number that overflows. -/
def constantLayout : Binary64.TextLayout :=
  { Binary64.plainLayout with infinity := "1e309", notANumber := "(1e309-1e309)" }

/-- The text of a constant, or of an item of a constant tuple: only numbers that stand by themselves
have the layout of constants, other values are in written form. -/
def Value.constantPart : Value → String
  | .atom (.float x) => x.toText constantLayout
  | v => v.written

/-- The text of a constant. -/
def Value.constantText : Value → String
  | .tuple items =>
    "(" ++ Text.join ", " (items.map Value.constantPart) ++ (if items.length = 1 then "," else "") ++ ")"
  | v => v.constantPart

namespace Expr

mutual

/-- The text of an expression. -/
def render : Expr → String
  | name id => id
  | constant v => v.constantText
  | index base arguments => base ++ "[" ++ Text.join ", " (renderAll arguments) ++ "]"
  | tuple items =>
    "(" ++ Text.join ", " (renderAll items) ++ (if items.length = 1 then "," else "") ++ ")"
  | list items => "[" ++ Text.join ", " (renderAll items) ++ "]"
  | set items => "\x7b" ++ Text.join ", " (renderAll items) ++ "\x7d"
  | dict entries => "\x7b" ++ Text.join ", " (renderEntries entries) ++ "\x7d"
  | call function arguments named =>
    function ++ "(" ++ Text.join ", " (renderAll arguments ++ renderNamed named) ++ ")"
  | negative operand => "-" ++ render operand

def renderAll : List Expr → List String
  | [] => []
  | e :: rest => render e :: renderAll rest

def renderEntries : List (Expr × Expr) → List String
  | [] => []
  | (k, v) :: rest => (render k ++ ": " ++ render v) :: renderEntries rest

def renderNamed : List (String × Expr) → List String
  | [] => []
  | (n, v) :: rest => (n ++ "=" ++ render v) :: renderNamed rest

end

mutual

/-- Whether an expression can be printed: all constants in it may be written. -/
def isWritable : Expr → Bool
  | name _ => true
  | constant v => v.isWritable
  | index _ arguments => areWritable arguments
  | tuple items => areWritable items
  | list items => areWritable items
  | set items => areWritable items
  | dict entries => haveWritable entries
  | call _ arguments named => areWritable arguments && takeWritable named
  | negative operand => isWritable operand

def areWritable : List Expr → Bool
  | [] => true
  | e :: rest => isWritable e && areWritable rest

def haveWritable : List (Expr × Expr) → Bool
  | [] => true
  | (k, v) :: rest => isWritable k && isWritable v && haveWritable rest

def takeWritable : List (String × Expr) → Bool
  | [] => true
  | (_, v) :: rest => isWritable v && takeWritable rest

end

/-- The text of an expression, if it can be printed. -/
def shown (e : Expr) : Except Fault String :=
  if e.isWritable then .ok e.render else .error .tooManyDigits

end Expr

/-- A character inside a description: line breaks and tabs stay, the backslash and what has no
printed form are escaped. -/
def descriptionChar (c : Char) : List Char :=
  if c = '\n' ∨ c = '\t' then [c]
  else if c = '\\' then ['\\', '\\']
  else if c = '\r' then ['\\', 'r']
  else if Text.isPrintable c then [c]
  else Text.escapeCode c.toNat

/-- A description between triple quotes. Double quotes are preferred unless the text holds three of
them in a row or ends in one; text that admits neither quote is written as quoted text. -/
def descriptionText (text : String) : String :=
  let body := text.toList.flatMap descriptionChar
  let free (q : Char) : Bool := !Text.occursIn [q, q, q] body
  let ends (q : Char) : Bool := body.getLast? = some q
  let between (q : Char) (inner : List Char) : String := String.ofList ([q, q, q] ++ inner ++ [q, q, q])
  let escapedEnd := body.dropLast ++ ['\\'] ++ (body.getLast?).toList
  match free '"', free '\'' with
  | true, true => if ends '"' then between '\'' body else between '"' body
  | true, false => between '"' (if ends '"' then escapedEnd else body)
  | false, true => between '\'' (if ends '\'' then escapedEnd else body)
  | false, false =>
    let quote := Text.chooseQuote text.toList
    between quote (text.toList.flatMap (Text.quoteChar quote))

namespace Function

/-- The arguments of a function as written in its definition. -/
def argumentTexts (f : Function) : List String :=
  (f.positional.map fun a => a.name ++ ": " ++ a.type.render) ++
    (if f.named.isEmpty then [] else ["*"]) ++
    (f.named.map fun a =>
      a.name ++ ": " ++ a.type.render ++ (if a.required then "" else "=None"))

/-- The lines of a function; a description may hold line breaks. -/
def lines (f : Function) : List String :=
  ["def " ++ f.name ++ "(" ++ Text.join ", " f.argumentTexts ++ ")" ++
      (f.returns.map fun r => " -> " ++ r.render).getD "" ++ ":"] ++
    (f.description.map fun d => "    " ++ descriptionText d).toList ++
    ["    return " ++ f.call.render]

/-- Whether a function can be printed. -/
def isWritable (f : Function) : Bool :=
  f.positional.all (·.type.isWritable) && f.named.all (·.type.isWritable) &&
    f.returns.all Expr.isWritable && f.call.isWritable

/-- The text of a function, if it can be printed. -/
def shown (f : Function) : Except Fault String :=
  if f.isWritable then .ok (Text.join "\n" f.lines) else .error .tooManyDigits

end Function

/-- The complaint about an object that is no syntax. -/
def Fault.foreignSyntax : Fault := .raised .noMember "'object' object has no attribute '_fields'"

namespace Statement

/-- The lines of a statement, and whether an empty line belongs in front. -/
def block : Statement → Except Fault (Bool × List String)
  | importNames source names => .ok (false, ["from " ++ source ++ " import " ++ Text.join ", " names])
  | importModule name => .ok (false, ["import " ++ name])
  | assign target value => do return (false, [target ++ " = " ++ (← value.shown)])
  | define f => do return (true, [← f.shown])
  | helper _ lines => .ok (true, lines)
  | foreign => .error Fault.foreignSyntax

/-- The text of a statement by itself. -/
def render (s : Statement) : Except Fault String := do
  return Text.join "\n" (← s.block).2

/-- The lines of statements behind others. -/
def renderRest : List Statement → Except Fault (List String)
  | [] => .ok []
  | s :: rest => do
    let (spaced, lines) ← s.block
    return (if spaced then [""] else []) ++ lines ++ (← renderRest rest)

/-- The text of a module. -/
def renderModule : List Statement → Except Fault String
  | [] => .ok ""
  | s :: rest => do
    let (_, lines) ← s.block
    return Text.join "\n" (lines ++ (← renderRest rest))

end Statement

end ClientGen
