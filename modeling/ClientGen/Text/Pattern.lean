import ClientGen.Text.Characters

/-!
Regular patterns, matched against whole texts by taking one character after the other off the pattern.
-/

namespace ClientGen.Text

/-- A regular pattern. -/
inductive Pattern where
  | never
  | empty
  | char (p : Char → Bool)
  | seq (a b : Pattern)
  | alt (a b : Pattern)
  | many (a : Pattern)

namespace Pattern

/-- Whether a pattern matches the empty text. -/
def nullable : Pattern → Bool
  | never => false
  | empty => true
  | char _ => false
  | seq a b => a.nullable && b.nullable
  | alt a b => a.nullable || b.nullable
  | many _ => true

/-- A sequence, in a shorter form where one part is trivial. -/
def andThen : Pattern → Pattern → Pattern
  | never, _ => never
  | _, never => never
  | empty, b => b
  | a, b => seq a b

/-- A choice, in a shorter form where one part is trivial. -/
def orElse : Pattern → Pattern → Pattern
  | never, b => b
  | a, never => a
  | a, b => alt a b

/-- What is left of a pattern behind a character. -/
def after (c : Char) : Pattern → Pattern
  | never => never
  | empty => never
  | char p => if p c then empty else never
  | seq a b => if a.nullable then orElse (andThen (a.after c) b) (b.after c) else andThen (a.after c) b
  | alt a b => orElse (a.after c) (b.after c)
  | many a => andThen (a.after c) (many a)

/-- Whether a pattern matches a text. -/
def accepts (p : Pattern) (cs : List Char) : Bool := (cs.foldl (fun p c => p.after c) p).nullable

/-- One of several characters. -/
def oneOf (chars : String) : Pattern := char fun c => chars.toList.contains c

/-- A fixed text. -/
def word (text : String) : Pattern := text.toList.foldr (fun c p => andThen (char (· = c)) p) empty

/-- One of several texts. -/
def anyOf (texts : List String) : Pattern := texts.foldr (fun t p => orElse (word t) p) never

/-- Patterns one behind the other. -/
def all (parts : List Pattern) : Pattern := parts.foldr andThen empty

def optional (p : Pattern) : Pattern := orElse p empty

def atLeastOnce (p : Pattern) : Pattern := andThen p (many p)

end Pattern

end ClientGen.Text
