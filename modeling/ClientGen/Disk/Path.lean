import ClientGen.Text.Words

/-!
Paths. Empty parts and single dots say nothing and are dropped; double dots stay, since what they
mean depends on the disk.
-/

namespace ClientGen

/-- What the parts of a path start from. -/
inductive Anchor where
  /-- The working directory. -/
  | here
  /-- The directory that the program sees as the whole disk. -/
  | root
  /-- The world outside it. -/
  | outside
  deriving DecidableEq, Inhabited, Repr

/-- A path in normal form. -/
structure Path where
  anchor : Anchor
  parts : List String
  deriving DecidableEq, Inhabited, Repr

namespace Path

private def partsOf (cs : List Char) : List String :=
  ((Text.fields (· = '/') cs).filter fun part => !part.isEmpty && part ≠ ['.']).map String.ofList

/-- What follows the root in the text of an absolute path below it. -/
private def belowRoot? (rootText : String) (cs : List Char) : Option (List Char) :=
  match Text.dropLeading? rootText.toList cs with
  | some rest =>
    if rest.isEmpty || rest.head? = some '/' || Text.endsWith rootText "/" then some rest else none
  | none => none

/-- Reads a path; `rootText` is how the root is written. -/
def parse (rootText text : String) : Path :=
  match belowRoot? rootText text.toList with
  | some rest => ⟨.root, partsOf rest⟩
  | none =>
    match text.toList with
    | '/' :: rest => ⟨.outside, partsOf rest⟩
    | cs => ⟨.here, partsOf cs⟩

/-- The text of a path. -/
def text (rootText : String) (p : Path) : String :=
  let inner := Text.join "/" p.parts
  match p.anchor, p.parts with
  | .here, [] => "."
  | .here, _ => inner
  | .root, [] => rootText
  | .root, _ => (if Text.endsWith rootText "/" then rootText else rootText ++ "/") ++ inner
  | .outside, _ => "/" ++ inner

/-- Whether a path can be handed to a disk: the null character ends texts there. -/
def isUsable (p : Path) : Bool := p.parts.all fun part => !part.toList.contains '\x00'

/-- The last part, or nothing. -/
def name (p : Path) : String := (p.parts.getLast?).getD ""

/-- The path without its last part. -/
def parent (p : Path) : Path := { p with parts := p.parts.dropLast }

/-- A path with one more part. -/
def child (p : Path) (part : String) : Path := { p with parts := p.parts ++ [part] }

/-- The ending of a name from its last dot on; a leading dot and a closing dot begin none. -/
def suffix (p : Path) : String :=
  let reversed := p.name.toList.reverse
  let ending := reversed.takeWhile (· ≠ '.')
  if ending.isEmpty ∨ reversed.length ≤ ending.length + 1 then ""
  else String.ofList ('.' :: ending.reverse)

end Path

end ClientGen
