import ClientGen.Text.Characters

/-!
Characters that are shown as one. Marks stand upon the character before them, a joiner takes in the
character behind it, and the picture mark makes a picture of the character that was last measured. The
columns of a text are those of its clusters.
-/

namespace ClientGen.Terminal

/-- Joins the characters on both sides to one picture. -/
def joiner : Char := Char.ofNat 0x200d

/-- Asks for the character before it as a picture. -/
def pictureMark : Char := Char.ofNat 0xfe0f

/-- What the picture mark adds to the character that was last measured. -/
def pictureGain (last : Option Char) : Nat := if last.any Text.isWiderAsPicture then 1 else 0

/-- How many columns a text takes behind the character that was last measured. -/
def widthFrom (last : Option Char) : List Char → Nat
  | [] => 0
  | c :: rest =>
    if c = joiner then
      match rest with
      | [] => 0
      | _ :: rest => widthFrom last rest
    else if c = pictureMark then pictureGain last + widthFrom none rest
    else if Text.columns c = 0 then widthFrom last rest
    else Text.columns c + widthFrom (some c) rest

/-- How many columns a text takes. -/
def width (cs : List Char) : Nat := widthFrom none cs

/-- Characters that are shown as one, with the columns that they take. -/
structure Cluster where
  text : List Char
  width : Nat
  deriving DecidableEq, Inhabited, Repr

namespace Cluster

/-- A cluster that has taken in characters behind it. -/
def take (k : Cluster) (cs : List Char) (gain : Nat) : Cluster := ⟨k.text ++ cs, k.width + gain⟩

/-- The clusters of a text behind one that has been begun. -/
def following (last : Option Char) (k : Cluster) : List Char → List Cluster
  | [] => [k]
  | c :: rest =>
    if c = joiner then
      match rest with
      | [] => [k.take [c] 0]
      | d :: rest => following last (k.take [c, d] 0) rest
    else if c = pictureMark then following none (k.take [c] (pictureGain last)) rest
    else if Text.columns c = 0 then following last (k.take [c] 0) rest
    else k :: following (some c) ⟨[c], Text.columns c⟩ rest

/-- The clusters of a text. At its beginning there is nothing to join or to make a picture of. -/
def ofText : List Char → List Cluster
  | [] => []
  | c :: rest =>
    following (if Text.columns c = 0 then none else some c) ⟨[c], Text.columns c⟩ rest

end Cluster

end ClientGen.Terminal
