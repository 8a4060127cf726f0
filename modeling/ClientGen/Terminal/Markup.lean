import ClientGen.Terminal.NamedCharacters
import ClientGen.Terminal.Style

/-!
Markup in messages. A name in square brackets that begins with a small letter, `#`, `/` or `@` is a
mark: it switches a style on, and with a slash in front off again. Backslashes in front of a mark are
halved, and an odd one makes it text. What is printed is the text without its marks, and with the
characters that it asks for by name.
-/

namespace ClientGen.Markup

/-- A part of a message: text, or the inside of a mark. -/
inductive Piece where
  | text (cs : List Char)
  | mark (name : List Char)
  deriving DecidableEq, Repr

/-- Characters that a mark can begin with. -/
def beginsMark (c : Char) : Bool := Text.isAsciiLower c || c = '#' || c = '/' || c = '@'

/-- Characters that neither close a mark nor open another. -/
def isInside (c : Char) : Bool := c ≠ '[' && c ≠ ']'

/-- The mark at the front of a text, and what comes behind it. -/
def readMark? : List Char → Option (List Char × List Char)
  | '[' :: c :: rest =>
    if !beginsMark c then none
    else match rest.dropWhile isInside with
      | ']' :: after => some (c :: rest.takeWhile isInside, after)
      | _ => none
  | _ => none

private theorem dropWhile_length_le (p : Char → Bool) (cs : List Char) :
    (cs.dropWhile p).length ≤ cs.length :=
  (List.dropWhile_sublist p).length_le

/-- What comes behind a mark is shorter than the text that the mark began. -/
theorem readMark?_length {cs name after : List Char} (h : readMark? cs = some (name, after)) :
    after.length < cs.length := by
  unfold readMark? at h
  split at h
  · rename_i c rest
    split at h
    · simp at h
    · split at h
      · rename_i _ tail hd
        have hle := dropWhile_length_le isInside rest
        simp only [Option.some.injEq, Prod.mk.injEq] at h
        obtain ⟨_, rfl⟩ := h
        rw [hd] at hle
        simp only [List.length_cons] at hle ⊢
        omega
      · simp at h
  · simp at h

/-- Text as a piece, where it is not empty; a backslash in front of a bracket goes. -/
def textPiece (cs : List Char) : List Piece :=
  if cs.isEmpty then [] else [.text (unescape cs)]
where
  unescape : List Char → List Char
    | '\\' :: '[' :: rest => '[' :: unescape rest
    | c :: rest => c :: unescape rest
    | [] => []

/-- A mark behind backslashes: the text for the backslashes, then the mark, or its spelling. -/
def markPieces (slashes : Nat) (name : List Char) : List Piece :=
  textPiece (List.replicate (slashes / 2) '\\') ++
    [if slashes % 2 = 0 then .mark name else .text ('[' :: name ++ [']'])]

/-- The pieces of a text; `before` is the text in front of it that no mark has ended. -/
def piecesFrom (before : List Char) (cs : List Char) : List Piece :=
  match cs with
  | [] => textPiece before
  | c :: rest =>
    let slashes := (c :: rest).takeWhile (· = '\\')
    match _h : readMark? ((c :: rest).dropWhile (· = '\\')) with
    | some (name, after) =>
      textPiece before ++ markPieces slashes.length name ++ piecesFrom [] after
    | none => piecesFrom (before ++ [c]) rest
termination_by cs.length
decreasing_by
  · have := readMark?_length _h
    have := dropWhile_length_le (· = '\\') (c :: rest)
    omega
  · simp

/-- The pieces of a message. -/
def pieces (message : String) : List Piece := piecesFrom [] message.toList

/-- The complaint about a mark that switches off what is not on. -/
def unopened : Fault := .raised (.other "MarkupError") "closing tag doesn't match any open tag"

/-- The name of a mark; what follows an equals sign is no part of it. -/
def nameOf (mark : List Char) : List Char := mark.takeWhile (· ≠ '=')

/-- The styles that are on after a mark, the latest first, each in normal form. A style is switched off by
its name, and the latest one by no name. -/
def obey (styles : List String) (mark : List Char) : Except Fault (List String) := do
  match nameOf mark with
  | '/' :: name =>
    if name.all Text.isBlank then
      match styles with
      | [] => throw unopened
      | _ :: older => return older
    else
      let style ← Terminal.Style.normal (Text.trim Text.isBlank name)
      if styles.contains style then return styles.erase style else throw unopened
  | name => return (← Terminal.Style.normal name) :: styles

/-- The text of pieces, if no mark switches off what is not on. -/
def textOf (styles : List String) : List Piece → Except Fault (List Char)
  | [] => .ok []
  | .text cs :: rest => do return Terminal.withCharacters cs ++ (← textOf styles rest)
  | .mark mark :: rest => do textOf (← obey styles mark) rest

/-- What is printed of a message. -/
def plain (message : String) : Except Fault (List Char) := textOf [] (pieces message)

end ClientGen.Markup
