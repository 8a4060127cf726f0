import ClientGen.Terminal.Wrapping

/-!
Tables in a box of line-drawing characters. Every column is as wide as its widest cell with a blank on
both sides. Where that is wider than the terminal, the widest columns give way first; a column without room
for more than its blanks shows nothing.
-/

namespace ClientGen.Terminal

/-- A table with a heading for each column. -/
structure Table where
  headers : List (List Char)
  rows : List (List (List Char))
  title : Option (List Char) := none
  deriving Repr

namespace Table

/-- The number of columns: rows can have more cells than there are headings. -/
def columnCount (t : Table) : Nat := (t.headers :: t.rows).foldl (fun n row => max n row.length) 0

/-- All rows, headings first, each filled up with empty cells. -/
def grid (t : Table) : List (List (List Char)) :=
  (t.headers :: t.rows).map fun row => row ++ List.replicate (t.columnCount - row.length) []

/-- Characters that end a line when text is measured. -/
def endsLine (c : Char) : Bool :=
  let n := c.toNat
  (0x0a ≤ n && n ≤ 0x0d) || (0x1c ≤ n && n ≤ 0x1e) || n = 0x85 || n = 0x2028 || n = 0x2029

/-- How wide a cell wants to be, with a blank on both sides. -/
def cellWidth (cell : List Char) : Nat :=
  ((Text.fields endsLine cell).map width).foldl max 0 + 2

/-- How wide the columns want to be, where none can have more than the room that there is for all. -/
def naturalWidths (room : Nat) (t : Table) : List Nat :=
  ((t.grid.map fun row => row.map cellWidth).foldl (List.zipWith max)
    (List.replicate t.columnCount 0)).map fun w => max 1 (min room w)

/-- A quotient rounded to the nearest number, and from the middle to the even one. -/
def nearest (n d : Nat) : Nat :=
  let q := n / d
  let twice := 2 * (n % d)
  if d < twice ∨ (twice = d ∧ q % 2 = 1) then q + 1 else q

/-- Takes an excess away from the chosen columns in equal shares, from none more than a limit; `count` is
the number of chosen columns that are left. -/
def shareOut (excess count : Nat) : List (Nat × Bool × Nat) → List Nat
  | [] => []
  | (w, chosen, limit) :: rest =>
    if chosen && 0 < count then
      let share := min limit (nearest excess count)
      (w - share) :: shareOut (excess - share) (count - 1) rest
    else w :: shareOut excess count rest

/-- The width of all columns together. -/
def totalWidth (ws : List Nat) : Nat := ws.foldr (· + ·) 0

/-- Narrows the widest columns down to the next widest, again and again, until the excess is gone; each
round but the last makes two columns equal. -/
def narrowFrom : Nat → Nat → List Nat → List Nat
  | 0, _, ws => ws
  | rounds + 1, room, ws =>
    let excess := totalWidth ws - room
    let widest := ws.foldl max 0
    let second := (ws.map fun w => if w = widest then 0 else w).foldl max 0
    if excess = 0 ∨ widest = second then ws
    else
      let chosen := ws.map fun w => (w, decide (w = widest), min excess (widest - second))
      narrowFrom rounds room (shareOut excess (ws.count widest) chosen)

/-- The widths of the columns where there is room for so much. -/
def fitWidths (room : Nat) (ws : List Nat) : List Nat :=
  if totalWidth ws ≤ room then ws
  else
    let narrowed := narrowFrom (totalWidth ws + 1) room ws
    if totalWidth narrowed ≤ room then narrowed
    else shareOut (totalWidth narrowed - room) (narrowed.countP (0 < ·))
      (narrowed.map fun w => (w, decide (0 < w), w))

/-- A line of the box. -/
def rule (left across between right : Char) (ws : List Nat) : List Char :=
  left :: List.intercalate [between] (ws.map fun w => List.replicate w across) ++ [right]

/-- The lines of a cell, as wide as its column. -/
def cellLines (w : Nat) (cell : List Char) : List (List Char) :=
  if w ≤ 2 then []
  else (wrap .left .ellipsis (w - 2) cell).map fun line => blanks 1 ++ fill (w - 2) line ++ blanks 1

/-- The lines of a row, as many as its tallest cell has. Headings stand at the bottom of their row, other
cells at the top. -/
def rowLines (edge : Char) (atBottom : Bool) (ws : List Nat) (row : List (List Char)) :
    List (List Char) :=
  (abreast atBottom ((ws.zip row).map fun (w, cell) => (w, cellLines w cell))).map fun parts =>
    edge :: List.intercalate [edge] parts ++ [edge]

/-- The lines of a table before they are cut at the edge of the terminal; a table without columns is one
empty line. -/
def wholeLines (limit : Nat) (t : Table) : List (List Char) :=
  if t.columnCount = 0 then [[]]
  else
    let frame := t.columnCount + 1
    let room := limit - frame
    let ws := fitWidths room (t.naturalWidths room)
    let title := t.title.elim [] (wrap .centre .fold (totalWidth ws + frame))
    let head := (t.grid.take 1).flatMap (rowLines '┃' true ws)
    let body := (t.grid.drop 1).flatMap (rowLines '│' false ws)
    title ++ [rule '┏' '━' '┳' '┓' ws] ++ head ++ [rule '┡' '━' '╇' '┩' ws] ++ body ++
      [rule '└' '─' '┴' '┘' ws]

/-- The lines of a table in a terminal of limited width. A terminal without columns shows nothing. -/
def lines (limit : Nat) (t : Table) : List (List Char) :=
  if limit = 0 then [] else (t.wholeLines limit).map (crop limit)

end Table

end ClientGen.Terminal
