import ClientGen.Fault

/-!
Styles of text by description: words for attributes, a colour, a background behind `on`, and an address
behind `link`. Descriptions that mean the same have the same normal form. What describes no style stands
for itself.
-/

namespace ClientGen.Terminal

/-- A style: which attributes it switches on or off, its colours, and the address that it leads to. -/
structure Style where
  attributes : List (String × Bool) := []
  colour : Option String := none
  background : Option String := none
  address : Option String := none
  deriving DecidableEq, Inhabited, Repr

namespace Style

/-- The attributes in the order of normal forms. -/
def attributeNames : List String :=
  ["bold", "dim", "italic", "underline", "blink", "blink2", "reverse", "conceal", "strike",
   "underline2", "frame", "encircle", "overline"]

/-- Short names of attributes. -/
def shortNames : List (String × String) :=
  [("b", "bold"), ("d", "dim"), ("i", "italic"), ("u", "underline"), ("r", "reverse"),
   ("c", "conceal"), ("s", "strike"), ("uu", "underline2"), ("o", "overline")]

/-- The attribute with a name. -/
def attribute? (name : String) : Option String :=
  if attributeNames.contains name then some name
  else (shortNames.find? fun entry => entry.1 = name).map (·.2)

/-- The names of colours. -/
def colourNames : List String :=
  ["black", "red", "green", "yellow", "blue", "magenta", "cyan", "white", "bright_black",
   "bright_red", "bright_green", "bright_yellow", "bright_blue", "bright_magenta", "bright_cyan",
   "bright_white", "grey0", "gray0", "navy_blue", "dark_blue", "blue3", "blue1", "dark_green",
   "deep_sky_blue4", "dodger_blue3", "dodger_blue2", "green4", "spring_green4", "turquoise4",
   "deep_sky_blue3", "dodger_blue1", "green3", "spring_green3", "dark_cyan", "light_sea_green",
   "deep_sky_blue2", "deep_sky_blue1", "spring_green2", "cyan3", "dark_turquoise", "turquoise2",
   "green1", "spring_green1", "medium_spring_green", "cyan2", "cyan1", "dark_red", "deep_pink4",
   "purple4", "purple3", "blue_violet", "orange4", "grey37", "gray37", "medium_purple4",
   "slate_blue3", "royal_blue1", "chartreuse4", "dark_sea_green4", "pale_turquoise4", "steel_blue",
   "steel_blue3", "cornflower_blue", "chartreuse3", "cadet_blue", "sky_blue3", "steel_blue1",
   "pale_green3", "sea_green3", "aquamarine3", "medium_turquoise", "chartreuse2", "sea_green2",
   "sea_green1", "aquamarine1", "dark_slate_gray2", "dark_magenta", "dark_violet", "purple",
   "light_pink4", "plum4", "medium_purple3", "slate_blue1", "yellow4", "wheat4", "grey53",
   "gray53", "light_slate_grey", "light_slate_gray", "medium_purple", "light_slate_blue",
   "dark_olive_green3", "dark_sea_green", "light_sky_blue3", "sky_blue2", "dark_sea_green3",
   "dark_slate_gray3", "sky_blue1", "chartreuse1", "light_green", "pale_green1",
   "dark_slate_gray1", "red3", "medium_violet_red", "magenta3", "dark_orange3", "indian_red",
   "hot_pink3", "medium_orchid3", "medium_orchid", "medium_purple2", "dark_goldenrod",
   "light_salmon3", "rosy_brown", "grey63", "gray63", "medium_purple1", "gold3", "dark_khaki",
   "navajo_white3", "grey69", "gray69", "light_steel_blue3", "light_steel_blue", "yellow3",
   "dark_sea_green2", "light_cyan3", "light_sky_blue1", "green_yellow", "dark_olive_green2",
   "dark_sea_green1", "pale_turquoise1", "deep_pink3", "magenta2", "hot_pink2", "orchid",
   "medium_orchid1", "orange3", "light_pink3", "pink3", "plum3", "violet", "light_goldenrod3",
   "tan", "misty_rose3", "thistle3", "plum2", "khaki3", "light_goldenrod2", "light_yellow3",
   "grey84", "gray84", "light_steel_blue1", "yellow2", "dark_olive_green1", "honeydew2",
   "light_cyan1", "red1", "deep_pink2", "deep_pink1", "magenta1", "orange_red1", "indian_red1",
   "hot_pink", "dark_orange", "salmon1", "light_coral", "pale_violet_red1", "orchid2", "orchid1",
   "orange1", "sandy_brown", "light_salmon1", "light_pink1", "pink1", "plum1", "gold1",
   "navajo_white1", "misty_rose1", "thistle1", "yellow1", "light_goldenrod1", "khaki1", "wheat1",
   "cornsilk1", "grey100", "gray100", "grey3", "gray3", "grey7", "gray7", "grey11", "gray11",
   "grey15", "gray15", "grey19", "gray19", "grey23", "gray23", "grey27", "gray27", "grey30",
   "gray30", "grey35", "gray35", "grey39", "gray39", "grey42", "gray42", "grey46", "gray46",
   "grey50", "gray50", "grey54", "gray54", "grey58", "gray58", "grey62", "gray62", "grey66",
   "gray66", "grey70", "gray70", "grey74", "gray74", "grey78", "gray78", "grey82", "gray82",
   "grey85", "gray85", "grey89", "gray89", "grey93", "gray93"]

/-- A component of a colour. There must be a number. -/
def component (cs : List Char) : Except Fault Nat :=
  match cs.mapM Text.decimalValue? with
  | some (d :: ds) => .ok ((d :: ds).foldl (fun n d => 10 * n + d) 0)
  | _ => .error Fault.badValue

/-- Whether components are those of a colour: three numbers of one byte. -/
def areComponents (parts : List (List Char)) : Except Fault Bool := do
  if parts.length ≠ 3 then return false
  return (← parts.mapM component).all (· ≤ 255)

/-- What stands between an opening and the closing bracket at the end. -/
def inner? (opening : String) (cs : List Char) : Option (List Char) :=
  match Text.dropLeading? opening.toList cs with
  | some rest => if rest.getLast? = some ')' then some rest.dropLast else none
  | none => none

/-- A digit of a number to the base sixteen, in small letters. -/
def isHexDigit (c : Char) : Bool := ('0' ≤ c && c ≤ '9') || ('a' ≤ c && c ≤ 'f')

/-- Whether a word in small letters is a colour: a name, six digits to the base sixteen, a number of one
byte, or three of them. -/
def isColour (cs : List Char) : Except Fault Bool :=
  if (["default"] ++ colourNames).contains (String.ofList cs) then .ok true
  else match cs, inner? "color(" cs, inner? "rgb(" cs with
    | '#' :: digits, _, _ => .ok (digits.length = 6 && digits.all isHexDigit)
    | _, some digits, _ =>
      if digits.length ≤ 3 && !digits.isEmpty && digits.all Text.isAsciiDigit then do
        return (← component digits) ≤ 255
      else .ok false
    | _, _, some parts =>
      if !parts.isEmpty && parts.all (fun c => c = ',' || (Text.decimalValue? c).isSome) then
        areComponents (Text.fields (· = ',') parts)
      else .ok false
    | _, _, _ => .ok false

/-- A word as a colour, in small letters. -/
def colour? (word : List Char) : Except Fault (Option String) := do
  let lowered := word.flatMap Text.lower
  return if ← isColour lowered then some (String.ofList lowered) else none

/-- A style with an attribute switched on or off. -/
def switch (s : Style) (name : String) (on : Bool) : Style :=
  { s with attributes := (s.attributes.filter (·.1 ≠ name)) ++ [(name, on)] }

/-- Adds the words of a description to a style; there is none if they describe none. -/
def readWords : Style → List (List Char) → Except Fault (Option Style)
  | s, [] => .ok (some s)
  | s, word :: rest =>
    let name := String.ofList (word.flatMap Text.lower)
    match name, rest with
    | "on", [] => .ok none
    | "on", next :: rest => do
      match ← colour? next with
      | some background => readWords { s with background } rest
      | none => return none
    | "not", [] => .ok none
    | "not", next :: rest =>
      match attribute? (String.ofList next) with
      | some a => readWords (s.switch a false) rest
      | none => .ok none
    | "link", [] => .ok none
    | "link", next :: rest => readWords { s with address := String.ofList next } rest
    | _, rest =>
      match attribute? name with
      | some a => readWords (s.switch a true) rest
      | none => do
        match ← colour? word with
        | some colour => readWords { s with colour } rest
        | none => return none
termination_by _ words => words.length

/-- The words of a style in normal form. -/
def words (s : Style) : List String :=
  (attributeNames.filterMap fun name =>
    (s.attributes.find? (·.1 = name)).map fun entry => if entry.2 then name else "not " ++ name) ++
    s.colour.toList ++ (s.background.map ("on " ++ ·)).toList ++ (s.address.map ("link " ++ ·)).toList

/-- The normal form of a style. -/
def description (s : Style) : String :=
  if s.words.isEmpty then "none" else Text.join " " s.words

/-- The normal form of a description. What describes no style is only brought to small letters. -/
def normal (description : List Char) : Except Fault String := do
  let trimmed := Text.trim Text.isBlank description
  if trimmed = "none".toList then return "none"
  let words := (Text.fields Text.isBlank trimmed).filter fun word => !word.isEmpty
  match ← readWords {} words with
  | some style => return style.description
  | none => return String.ofList (trimmed.flatMap Text.lower)

end Style

end ClientGen.Terminal
