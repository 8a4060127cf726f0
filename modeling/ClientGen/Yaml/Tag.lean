import ClientGen.Text.Pattern
import ClientGen.Text.Words

/-!
Tags: the kinds of values in YAML. A plain scalar without a tag has the kind that its text looks like,
and so has every scalar with the tag that settles nothing.
-/

namespace ClientGen.Yaml

/-- The kind of a node. -/
inductive Tag where
  | null
  | bool
  | int
  | float
  | binary
  | timestamp
  | pairs
  | set
  | text
  | sequence
  | mapping
  /-- A key that stands for the entries of other mappings. -/
  | merge
  /-- A key that stands for the value of its mapping. -/
  | value
  | unknown
  deriving DecidableEq, Inhabited, Repr

namespace Tag

/-- The tags of the common kinds. -/
def names : List (String × Tag) :=
  [("null", null), ("bool", bool), ("int", int), ("float", float), ("binary", binary),
   ("timestamp", timestamp), ("omap", pairs), ("pairs", pairs), ("set", set), ("str", text),
   ("seq", sequence), ("map", mapping), ("merge", merge), ("value", value)]

/-- What the tags of the common kinds begin with. -/
def commonSpace : String := "tag:yaml.org,2002:"

/-- The kind that a full tag names. -/
def ofText (tag : String) : Tag :=
  match Text.dropLeading? commonSpace.toList tag.toList with
  | some rest => ((names.find? fun entry => entry.1.toList = rest).map (·.2)).getD unknown
  | none => unknown

open Text.Pattern in
/-- The texts that look like a kind, besides those that look like text. -/
def patterns : List (Tag × Text.Pattern) :=
  let digit := oneOf "0123456789"
  let sign := optional (oneOf "+-")
  let digits := many (oneOf "0123456789_")
  let exponent := optional (all [oneOf "eE", oneOf "+-", atLeastOnce digit])
  let sixty := atLeastOnce (all [word ":", optional (oneOf "012345"), digit])
  let zone := all [many (oneOf " \t"), orElse (word "Z")
    (all [oneOf "+-", digit, optional digit, optional (all [word ":", digit, digit])])]
  let year := all [digit, digit, digit, digit, word "-"]
  let short := all [digit, optional digit]
  let time := all [short, word ":", digit, digit, word ":", digit, digit,
    optional (all [word ".", many digit]), optional zone]
  [(bool, anyOf ["yes", "Yes", "YES", "no", "No", "NO", "true", "True", "TRUE", "false", "False",
     "FALSE", "on", "On", "ON", "off", "Off", "OFF"]),
   (float, all [sign, digit, digits, word ".", digits, exponent]),
   (float, all [word ".", digit, digits, exponent]),
   (float, all [sign, digit, digits, sixty, word ".", digits]),
   (float, all [sign, word ".", anyOf ["inf", "Inf", "INF"]]),
   (float, anyOf [".nan", ".NaN", ".NAN"]),
   (int, all [sign, word "0b", atLeastOnce (oneOf "01_")]),
   (int, all [sign, word "0", atLeastOnce (oneOf "01234567_")]),
   (int, all [sign, orElse (word "0") (all [oneOf "123456789", digits])]),
   (int, all [sign, word "0x", atLeastOnce (oneOf "0123456789abcdefABCDEF_")]),
   (int, all [sign, oneOf "123456789", digits, sixty]),
   (merge, word "<<"),
   (null, anyOf ["~", "null", "Null", "NULL", ""]),
   (timestamp, all [year, digit, digit, word "-", digit, digit]),
   (timestamp, all [year, short, word "-", short,
     orElse (oneOf "Tt") (atLeastOnce (oneOf " \t")), time]),
   (value, word "="),
   (unknown, anyOf ["!", "&", "*"])]

/-- A text without the line break at its end. A line break by itself stays. -/
def withoutBreak (chars : List Char) : List Char :=
  if 1 < chars.length ∧ chars.getLast? = some '\n' then chars.dropLast else chars

/-- The kind of a scalar that is to be judged by its looks. A line break at its end, which only quoted
text and blocks can have, makes no difference to the looks. -/
def ofLooks (chars : List Char) : Tag :=
  let core := withoutBreak chars
  ((patterns.find? fun entry => entry.2.accepts core).map (·.1)).getD text

end Tag

end ClientGen.Yaml
