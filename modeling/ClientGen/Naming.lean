import ClientGen.Fault

/-!
Names of the generated module. `snakeCase` names functions, arguments and servers, `typeName` names
types, and `functionName` names the function of an operation. All three yield identifiers: other
characters are replaced, a leading digit gets a low line in front, and a reserved word one behind.
-/

namespace ClientGen.Naming

/-- The words that the generated language reserves. -/
def keywords : List String :=
  ["False", "None", "True", "and", "as", "assert", "async", "await", "break", "class", "continue",
   "def", "del", "elif", "else", "except", "finally", "for", "from", "global", "if", "import",
   "in", "is", "lambda", "nonlocal", "not", "or", "pass", "raise", "return", "try", "while",
   "with", "yield"]

def isKeyword (name : List Char) : Bool := keywords.any fun k => k.toList = name

/-- Whether a text can be bound as a name, reserved words aside. -/
def isIdentifier : List Char → Bool
  | [] => false
  | c :: rest => Text.isIdentifierStart c && rest.all Text.isIdentifierContinue

/-- Whether a new word begins at `b` when it stands between `a` and the rest: a capital behind a
small letter or digit, or the last capital of several in front of a small letter. -/
def beginsWord (a b : Char) (rest : List Char) : Bool :=
  Text.isAsciiUpper b &&
    (Text.isAsciiLower a || Text.isAsciiDigit a ||
      (Text.isAsciiUpper a && match rest with
        | [] => false
        | c :: _ => Text.isAsciiLower c))

/-- Separates the words that capitals mark by low lines. -/
def separateWords : List Char → List Char
  | [] => []
  | [c] => [c]
  | a :: b :: rest =>
    if beginsWord a b rest then a :: '_' :: separateWords (b :: rest)
    else a :: separateWords (b :: rest)

/-- A character of a name, or a low line in place of any other character. -/
def nameChar (c : Char) : Char := if Text.isWord c || c = '_' then c else '_'

/-- Writes every run of low lines as a single one. -/
def squeeze : List Char → List Char
  | [] => []
  | [c] => [c]
  | a :: b :: rest => if a = '_' ∧ b = '_' then squeeze (b :: rest) else a :: squeeze (b :: rest)

/-- The words of a name in lower case, joined by single low lines. -/
def snakeWords (name : List Char) : List Char :=
  let lowered := (separateWords name).flatMap Text.lower
  Text.trim (· = '_') (squeeze (lowered.map nameChar))

/-- Keeps a name from beginning with a digit. -/
def guardDigit : List Char → List Char
  | [] => []
  | c :: rest => if Text.isDigit c then '_' :: c :: rest else c :: rest

/-- Keeps a name from being a reserved word. -/
def guardKeyword (name : List Char) : List Char :=
  if isKeyword name then name ++ ['_'] else name

/-- The name of a function, argument or server. The fallback stands in where no word is left; with
an empty fallback there is then no name. -/
def snakeCase (name fallback : String) : Except Fault String :=
  let words := snakeWords name.toList
  let chosen := if words.isEmpty then fallback.toList else words
  if chosen.isEmpty then .error .outOfRange
  else .ok (String.ofList (guardKeyword (guardDigit chosen)))

/-- The first character in upper case. -/
def capitalize : List Char → List Char
  | [] => []
  | c :: rest => Text.upper c ++ rest

/-- The name of a type. A name that can be bound keeps its casing; otherwise the words of ASCII
letters and digits are joined, each with its first letter in upper case. -/
def typeName (name : String) : String :=
  let cs := name.toList
  let joined :=
    if isIdentifier cs && !isKeyword cs then capitalize cs
    else
      let words := Text.fields (fun c => !Text.isWord c) cs
      let joined := words.flatMap capitalize
      if joined.isEmpty then "Schema".toList else joined
  String.ofList (guardDigit joined)

/-- Opening and closing braces. -/
def isBrace (c : Char) : Bool := c = '\x7b' || c = '\x7d'

/-- The name of an operation's function: from its identifier if it has one, else from the method and
the segments of the path. -/
def functionName (operationId : Option String) (method path : String) : Except Fault String :=
  match operationId with
  | some id =>
    if id.isEmpty then fromPath else snakeCase id method
  | none => fromPath
where
  /-- Method and segments in one name. -/
  fromPath : Except Fault String :=
    let segments := (Text.fields (· = '/') path.toList).filter (!·.isEmpty)
    let names := segments.map fun segment => String.ofList (Text.trim isBrace segment)
    snakeCase (Text.join "_" (method :: names)) method

end ClientGen.Naming
