import ClientGen.Fault
import ClientGen.Text.Similarity

/-!
The grammar of command lines. A long flag is an argument of its own, with its value behind an equals
sign or in the next argument; short flags can be written together behind one dash. Everything behind
two dashes is no flag.
-/

namespace ClientGen

/-- A flag. One that takes no value is a switch, and its negative spellings turn it off. -/
structure Flag where
  destination : String
  spellings : List String
  negatives : List String := []
  takesValue : Bool
  deriving DecidableEq, Repr

/-- What an occurrence of a flag says. -/
inductive Given where
  | value (text : String)
  | switch (on : Bool)
  deriving DecidableEq, Repr

/-- An occurrence of a flag. -/
structure Occurrence where
  destination : String
  given : Given
  deriving DecidableEq, Repr

/-- The flags of a command. -/
structure Grammar where
  flags : List Flag
  /-- Whether unknown flags are passed on as arguments. -/
  lenient : Bool := false
  /-- Whether flags may follow the first argument. -/
  interspersed : Bool := true
  deriving Repr

/-- The flags that a command line has, and its other arguments. -/
structure CommandLine where
  occurrences : List Occurrence := []
  arguments : List String := []
  deriving DecidableEq, Repr

namespace Flag

/-- The dashes, or other marks, in front of a spelling, and its name. A letter or digit is no mark. -/
def splitSpelling : List Char → List Char × List Char
  | [] => ([], [])
  | c :: rest =>
    if Text.isDigit c || (Text.isIdentifierStart c && c ≠ '_') then ([], c :: rest)
    else if rest.head? = some c then ([c, c], rest.tail)
    else ([c], rest)

/-- Spellings of one mark and one character. -/
def isShort (spelling : String) : Bool :=
  let (mark, name) := splitSpelling spelling.toList
  mark.length = 1 && name.length = 1

/-- All spellings, with whether they turn the flag on. -/
def entries (f : Flag) : List (String × Flag × Bool) :=
  f.spellings.map (fun s => (s, f, true)) ++ f.negatives.map fun s => (s, f, false)

end Flag

namespace Grammar

/-- The spellings of all flags. -/
def entries (g : Grammar) : List (String × Flag × Bool) := g.flags.flatMap Flag.entries

/-- Whether every spelling begins with a mark. -/
def isUsable (g : Grammar) : Bool :=
  g.entries.all fun entry => !(Flag.splitSpelling entry.1.toList).1.isEmpty

/-- The marks that flags begin with. -/
def marks (g : Grammar) : List (List Char) :=
  ['-'] :: ['-', '-'] :: g.entries.flatMap fun entry =>
    let mark := (Flag.splitSpelling entry.1.toList).1
    mark.take 1 :: if Flag.isShort entry.1 then [] else [mark]

/-- The flag with a spelling; of several the one declared last. -/
def find? (g : Grammar) (isShort : Bool) (spelling : String) : Option (Flag × Bool) :=
  ((g.entries.reverse.find? fun entry =>
    entry.1 = spelling && Flag.isShort entry.1 = isShort)).map (·.2)

/-- The long spellings. -/
def longSpellings (g : Grammar) : List String :=
  ((g.entries.map (·.1)).filter fun s => !Flag.isShort s).eraseDups

/-- What has been read: flags and arguments so far, and a flag that waits for its value. -/
structure Progress where
  line : CommandLine := {}
  waiting : Option (String × String) := none

namespace Progress

def addOccurrence (p : Progress) (destination : String) (given : Given) : Progress :=
  { p with line := { p.line with occurrences := p.line.occurrences ++ [⟨destination, given⟩] } }

def addArguments (p : Progress) (arguments : List String) : Progress :=
  { p with line := { p.line with arguments := p.line.arguments ++ arguments } }

end Progress

/-- Reads flags written together. Unknown ones are collected where they are passed on. -/
def readCluster (g : Grammar) (mark : Char) : List Char → List Char → Progress →
    Except UsageFault Progress
  | unknown, [], p =>
    .ok (if unknown.isEmpty then p else p.addArguments [String.ofList (mark :: unknown)])
  | unknown, c :: rest, p =>
    let spelling := String.ofList [mark, c]
    match g.find? true spelling with
    | none =>
      if g.lenient then readCluster g mark (unknown ++ [c]) rest p
      else .error (.noSuchOption spelling [])
    | some (flag, on) =>
      if flag.takesValue then
        let p := if unknown.isEmpty then p
          else p.addArguments [String.ofList (mark :: unknown)]
        .ok (if rest.isEmpty then { p with waiting := some (spelling, flag.destination) }
          else p.addOccurrence flag.destination (.value (String.ofList rest)))
      else readCluster g mark unknown rest (p.addOccurrence flag.destination (.switch on))

/-- Cuts an argument at its first equals sign. -/
def cutValue (cs : List Char) : String × Option String :=
  match cs.dropWhile (· ≠ '=') with
  | [] => (String.ofList cs, none)
  | _ :: value => (String.ofList (cs.takeWhile (· ≠ '=')), some (String.ofList value))

/-- Reads an argument that begins like a flag. -/
def readFlag (g : Grammar) (arg : String) (p : Progress) : Except UsageFault Progress :=
  let cs := arg.toList
  let (spelling, value) := cutValue cs
  match g.find? false spelling with
  | some (flag, on) =>
    match flag.takesValue, value with
    | true, some value => .ok (p.addOccurrence flag.destination (.value value))
    | true, none => .ok { p with waiting := some (spelling, flag.destination) }
    | false, some _ => .error (.takesNoValue spelling)
    | false, none => .ok (p.addOccurrence flag.destination (.switch on))
  | none =>
    if !g.marks.contains (cs.take 2) then readCluster g ((cs.head?).getD '-') [] cs.tail p
    else if g.lenient then .ok (p.addArguments [arg])
    else .error (.noSuchOption spelling (Text.suggestions spelling g.longSpellings))

/-- Reads arguments one after the other. -/
def readFrom (g : Grammar) : Progress → List String → Except UsageFault CommandLine
  | p, [] =>
    match p.waiting with
    | some (spelling, _) => .error (.needsArgument spelling)
    | none => .ok p.line
  | p, arg :: rest =>
    match p.waiting with
    | some (_, destination) =>
      let p := { p with waiting := none }
      readFrom g (p.addOccurrence destination (.value arg)) rest
    | none =>
      if arg = "--" then .ok (p.addArguments rest).line
      else if g.marks.contains (arg.toList.take 1) && 1 < arg.length then
        match readFlag g arg p with
        | .ok p => readFrom g p rest
        | .error fault => .error fault
      else if g.interspersed then readFrom g (p.addArguments [arg]) rest
      else .ok (p.addArguments (arg :: rest)).line

/-- Reads a command line. -/
def read (g : Grammar) (args : List String) : Except UsageFault CommandLine := readFrom g {} args

end Grammar

/-- The last thing said about a destination. -/
def CommandLine.last? (line : CommandLine) (destination : String) : Option Given :=
  (line.occurrences.reverse.find? fun o => o.destination = destination).map (·.given)

/-- The destinations in the order in which they first occur. -/
def CommandLine.destinations (line : CommandLine) : List String :=
  (line.occurrences.map (·.destination)).eraseDups

end ClientGen
