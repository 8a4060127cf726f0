import ClientGen.Reading

/-!
The log: what the program reports on its way, with a level and the part that reports it.
-/

namespace ClientGen

/-- How much a report matters. -/
inductive Level where
  | debug
  | info
  | warning
  | error
  | critical
  deriving DecidableEq, Inhabited, Repr

namespace Level

/-- The weight of a level; a log shows the records from one weight on. -/
def weight : Level → Nat
  | debug => 10
  | info => 20
  | warning => 30
  | error => 40
  | critical => 50

/-- The name of a level in output. -/
def label : Level → String
  | debug => "DEBUG"
  | info => "INFO"
  | warning => "WARNING"
  | error => "ERROR"
  | critical => "CRITICAL"

/-- The level of a name. -/
def ofLabel? (label : String) : Option Level :=
  [debug, info, warning, error, critical].find? fun level => level.label = label

end Level

/-- One report. -/
structure LogRecord where
  level : Level
  source : String
  text : String
  deriving DecidableEq, Inhabited, Repr

/-- A monad that keeps a log. -/
class Logging (m : Type → Type) where
  note : LogRecord → m Unit

export Logging (note)

/-- Runs without plugins: they can fail, and they leave a log also when they fail. -/
abbrev Logged := ExceptT Fault (StateM (List LogRecord))

instance : Logging Logged where
  note record := modify (· ++ [record])

instance : Reading Value Logged where
  shape v := pure v.shape
  whole v := pure v
  extent v := pure v.size

end ClientGen
