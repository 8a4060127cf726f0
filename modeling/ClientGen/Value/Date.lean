import ClientGen.Text.Words
import ClientGen.Text.Quoted

/-!
Calendar dates and moments as documents hold them.
-/

namespace ClientGen

/-- A calendar date. -/
structure Date where
  year : Nat
  month : Nat
  day : Nat
  deriving DecidableEq, Inhabited, Repr

/-- A date with a time of day and, where it is known, the distance to universal time in minutes. -/
structure Moment where
  date : Date
  hour : Nat
  minute : Nat
  second : Nat
  microsecond : Nat
  offset : Option Int
  deriving DecidableEq, Inhabited, Repr

namespace Date

def isLeap (year : Nat) : Bool := year % 4 = 0 && (year % 100 ≠ 0 || year % 400 = 0)

def daysInMonth (year month : Nat) : Nat :=
  if month = 2 then if isLeap year then 29 else 28
  else if month = 4 ∨ month = 6 ∨ month = 9 ∨ month = 11 then 30 else 31

/-- A date that the calendar has. -/
def isValid (d : Date) : Bool :=
  1 ≤ d.year && d.year ≤ 9999 && 1 ≤ d.month && d.month ≤ 12 && 1 ≤ d.day &&
    d.day ≤ daysInMonth d.year d.month

/-- How many days of the calendar lie before a date. -/
def dayNumber (d : Date) : Nat :=
  let years := d.year - 1
  let months := (List.range (d.month - 1)).map fun month => daysInMonth d.year (month + 1)
  365 * years + years / 4 - years / 100 + years / 400 + months.foldr (· + ·) 0 + d.day - 1

/-- Year, month and day with dashes. -/
def isoText (d : Date) : String :=
  Text.padded 4 d.year ++ "-" ++ Text.padded 2 d.month ++ "-" ++ Text.padded 2 d.day

/-- The expression that builds the date. -/
def expression (d : Date) : String :=
  "datetime.date(" ++ Text.join ", " ([d.year, d.month, d.day].map toString) ++ ")"

end Date

namespace Moment

/-- A time of day that the clock has, on a date that the calendar has. -/
def isValid (m : Moment) : Bool :=
  m.date.isValid && m.hour < 24 && m.minute < 60 && m.second < 60 && m.microsecond < 1000000

/-- The millionths of a second from the beginning of the calendar on. -/
def instant (m : Moment) : Int :=
  let minutes : Int := ((m.date.dayNumber * 24 + m.hour) * 60 + m.minute : Nat) - m.offset.getD 0
  (minutes * 60 + m.second) * 1000000 + m.microsecond

/-- Moments with a known distance to universal time are the same where they are the same instant. One
without is never the same as one with. -/
def same (m n : Moment) : Bool := m.offset.isSome = n.offset.isSome && m.instant = n.instant

private def offsetText (minutes : Int) : String :=
  (if minutes < 0 then "-" else "+") ++ Text.padded 2 (minutes.natAbs / 60) ++ ":" ++
    Text.padded 2 (minutes.natAbs % 60)

/-- Date and time with a separator, then the fraction and the offset where there are any. -/
def isoText (m : Moment) (separator : String) : String :=
  m.date.isoText ++ separator ++ Text.padded 2 m.hour ++ ":" ++ Text.padded 2 m.minute ++ ":" ++
    Text.padded 2 m.second ++
    (if m.microsecond = 0 then "" else "." ++ Text.padded 6 m.microsecond) ++
    (m.offset.map offsetText).getD ""

private def zoneExpression (minutes : Int) : String :=
  if minutes = 0 then "datetime.timezone.utc"
  else
    let seconds := minutes * 60
    let days := seconds.fdiv 86400
    let rest := seconds.fmod 86400
    let parts := (if days = 0 then [] else [s!"days={days}"]) ++
      (if rest = 0 then [] else [s!"seconds={rest}"])
    "datetime.timezone(datetime.timedelta(" ++ Text.join ", " parts ++ "))"

/-- The expression that builds the moment; seconds and fraction are left out when zero. -/
def expression (m : Moment) : String :=
  let seconds := if m.second = 0 ∧ m.microsecond = 0 then [] else [toString m.second]
  let fraction := if m.microsecond = 0 then [] else [toString m.microsecond]
  let zone := (m.offset.map fun o => ["tzinfo=" ++ zoneExpression o]).getD []
  let parts := [m.date.year, m.date.month, m.date.day, m.hour, m.minute].map toString
  "datetime.datetime(" ++ Text.join ", " (parts ++ seconds ++ fraction ++ zone) ++ ")"

end Moment

end ClientGen
