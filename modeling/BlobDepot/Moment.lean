/-! # Moments

A moment of Coordinated Universal Time, counted from the beginning of 1970, and
its texts by RFC 3339: one with the difference of the time zone and as many digits
as the moment needs, and one for the log, where all moments are equally long.
-/

namespace BlobDepot

/-- A moment: whole seconds since 1970 and the nanoseconds after them. -/
structure Moment where
  seconds : Int
  nanos : Nat := 0
  deriving DecidableEq, Repr

namespace Moment

def totalNanos (m : Moment) : Int :=
  m.seconds * 1000000000 + m.nanos

/-- The whole seconds from one moment to a later one; zero if it is not later. -/
def secondsSince (now start : Moment) : Nat :=
  (now.totalNanos - start.totalNanos).toNat / 1000000000

/-- The year, month and day of a day counted from the beginning of 1970.  Years
    are counted from March on, so that a leap day is the last of its year. -/
def civilDate (day : Int) : Int × Nat × Nat :=
  let shifted := day + 719468
  let era := shifted.fdiv 146097
  let dayOfEra := (shifted - era * 146097).toNat
  let yearOfEra := (dayOfEra - dayOfEra / 1460 + dayOfEra / 36524 - dayOfEra / 146096) / 365
  let dayOfYear := dayOfEra - (365 * yearOfEra + yearOfEra / 4 - yearOfEra / 100)
  let marchMonth := (5 * dayOfYear + 2) / 153
  let dayOfMonth := dayOfYear - (153 * marchMonth + 2) / 5 + 1
  let month := if marchMonth < 10 then marchMonth + 3 else marchMonth - 9
  let year := era * 400 + yearOfEra + (if month ≤ 2 then 1 else 0)
  (year, month, dayOfMonth)

/-- A number with leading zeros up to `width` digits. -/
def padded (width n : Nat) : String :=
  let digits := toString n
  String.ofList (List.replicate (width - digits.length) '0') ++ digits

/-- A fraction of a second: nothing, or three, six or nine digits as it needs. -/
def fraction (nanos : Nat) : String :=
  if nanos = 0 then ""
  else if nanos % 1000000 = 0 then "." ++ padded 3 (nanos / 1000000)
  else if nanos % 1000 = 0 then "." ++ padded 6 (nanos / 1000)
  else "." ++ padded 9 nanos

/-- The date and the time of day in whole seconds. -/
def dateAndTime (m : Moment) : String :=
  let (year, month, day) := civilDate (m.seconds.fdiv 86400)
  let second := (m.seconds.fmod 86400).toNat
  padded 4 year.toNat ++ "-" ++ padded 2 month ++ "-" ++ padded 2 day ++ "T" ++
    padded 2 (second / 3600) ++ ":" ++ padded 2 (second / 60 % 60) ++ ":" ++
    padded 2 (second % 60)

def text (m : Moment) : String :=
  m.dateAndTime ++ fraction m.nanos ++ "+00:00"

/-- The text of a moment in front of a log line, to the microsecond. -/
def stamp (m : Moment) : String :=
  m.dateAndTime ++ "." ++ padded 6 (m.nanos / 1000) ++ "Z"

end Moment

end BlobDepot
