/-!
# Points in time

A moment counts seconds since the start of 1970, in UTC and without leap seconds, and the
nanoseconds after the last of them. `Moment.text` is its date and time of day in the proleptic
Gregorian calendar.
-/

namespace JobLog

/-- A point in time. -/
structure Moment where
  seconds : Int
  nanos : Nat
  deriving DecidableEq, Repr

/-- A year, a month from 1 and a day from 1. -/
structure Date where
  year : Int
  month : Nat
  day : Nat
  deriving DecidableEq, Repr

/-- The date that lies `days` after the first of January 1970. Years are counted from March, so that
a leap day ends its year, within eras of 400 years, which all have 146097 days. -/
def Date.ofDays (days : Int) : Date :=
  let shifted := days + 719468
  let era := shifted / 146097
  let dayOfEra := (shifted % 146097).toNat
  let yearOfEra :=
    (dayOfEra - dayOfEra / 1460 + dayOfEra / 36524 - dayOfEra / 146096) / 365
  let dayOfYear := dayOfEra - (365 * yearOfEra + yearOfEra / 4 - yearOfEra / 100)
  let fromMarch := (5 * dayOfYear + 2) / 153
  let month := if fromMarch < 10 then fromMarch + 3 else fromMarch - 9
  let year := (yearOfEra : Int) + era * 400 + (if month ≤ 2 then 1 else 0)
  ⟨year, month, dayOfYear - (153 * fromMarch + 2) / 5 + 1⟩

/-- A number with zeros in front up to `width` digits. -/
def padded (width n : Nat) : String :=
  let digits := toString n
  String.ofList (List.replicate (width - digits.length) '0') ++ digits

/-- A year with at least four digits; outside 0 to 9999 it has a sign. -/
def yearText (year : Int) : String :=
  if year < 0 then "-" ++ padded 4 year.natAbs
  else if year ≤ 9999 then padded 4 year.toNat
  else "+" ++ padded 5 year.toNat

def Date.text (date : Date) : String :=
  yearText date.year ++ "-" ++ padded 2 date.month ++ "-" ++ padded 2 date.day

/-- Digits after the point: none, three, six or nine, the fewest that are exact. -/
def fractionText (nanos : Nat) : String :=
  if nanos = 0 then ""
  else if nanos % 1000000 = 0 then "." ++ padded 3 (nanos / 1000000)
  else if nanos % 1000 = 0 then "." ++ padded 6 (nanos / 1000)
  else "." ++ padded 9 nanos

/-- Date and time of day up to the second. -/
def Moment.clock (moment : Moment) : String :=
  let second := (moment.seconds % 86400).toNat
  (Date.ofDays (moment.seconds / 86400)).text ++ "T" ++ padded 2 (second / 3600) ++ ":" ++
    padded 2 (second / 60 % 60) ++ ":" ++ padded 2 (second % 60)

/-- A moment as date and time of day in UTC. -/
def Moment.text (moment : Moment) : String :=
  moment.clock ++ fractionText moment.nanos ++ "Z"

/-- A moment with microseconds, as log lines show it. -/
def Moment.stamp (moment : Moment) : String :=
  moment.clock ++ "." ++ padded 6 (moment.nanos / 1000) ++ "Z"

/-- The date of a moment. -/
def Moment.date (moment : Moment) : Date :=
  Date.ofDays (moment.seconds / 86400)

example : Moment.text ⟨951782400, 0⟩ = "2000-02-29T00:00:00Z" := by cbv
example : Moment.text ⟨-1, 120000000⟩ = "1969-12-31T23:59:59.120Z" := by cbv
example : Moment.text ⟨253402300800, 5000⟩ = "+10000-01-01T00:00:00.000005Z" := by cbv

end JobLog
