import RemoteRecorder.Text.Integer

/-!
# RemoteRecorder.Instant

**Points in time** and their text in UTC, such as `2024-03-01T12:00:01.500Z`.

* A date is computed from the number of days by the Gregorian calendar, extended to all
  years. The calculation counts years from the first of March, so that the leap day is
  the last day of its year, and takes 400 years (146097 days) at a time.
* The text has the fewest of 0, 3, 6 or 9 digits of a fraction that are exact. Years
  with more than four digits have a plus sign.
* A leap second is the second after the last one of its minute, number 60.
-/

namespace RemoteRecorder

/-! ## Dates -/

/-- A day of the calendar. -/
structure CivilDate where
  year : Nat
  month : Nat
  day : Nat
  deriving DecidableEq

namespace CivilDate

/-- Days from the first of March of the year 0 to the first of January 1970. -/
def epochDay : Nat := 719468

/-- Days before the first of March of the year `y` of an era of 400 years. -/
def daysBefore (y : Nat) : Nat := 365 * y + y / 4 - y / 100

/-- The year of an era that has its first of March on the day `n` of the era or last
before it. -/
def yearOfEra (n : Nat) : Nat := (n - n / 1460 + n / 36524 - n / 146096) / 365

/-- The date `n` days after the first of January 1970. -/
def ofDays (n : Nat) : CivilDate :=
  let days := n + epochDay
  let era := days / 146097
  let dayOfEra := days % 146097
  let year := yearOfEra dayOfEra
  let dayOfYear := dayOfEra - daysBefore year
  -- Months from March to February have 31, 30, 31, 30, 31 days, twice and a bit.
  let month := (5 * dayOfYear + 2) / 153
  let day := dayOfYear - (153 * month + 2) / 5 + 1
  if month < 10 then ⟨era * 400 + year, month + 3, day⟩
  else ⟨era * 400 + year + 1, month - 9, day⟩

/-- The date as year, month and day. -/
def text (d : CivilDate) : String :=
  let year := Text.Integer.digits 4 d.year
  (if 9999 < d.year then "+" ++ year else year) ++ "-" ++
    Text.Integer.digits 2 d.month ++ "-" ++ Text.Integer.digits 2 d.day

end CivilDate

/-! ## Instants -/

/-- A point in time. In a leap second the nanoseconds go on from one second to two. -/
structure Instant where
  /-- Seconds since the first of January 1970, without leap seconds. -/
  seconds : Int
  nanos : Nat
  deriving DecidableEq

namespace Instant

/-- Whether the instant is later than the start of the year 1970. -/
def afterEpoch (t : Instant) : Bool :=
  0 < t.seconds || (t.seconds == 0 && 0 < t.nanos)

/-- The fraction of a second, with the point in front, in as few digits as are exact. -/
def fraction (nanos : Nat) : String :=
  if nanos = 0 then ""
  else if nanos % 1000000 = 0 then "." ++ Text.Integer.digits 3 (nanos / 1000000)
  else if nanos % 1000 = 0 then "." ++ Text.Integer.digits 6 (nanos / 1000)
  else "." ++ Text.Integer.digits 9 nanos

/-- The text of an instant that is not before the epoch. -/
def text (t : Instant) : String :=
  let seconds := t.seconds.toNat
  let time := seconds % 86400
  let second := time % 60 + t.nanos / 1000000000
  (CivilDate.ofDays (seconds / 86400)).text ++ "T" ++
    Text.Integer.digits 2 (time / 3600) ++ ":" ++
    Text.Integer.digits 2 (time / 60 % 60) ++ ":" ++
    Text.Integer.digits 2 second ++ fraction (t.nanos % 1000000000) ++ "Z"

end Instant

end RemoteRecorder
