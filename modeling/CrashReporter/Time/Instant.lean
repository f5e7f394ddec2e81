import CrashReporter.Time.Calendar

-- Points in time, in UTC and to the nanosecond. A leap second is the second
-- before it with more than a thousand million nanoseconds.

namespace CrashReporter

open Time

/-- A point in time: the day, the second of the day and the nanosecond, which is
at least `10^9` within a leap second. -/
structure Instant where
  day : Int
  second : Nat
  nano : Nat
deriving DecidableEq, Repr, Inhabited

namespace Instant

/-- The first instant there is. -/
def earliest : Instant := ⟨firstDay, 0, 0⟩

/-- Whole milliseconds since 1970, rounded down. -/
def toMillis (t : Instant) : Int := (t.day * 86400 + t.second) * 1000 + (t.nano / 1000000 : Nat)

/-- The instant so many milliseconds after 1970, if it can be named. -/
def ofMillis? (millis : Int) : Option Instant :=
  let seconds := millis / 1000
  let day := seconds / 86400
  if firstDay ≤ day ∧ day ≤ lastDay then
    some ⟨day, (seconds % 86400).toNat, (millis % 1000).toNat * 1000000⟩
  else none

/-- The time from `earlier` to `later` in nanoseconds. A leap second counts only
where the later time of day is past the one it belongs to. -/
def since (later earlier : Instant) : Int :=
  let leap : Int :=
    if earlier.second < later.second then if earlier.nano ≥ 1000000000 then 1 else 0
    else if later.second < earlier.second then if later.nano ≥ 1000000000 then -1 else 0
    else 0
  let seconds := (later.day - earlier.day) * 86400 + ((later.second : Int) - earlier.second) + leap
  seconds * 1000000000 + ((later.nano : Int) - earlier.nano)

/-- The time that has passed in nanoseconds; none if time went back. -/
def elapsed (later earlier : Instant) : Nat := (later.since earlier).toNat

/-- The instant a whole number of seconds earlier, with the same fraction. -/
def backBy? (t : Instant) (seconds : Int) : Option Instant :=
  let second := (t.second : Int) - seconds
  let day := t.day + second / 86400
  if firstDay ≤ day ∧ day ≤ lastDay then some ⟨day, (second % 86400).toNat, t.nano⟩ else none

end Instant

end CrashReporter
