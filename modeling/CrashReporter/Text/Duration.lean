import CrashReporter.Decimal.Digits

-- Durations as they show in diagnostics: in the largest unit that is not zero,
-- with no more places than it takes.

namespace CrashReporter.Text

open Decimal

/-- Digits behind the point, up to the last one that counts. -/
def places (ds : List Char) : List Char :=
  let kept := (ds.reverse.dropWhile (· == '0')).reverse
  if kept.isEmpty then [] else '.' :: kept

/-- Nanoseconds in a unit of so many, with at most so many places. -/
def inUnit (nanos size most : Nat) (unit : String) : String :=
  String.ofList (digits (nanos / size) ++ places (padded most (nanos % size)) ++ unit.toList)

/-- A duration in nanoseconds. -/
def duration (nanos : Nat) : String :=
  if 1000000000 ≤ nanos then inUnit nanos 1000000000 9 "s"
  else if 1000000 ≤ nanos then inUnit nanos 1000000 6 "ms"
  else if 1000 ≤ nanos then inUnit nanos 1000 3 "µs"
  else inUnit nanos 1 0 "ns"

end CrashReporter.Text
