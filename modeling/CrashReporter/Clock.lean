import CrashReporter.Time.Instant

-- A clock that is moved by hand. It counts whole milliseconds in 64 bits and
-- wraps around; a count that names no instant reads as the earliest one.

namespace CrashReporter

structure Clock where
  /-- Milliseconds since 1970. -/
  millis : Int64
deriving DecidableEq, Repr, Inhabited

namespace Clock

/-- A clock that shows an instant, rounded down to the millisecond. -/
def showing (t : Instant) : Clock := ⟨Int64.ofInt t.toMillis⟩

/-- Moves the clock on by whole milliseconds, at most by its largest value. -/
def advance (c : Clock) (millis : Nat) : Clock :=
  ⟨c.millis + Int64.ofNat (min millis 0x7FFFFFFFFFFFFFFF)⟩

def now (c : Clock) : Instant := (Instant.ofMillis? c.millis.toInt).getD Instant.earliest

end Clock

end CrashReporter
