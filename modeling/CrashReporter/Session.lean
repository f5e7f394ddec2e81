import CrashReporter.Context
import CrashReporter.SessionId
import CrashReporter.Time.Timestamp

-- Sessions: a stretch of use whose events are counted. The counters stop at
-- their largest value; a session is marked as tracked only once.

namespace CrashReporter

/-! ## Counters -/

structure EventCounts where
  handled : UInt32 := 0
  unhandled : UInt32 := 0
deriving DecidableEq, Repr, Inhabited

/-- One more, or the largest value if there is no more. -/
def countUp (n : UInt32) : UInt32 := if n = 0xFFFFFFFF then n else n + 1

theorem toNat_countUp (n : UInt32) : (countUp n).toNat = min (n.toNat + 1) 0xFFFFFFFF := by
  unfold countUp
  split
  · next h => subst h; decide
  · next h =>
    have hn : n.toNat ≠ 0xFFFFFFFF := fun e => h (UInt32.toNat_inj.1 e)
    have hlt := n.toNat_lt
    rw [UInt32.toNat_add]
    simp only [UInt32.toNat_one]
    omega

namespace EventCounts

/-- Counts one event. -/
def count (c : EventCounts) (unhandled : Bool) : EventCounts :=
  if unhandled then { c with unhandled := countUp c.unhandled }
  else { c with handled := countUp c.handled }

def toJson (c : EventCounts) : Json :=
  .obj [("handled", .nat c.handled.toNat), ("unhandled", .nat c.unhandled.toNat)]

def reader : Reader EventCounts := fun room t => do
  let p ← Reader.parts? ["handled", "unhandled"] room t
  return { handled := ← p.required "handled" Reader.uint32
           unhandled := ← p.required "unhandled" Reader.uint32 }

end EventCounts

/-! ## Snapshots -/

/-- A session at one moment, as it is reported. -/
structure SessionSnapshot where
  id : SessionId
  startedAt : Instant
  user : Option User
  events : EventCounts
deriving DecidableEq, Repr, Inhabited

namespace SessionSnapshot

def toJson (s : SessionSnapshot) : Json :=
  .obj ([("id", s.id.toJson), ("startedAt", s.startedAt.toJson)] ++
    (s.user.map fun u => ("user", u.toJson)).toList ++ [("events", s.events.toJson)])

def reader : Reader SessionSnapshot := fun room t => do
  let p ← Reader.parts? ["id", "startedAt", "user", "events"] room t
  return { id := ← p.required "id" SessionId.reader
           startedAt := ← p.required "startedAt" Instant.reader
           user := ← p.optional "user" (Reader.option User.reader) none
           events := ← p.required "events" EventCounts.reader }

end SessionSnapshot

/-! ## Sessions -/

structure Session where
  id : SessionId
  startedAt : Instant
  user : Option User
  /-- The session was started by coming to the foreground. -/
  autoCaptured : Bool
  paused : Bool
  /-- The session was released for delivery, or was delivered elsewhere. -/
  tracked : Bool
  counts : EventCounts
deriving DecidableEq, Repr, Inhabited

namespace Session

/-- A session that starts now. -/
def new (id : SessionId) (startedAt : Instant) (user : Option User) (autoCaptured : Bool) :
    Session :=
  ⟨id, startedAt, user, autoCaptured, false, false, {}⟩

/-- A session that was started, and reported, elsewhere. -/
def restored (id : SessionId) (startedAt : Instant) (user : Option User) (counts : EventCounts) :
    Session :=
  ⟨id, startedAt, user, false, false, true, counts⟩

def pause (s : Session) : Session := { s with paused := true }

def resume (s : Session) : Session := { s with paused := false }

def markTracked (s : Session) : Session := { s with tracked := true }

def count (s : Session) (unhandled : Bool) : Session :=
  { s with counts := s.counts.count unhandled }

def snapshot (s : Session) : SessionSnapshot := ⟨s.id, s.startedAt, s.user, s.counts⟩

/-- All that is known of a session. -/
def toJson (s : Session) : Json :=
  .obj [("id", s.id.toJson), ("started_at", s.startedAt.toJson),
    ("user", (s.user.map User.toJson).getD .null), ("auto_captured", .bool s.autoCaptured),
    ("paused", .bool s.paused), ("tracked", .bool s.tracked),
    ("handled", .nat s.counts.handled.toNat), ("unhandled", .nat s.counts.unhandled.toNat)]

end Session

end CrashReporter
