import CrashReporter.Callback
import CrashReporter.Foreground
import CrashReporter.Payload
import CrashReporter.StateEvent
import CrashReporter.Text.Duration

-- The current session. The tracker keeps every session there was and says which
-- of them is current. Each step answers with the events that tell of it, so that
-- the log of events determines the current session.

namespace CrashReporter

structure SessionTracker where
  /-- Coming to the foreground may start sessions. -/
  autoTrack : Bool := true
  /-- How many milliseconds in the background end a stretch of use. -/
  timeout : Nat := 30000
  /-- How many nanoseconds more it takes. -/
  timeoutNanos : Nat := 0
  user : User := {}
  /-- Every session, in the order they became current. -/
  sessions : List Session := []
  /-- The place of the current session among them. -/
  current : Option Nat := none
  foreground : Foreground := {}
deriving Inhabited

namespace SessionTracker

/-! ## Sessions -/

def session? (t : SessionTracker) (number : Nat) : Option Session := t.sessions[number]?

def change (t : SessionTracker) (number : Nat) (f : Session → Session) : SessionTracker :=
  { t with sessions := t.sessions.modify number f }

/-- The user that new sessions carry, if anything is known. -/
def sessionUser (t : SessionTracker) : Option User :=
  if t.user.isEmpty then none else some t.user

/-- The number of the current session, unless it is paused. -/
def active? (t : SessionTracker) : Option Nat :=
  t.current.filter fun n => (t.session? n).any fun s => !s.paused

def activeSession? (t : SessionTracker) : Option Session := t.active?.bind t.session?

/-- Events refer to a session unless it was started automatically and automatic
sessions are off. -/
def attaches (t : SessionTracker) (s : Session) : Bool := t.autoTrack || !s.autoCaptured

/-! ## Changing the current session -/

/-- Makes a session the current one. -/
def adopt (t : SessionTracker) (s : Session) : SessionTracker × List StateEvent :=
  ({ t with sessions := t.sessions ++ [s], current := some t.sessions.length }, [.ofSession s])

/-- Starts a session, which takes the place of the current one. -/
def startNew (t : SessionTracker) (id : SessionId) (now : Instant) (user : Option User)
    (autoCaptured : Bool) : SessionTracker × List StateEvent :=
  t.adopt (.new id now user autoCaptured)

/-- Starts a session for the user. -/
def start (t : SessionTracker) (id : SessionId) (now : Instant) (autoCaptured : Bool) :
    SessionTracker × List StateEvent :=
  t.startNew id now t.sessionUser autoCaptured

def pause (t : SessionTracker) : SessionTracker × List StateEvent :=
  match t.current with
  | some n => (t.change n Session.pause, [.sessionPaused])
  | none => (t, [])

/-- What came of resuming. -/
inductive Resumed
  | resumed
  | alreadyActive
  /-- There was no session, so one was started. -/
  | started
deriving DecidableEq, Repr, Inhabited

/-- Resumes the current session, or starts one under the given id. -/
def resume (t : SessionTracker) (id : SessionId) (now : Instant) :
    SessionTracker × List StateEvent × Resumed :=
  match t.current.bind fun n => (t.session? n).map fun s => (n, s) with
  | none =>
    let (t, events) := t.start id now false
    (t, events, .started)
  | some (n, s) =>
    if s.paused then (t.change n Session.resume, [.ofSession s.resume], .resumed)
    else (t, [], .alreadyActive)

/-- Takes over a session that was started elsewhere. -/
def register (t : SessionTracker) (s : Option Session) : SessionTracker × List StateEvent :=
  match s with
  | some s => t.adopt s
  | none => ({ t with current := none }, [.sessionPaused])

/-! ## Events of a session -/

/-- Counts an event for a session, and gives the session with the new counts. -/
def count (t : SessionTracker) (number : Nat) (unhandled : Bool) :
    SessionTracker × Option SessionSnapshot :=
  let t := t.change number fun s => s.count unhandled
  (t, (t.session? number).map Session.snapshot)

/-- Counts an event for the current session, unless it is paused. -/
def countActive (t : SessionTracker) (unhandled : Bool) : SessionTracker × Option SessionSnapshot :=
  match t.active? with
  | some n => t.count n unhandled
  | none => (t, none)

/-! ## Foreground -/

/-- How many nanoseconds in the background end a stretch of use. -/
def awayLimit (t : SessionTracker) : Nat := t.timeout * 1000000 + t.timeoutNanos

/-- An activity comes to the foreground, or leaves it. Coming back after long
enough starts a session under the given id; the flag says so. -/
def moveActivity (t : SessionTracker) (activity : String) (starting : Bool) (now : Instant)
    (id : SessionId) : SessionTracker × List StateEvent × Bool :=
  let due :=
    starting && !t.foreground.isActive && t.foreground.wasAway now t.awayLimit && t.autoTrack
  let foreground :=
    if starting then t.foreground.start activity now else t.foreground.stop activity now
  let t := { t with foreground }
  let moved := .foregroundChanged foreground.isActive foreground.activity?
  if due then
    let (t, events) := t.start id now true
    (t, events ++ [moved], true)
  else (t, [moved], false)

/-! ## Delivery -/

/-- Releases a session for delivery, at most once. A refusal leaves the chance for
later. -/
def release (t : SessionTracker) (number : Nat) (stageReports : Bool) : SessionTracker × Bool :=
  match t.session? number with
  | some s =>
    if stageReports && t.attaches s && !s.tracked then (t.change number Session.markTracked, true)
    else (t, false)
  | none => (t, false)

/-- The payload that goes out for a session, as the callbacks left it: only if none
of them vetoed it, and the session is released. -/
def prepareDelivery (t : SessionTracker) (number : Nat) (run : CallbackRun SessionPayload)
    (stageReports : Bool) : SessionTracker × Option SessionPayload :=
  if run.proceed then
    let (t, released) := t.release number stageReports
    (t, if released then some run.subject else none)
  else (t, none)

/-- The tracker as diagnostics show it. -/
def shown (t : SessionTracker) : String :=
  let settings := Text.record "SessionTrackerConfig"
    [("auto_track_sessions", toString t.autoTrack), ("session_timeout", Text.duration t.awayLimit)]
  let current := (t.current.bind t.session?).map fun s => "SessionId(" ++ s.id.text ++ ")"
  Text.record "SessionTracker" [("config", settings), ("current", Text.maybe current)]

end SessionTracker

end CrashReporter
