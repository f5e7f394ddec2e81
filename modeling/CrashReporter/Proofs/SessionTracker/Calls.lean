import CrashReporter.Proofs.SessionTracker

-- A tracker at work. Its sessions are started, paused, resumed and taken over, their events are
-- counted, and they are offered for delivery, all in any order, while the callbacks that a
-- delivery goes through come, change and go.

namespace CrashReporter

/-- A tracker, and the callbacks that its deliveries go through. -/
structure Tracking where
  tracker : SessionTracker
  callbacks : CallbackChain SessionPayload

namespace Tracking

/-! ## Calls -/

/-- What is asked of a tracker. What begins a session comes with the id that the session gets. -/
inductive Call
  | setUser (user : User)
  | startNew (id : SessionId) (now : Instant) (user : Option User) (autoCaptured : Bool)
  | start (id : SessionId) (now : Instant) (autoCaptured : Bool)
  | pause
  | resume (id : SessionId) (now : Instant)
  /-- A session that was started elsewhere, as it was when it was handed over. -/
  | register (session : Option SessionSnapshot)
  | countActive (unhandled : Bool)
  | count (number : Nat) (unhandled : Bool)
  | moveActivity (activity : String) (starting : Bool) (now : Instant) (id : SessionId)
  /-- A session is offered for delivery. -/
  | offer (number : Nat) (payload : SessionPayload) (stageReports : Bool)
  | addCallback (callback : Callback SessionPayload)
  | removeCallback (id : CallbackId)
  /-- A callback does something else from now on, as one with a state of its own may. -/
  | changeCallback (id : CallbackId) (callback : Callback SessionPayload)

/-- What comes of a call: the events that are told, oldest first, and the payload that goes out. -/
structure Reply where
  after : Tracking
  told : List StateEvent := []
  released : Option SessionPayload := none

variable (d : Tracking)

/-- The run of the callbacks over a payload, before the first of them is called. -/
def opening (payload : SessionPayload) : CallbackRun SessionPayload :=
  { chain := d.callbacks, subject := payload }

/-- The callbacks that are registered. -/
def registered : List (Callback SessionPayload) := d.callbacks.entries.map (·.2)

/-- The tracker took a step. -/
def follow (step : SessionTracker × List StateEvent) : Reply :=
  { after := { d with tracker := step.1 }, told := step.2 }

/-- A session goes through the callbacks and is released, or it is refused. -/
def offer (number : Nat) (payload : SessionPayload) (stageReports : Bool) : Reply :=
  let run := d.callbacks.run payload
  let (tracker, released) := d.tracker.prepareDelivery number run stageReports
  { after := ⟨tracker, run.chain⟩, released }

def carryOut : Call → Reply
  | .setUser user => { after := { d with tracker := { d.tracker with user } } }
  | .startNew id now user autoCaptured => d.follow (d.tracker.startNew id now user autoCaptured)
  | .start id now autoCaptured => d.follow (d.tracker.start id now autoCaptured)
  | .pause => d.follow d.tracker.pause
  | .resume id now =>
    let (tracker, events, _) := d.tracker.resume id now
    d.follow (tracker, events)
  | .register session => d.follow (d.tracker.register (session.map SessionSnapshot.restored))
  | .countActive unhandled =>
    { after := { d with tracker := (d.tracker.countActive unhandled).1 } }
  | .count number unhandled =>
    { after := { d with tracker := (d.tracker.count number unhandled).1 } }
  | .moveActivity activity starting now id =>
    let (tracker, events, _) := d.tracker.moveActivity activity starting now id
    d.follow (tracker, events)
  | .offer number payload stageReports => d.offer number payload stageReports
  | .addCallback callback => { after := { d with callbacks := (d.callbacks.add callback).2 } }
  | .removeCallback id => { after := { d with callbacks := d.callbacks.remove id } }
  | .changeCallback id callback =>
    let entries := d.callbacks.entries.map fun e => if e.1 = id then (id, callback) else e
    { after := { d with callbacks := { d.callbacks with entries } } }

/-! ## Histories -/

/-- A call, and the tracker that it was made to. -/
structure Deed where
  before : Tracking
  call : Call

def Deed.reply (deed : Deed) : Reply := deed.before.carryOut deed.call

/-- What was asked of a new tracker so far, oldest first, and what became of it. -/
inductive History : List Deed → Tracking → Prop
  | opened (autoTrack : Bool) (timeout timeoutNanos : Nat)
      (callbacks : CallbackChain SessionPayload) :
      History [] ⟨{ autoTrack, timeout, timeoutNanos }, callbacks⟩
  | step {past : List Deed} {d : Tracking} (h : History past d) (call : Call) :
      History (past ++ [⟨d, call⟩]) (d.carryOut call).after

end Tracking

end CrashReporter
