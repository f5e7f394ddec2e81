import CrashReporter.Application.Breadcrumbs

-- Sessions of a client: started and resumed by the host, or by an activity that
-- comes to the foreground. A session that starts is offered for delivery.

namespace CrashReporter

/-- The stages in the life of an activity. -/
inductive Transition
  | created
  | started
  | resumed
  | paused
  | stopped
  | saveInstanceState
  | destroyed
deriving DecidableEq, Repr, Inhabited

/-- The callback of an activity that a transition is named after. -/
def Transition.callbackName : Transition → String
  | created => "onCreate()"
  | started => "onStart()"
  | resumed => "onResume()"
  | paused => "onPause()"
  | stopped => "onStop()"
  | saveInstanceState => "onSaveInstanceState()"
  | destroyed => "onDestroy()"

def Transition.ofName? (s : String) : Option Transition :=
  [("created", created), ("started", started), ("resumed", resumed), ("paused", paused),
    ("stopped", stopped), ("save_instance_state", saveInstanceState),
    ("destroyed", destroyed)].lookup s

namespace Application

/-- Offers a session for delivery: the callbacks may change or veto the payload, and
no session is delivered twice. -/
def trackSession (a : Application) (alarm : Alarm) (number : Nat) : Application :=
  match a.client.tracker.session? number with
  | none => a
  | some session =>
    let run := a.client.onSession.run (a.client.sessionPayload a.now session)
    let a := (a.changeClient fun c => { c with onSession := run.chain }).heed alarm run.incidents
    let reportsStage := a.client.config.reportsStage
    let (tracker, payload) := a.client.tracker.prepareDelivery number run reportsStage
    let a := a.changeTracker tracker
    match payload with
    | some payload => a.submit (.deliverSessions payload)
    | none => a

/-- Takes a step of the tracker, tells of it, and offers the session that it
started, if it did, under the id that was next. -/
def followTracker (a : Application) (alarm : Alarm) (step : SessionTracker × List StateEvent)
    (started : Bool) : Application :=
  let a := (a.changeTracker step.1).tellAll alarm step.2
  if started then
    { a with idsGiven := a.idsGiven + 1 }.trackSession alarm (step.1.sessions.length - 1)
  else a

def startSession (a : Application) (alarm : Alarm) : Application :=
  a.followTracker alarm (a.client.tracker.start a.nextId a.now false) true

def pauseSession (a : Application) (alarm : Alarm) : Application :=
  a.followTracker alarm a.client.tracker.pause false

/-- Resumes the current session; the flag is false if one was started instead. -/
def resumeSession (a : Application) (alarm : Alarm) : Application × Bool :=
  let (tracker, events, outcome) := a.client.tracker.resume a.nextId a.now
  let started := outcome == .started
  (a.followTracker alarm (tracker, events) started, !started)

/-- Takes over a session that was started elsewhere. -/
def registerSession (a : Application) (alarm : Alarm) (session : Option Session) : Application :=
  a.followTracker alarm (a.client.tracker.register session) false

/-- An activity goes through a stage of its life. -/
def moveActivity (a : Application) (alarm : Alarm) (activity : String) (transition : Transition) :
    Application :=
  let a := a.leaveBreadcrumb alarm activity .navigation
    (Dict.empty.insert "ActivityLifecycle" (.str transition.callbackName))
  if transition = .started ∨ transition = .stopped then
    let (tracker, events, started) :=
      a.client.tracker.moveActivity activity (transition = .started) a.now a.nextId
    a.followTracker alarm (tracker, events) started
  else a

end Application

end CrashReporter
