import CrashReporter.Application.Breadcrumbs

-- Reporting errors. An event that is dropped leaves no trace; one that is reported
-- counts for the current session, is delivered or stored, and leaves a breadcrumb.

namespace CrashReporter.Application

/-- Runs the error callbacks, and after them the callback of this report alone. -/
def runErrorCallbacks (a : Application) (alarm : Alarm) (event : Event)
    (lastly : Option (Callback Event)) : Application × Event × Bool :=
  let run := a.client.onError.run event
  let run := match lastly with
    | some callback => if run.proceed then run.call callback else run
    | none => run
  let a := (a.changeClient fun c => { c with onError := run.chain }).heed alarm run.incidents
  (a, run.subject, run.proceed)

/-- Counts an event for a session. The event carries that session, unless the
callbacks detached it, and no other. -/
def countEvent (a : Application) (event : Event) (session : Option Nat) : Application × Event :=
  if event.session.isNone then (a, event)
  else
    match session with
    | none => (a, { event with session := none })
    | some number =>
      let (tracker, snapshot) := a.client.tracker.count number event.isUnhandled
      (a.changeTracker tracker, { event with session := snapshot })

/-- Stores an event. -/
def persistEvent (a : Application) (event : Event) : Application :=
  a.changeClient fun c => { c with pipeline := (c.pipeline.persistEvent event).1 }

/-- An unhandled event is stored at once, any other is left to the background. -/
def dispatchEvent (a : Application) (event : Event) : Application :=
  if event.isUnhandled then (a.persistEvent event).submit .flushEvents
  else a.submit (.deliverEvent event)

/-- What the breadcrumb of an error says. -/
def errorDetails (event : Event) (error : ErrorInfo) : Dict Json :=
  Dict.ofList
    [("errorClass", .str error.errorClass), ("message", .str error.message),
      ("unhandled", .str (toString event.isUnhandled)), ("severity", .str event.severity.text)]

/-- The breadcrumb of the first error of an event. -/
def leaveErrorBreadcrumb (a : Application) (alarm : Alarm) (event : Event) : Application :=
  match event.errors.head? with
  | some error => a.leaveBreadcrumb alarm error.errorClass .error (errorDetails event error)
  | none => a

/-- Reports an event, unless its class is ignored, the release stage does not
report, or a callback vetoes it. -/
def report (a : Application) (alarm : Alarm) (event : Event) (extra : Metadata)
    (lastly : Option (Callback Event)) : Application :=
  if event.isIgnored a.client.config.ignoreClasses || !a.client.config.reportsStage then a
  else
    let session := a.client.attachedSession?
    let (a, event, proceed) :=
      a.runErrorCallbacks alarm (a.client.describe a.now event extra) lastly
    if proceed then
      let (a, event) := a.countEvent event session
      (a.dispatchEvent event).leaveErrorBreadcrumb alarm event
    else a

/-- Reports an error. -/
def reportError (a : Application) (alarm : Alarm) (error : ErrorInfo) (state : HandledState)
    (lastly : Option (Callback Event)) : Application :=
  a.report alarm (.new error state a.now) Metadata.empty lastly

/-- Reports an error that is about to end the application. -/
def reportUnhandled (a : Application) (alarm : Alarm) (error : ErrorInfo) (state : HandledState)
    (extra : Metadata) : Application :=
  a.report alarm (.new error state a.now) extra none

end CrashReporter.Application
