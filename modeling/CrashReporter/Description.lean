import CrashReporter.Error
import CrashReporter.StateEvent

-- Descriptions: values that a host gives as free-form objects. A description says
-- less than a record of the same value, and its errors say what is wrong with it.

namespace CrashReporter

/-- A handled state by its reason or else by its severity, perhaps with an attribute. -/
def HandledState.ofJson (v : Json) : Except ReportError HandledState := do
  let state ← match v.text? "reason" with
    | some reason => (SeverityReason.parse reason).map HandledState.ofReason
    | none => (Severity.parse (v.textAt "severity")).map HandledState.ofSeverity
  return ((v.text? "attribute").map state.withAttribute).getD state

/-- An error by its class and its message, perhaps with a stack trace. -/
def ErrorInfo.ofJson (v : Json) : Except ReportError ErrorInfo := do
  return ⟨v.textAt "class", v.textAt "message", ← v.readOr "stacktrace" Stacktrace.reader {}⟩

/-- A new breadcrumb by its message, kind, metadata and time. -/
def Breadcrumb.ofJson (v : Json) : Except ReportError Breadcrumb := do
  let kind ← BreadcrumbType.parse (v.textAt "kind")
  return .new (v.textAt "message") kind (v.dictAt "metadata") (← v.timeAt "time")

/-- Counts by their names, zero by default. -/
def EventCounts.ofJson (v : Json) : EventCounts :=
  ⟨(v.natAt "handled" 0).toUInt32, (v.natAt "unhandled" 0).toUInt32⟩

/-- A session that was started elsewhere, if it has an id and a start. -/
def Session.ofJson (v : Json) : Except ReportError (Option Session) := do
  let startedAt ← v.readGiven "started_at" fun _ => v.timeAt "started_at"
  let id ← v.readGiven "id" fun id => SessionId.parse (id.str?.getD "")
  let user ← v.readGiven "user" User.reader.parse
  return startedAt.bind fun t => id.map fun i => .restored i t user (EventCounts.ofJson v)

/-- A state change, as it is told of. -/
def StateEvent.ofJson (v : Json) : Except ReportError StateEvent := do
  match v.textAt "event" with
  | "session_started" =>
    let id ← SessionId.parse (v.textAt "id")
    return .sessionStarted id (← v.timeAt "started_at") (EventCounts.ofJson v)
  | "session_paused" => return .sessionPaused
  | "foreground_changed" =>
    return .foregroundChanged (v.flagAt "in_foreground" false) (v.text? "context_activity")
  | "breadcrumb_added" => return .breadcrumbAdded (← v.readAt "breadcrumb" Breadcrumb.reader)
  | "delivery_outcome" =>
    let kind ← PayloadKind.parse (v.textAt "kind")
    match DeliveryStatus.ofText? (v.textAt "status") with
    | some status => return .deliveryOutcome kind status
    | none => throw (.serialization "no status")
  | _ => throw (.serialization "no state change")

end CrashReporter
