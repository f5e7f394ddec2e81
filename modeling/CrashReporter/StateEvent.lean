import CrashReporter.Delivery

-- State changes that the outside world is told about.

namespace CrashReporter

inductive StateEvent
  /-- A session became the current one, with the counts it had then. -/
  | sessionStarted (id : SessionId) (startedAt : Instant) (counts : EventCounts)
  /-- There is no current session any more. -/
  | sessionPaused
  /-- An activity came or went; the latest one that is left, if any. -/
  | foregroundChanged (inForeground : Bool) (activity : Option String)
  | breadcrumbAdded (breadcrumb : Breadcrumb)
  /-- An attempt to deliver ended. -/
  | deliveryOutcome (kind : PayloadKind) (status : DeliveryStatus)
deriving Inhabited

namespace StateEvent

def name : StateEvent → String
  | sessionStarted .. => "session_started"
  | sessionPaused => "session_paused"
  | foregroundChanged .. => "foreground_changed"
  | breadcrumbAdded _ => "breadcrumb_added"
  | deliveryOutcome .. => "delivery_outcome"

/-- The event of a session that becomes the current one. -/
def ofSession (s : Session) : StateEvent := sessionStarted s.id s.startedAt s.counts

def toJson (e : StateEvent) : Json :=
  .obj (("event", .str e.name) :: match e with
    | sessionStarted id startedAt counts =>
      [("id", id.toJson), ("started_at", startedAt.toJson), ("handled", .nat counts.handled.toNat),
        ("unhandled", .nat counts.unhandled.toNat)]
    | sessionPaused => []
    | foregroundChanged inForeground activity =>
      [("in_foreground", .bool inForeground), ("context_activity", .strOrNull activity)]
    | breadcrumbAdded b => [("breadcrumb", b.toJson)]
    | deliveryOutcome kind status => [("kind", .str kind.text), ("status", .str status.text)])

end StateEvent

end CrashReporter
