import CrashReporter.BreadcrumbRing
import CrashReporter.Callback
import CrashReporter.Clock
import CrashReporter.Launch
import CrashReporter.Observer
import CrashReporter.SessionTracker

-- The state of one client: what it knows of the host and its user, the recent
-- breadcrumbs, the sessions, the callbacks and observers, and the stores.

namespace CrashReporter

structure Client where
  config : Config
  host : Surroundings
  bus : ObserverBus := {}
  onError : CallbackChain Event := { name := "on_error" }
  onBreadcrumb : CallbackChain Breadcrumb := { name := "on_breadcrumb" }
  onSession : CallbackChain SessionPayload := { name := "on_session" }
  ring : BreadcrumbRing
  tracker : SessionTracker
  pipeline : Pipeline
  queue : TaskQueue
  metadata : Metadata := Metadata.empty
  /-- The context of events, where the host gave one. -/
  context : Option String := none
  isClosed : Bool := false

namespace Client

/-! ## Building -/

/-- Discards breadcrumbs of the types that are not enabled. -/
def typeFilter (config : Config) : Callback Breadcrumb :=
  .reply fun b => if config.keepsBreadcrumb b.kind then .proceed else .veto

def settingsOf (config : Config) (notifier : Notifier) : PipelineSettings :=
  { apiKey := config.apiKey
    notifier
    eventParams := .forEvents config.endpoints.notify config.apiKey
    sessionParams := .forSessions config.endpoints.sessions config.apiKey
    maxEvents := config.maxPersistedEvents
    maxSessions := config.maxPersistedSessions }

/-- A client on a disk, if its configuration can be used. The filter of types is
the first of the breadcrumb callbacks. -/
def build (l : Launch) (disk : Disk) : Except ReportError Client := do
  let config ← l.config.validate
  let pipeline ← Pipeline.openOn (settingsOf config l.notifier) disk
  let (_, onBreadcrumb) :=
    ({ name := "on_breadcrumb" } : CallbackChain Breadcrumb).add (typeFilter config)
  return { config
           host := l.host
           onBreadcrumb
           ring := { capacity := config.maxBreadcrumbs }
           tracker := { autoTrack := config.autoTrackSessions, timeout := config.sessionTimeout }
           pipeline
           queue := .new config.queueCapacity config.workerThreads l.executor }

/-! ## What payloads carry -/

/-- The app as the host describes it, with what the client knows better. -/
def currentApp (c : Client) (now : Instant) : AppState :=
  { c.host.app with
    version := c.config.appVersion.or c.host.app.version
    releaseStage := some c.config.releaseStage
    inForeground := some c.tracker.foreground.isActive
    durationInForegroundMs :=
      some (min (c.tracker.foreground.duration now / 1000000) (UInt64.size - 1)).toUInt64 }

def surroundings (c : Client) (now : Instant) : Surroundings := ⟨c.currentApp now, c.host.device⟩

/-- The payload that tells of one session. -/
def sessionPayload (c : Client) (now : Instant) (s : Session) : SessionPayload :=
  ⟨c.pipeline.settings.notifier, c.currentApp now, c.host.device, [s.snapshot]⟩

/-- The number of the session that events refer to now. -/
def attachedSession? (c : Client) : Option Nat :=
  c.tracker.active?.filter fun n => (c.tracker.session? n).any c.tracker.attaches

/-- An event with all that is known at this moment. -/
def describe (c : Client) (now : Instant) (event : Event) (extra : Metadata) : Event :=
  { event with
    session := (c.attachedSession?.bind c.tracker.session?).map Session.snapshot
    app := c.currentApp now
    device := c.host.device
    breadcrumbs := c.ring.entries
    user := c.tracker.user
    metadata := c.metadata.merge extra
    context := event.context.or (c.context.or c.tracker.foreground.activity?) }

/-- The client as diagnostics show it. -/
def shown (c : Client) : String :=
  Text.record "ReportClient"
    [("release_stage", Text.quoted c.config.releaseStage), ("closed", toString c.isClosed)]

end Client

end CrashReporter
