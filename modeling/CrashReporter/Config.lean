import CrashReporter.Error

-- The configuration of a client: its defaults, how it is read, and what a usable
-- one has to say. Checks are made in a fixed order and the first fault counts.

namespace CrashReporter

/-- Where events and sessions are sent. -/
structure Endpoints where
  notify : String := "https://notify.loom.dev"
  sessions : String := "https://sessions.loom.dev"
deriving DecidableEq, Repr, Inhabited

namespace Endpoints

def toJson (e : Endpoints) : Json := .obj [("notify", .str e.notify), ("sessions", .str e.sessions)]

def reader : Reader Endpoints := fun room t => do
  let p ← Reader.parts? ["notify", "sessions"] room t
  return { notify := ← p.required "notify" Reader.string
           sessions := ← p.required "sessions" Reader.string }

end Endpoints

/-- The texts of a list in order and once each. -/
def distinctTexts (texts : List String) : List String :=
  (Dict.ofList (texts.map fun s => (s, ()))).keys

/-- The breadcrumb types of a list in the order of their names and once each. -/
def distinctTypes (types : List BreadcrumbType) : List BreadcrumbType :=
  BreadcrumbType.all.filter types.contains

/-- Durations are in milliseconds. -/
structure Config where
  apiKey : String := ""
  endpoints : Endpoints := {}
  releaseStage : String := "production"
  /-- The stages that report; all of them if there is no list. -/
  enabledReleaseStages : Option (List String) := none
  appVersion : Option String := none
  autoTrackSessions : Bool := true
  /-- How long the app is in the background before coming back starts a session. -/
  sessionTimeout : Nat := 30000
  maxBreadcrumbs : Nat := 25
  /-- The breadcrumbs that are kept; all of them if there is no list. -/
  enabledBreadcrumbTypes : Option (List BreadcrumbType) := none
  maxPersistedEvents : Nat := 32
  maxPersistedSessions : Nat := 128
  storageDir : String := ""
  workerThreads : Nat := 2
  queueCapacity : Nat := 128
  requestTimeout : Nat := 30000
  /-- Classes of errors that are never reported. -/
  ignoreClasses : List String := []
deriving DecidableEq, Repr, Inhabited

namespace Config

/-- The most breadcrumbs that are ever kept. -/
def breadcrumbLimit : Nat := 100

/-- An API key is 32 hexadecimal digits. -/
def isApiKey (key : String) : Bool :=
  key.toList.length = 32 && key.toList.all fun c => (Text.hexValue? c).isSome

/-- The configuration if it can be used, with the breadcrumb limit kept. -/
def validate (c : Config) : Except ReportError Config := do
  if c.apiKey = "" then throw .missingApiKey
  if !isApiKey c.apiKey then throw (.invalidConfig "api_key must be 32 hexadecimal characters")
  if c.storageDir = "" then throw .missingStorageDir
  if c.endpoints.notify = "" ∨ c.endpoints.sessions = "" then
    throw (.invalidConfig "endpoints must not be empty")
  if c.workerThreads = 0 then throw (.invalidConfig "worker_threads must be at least 1")
  if c.queueCapacity = 0 then throw (.invalidConfig "queue_capacity must be at least 1")
  if c.maxPersistedEvents = 0 ∨ c.maxPersistedSessions = 0 then
    throw (.invalidConfig "max_persisted_events and max_persisted_sessions must be at least 1")
  return { c with maxBreadcrumbs := min c.maxBreadcrumbs breadcrumbLimit }

/-- Reports are made in this release stage. -/
def reportsStage (c : Config) : Bool :=
  match c.enabledReleaseStages with
  | some stages => stages.contains c.releaseStage
  | none => true

def keepsBreadcrumb (c : Config) (kind : BreadcrumbType) : Bool :=
  match c.enabledBreadcrumbTypes with
  | some types => types.contains kind
  | none => true

/-! ## JSON -/

def toJson (c : Config) : Json :=
  let texts (l : List String) : Json := .arr (l.map Json.str)
  .obj [("api_key", .str c.apiKey), ("endpoints", c.endpoints.toJson),
    ("release_stage", .str c.releaseStage),
    ("enabled_release_stages", (c.enabledReleaseStages.map texts).getD .null),
    ("app_version", .strOrNull c.appVersion),
    ("auto_track_sessions", .bool c.autoTrackSessions),
    ("session_timeout", .nat c.sessionTimeout), ("max_breadcrumbs", .nat c.maxBreadcrumbs),
    ("enabled_breadcrumb_types",
      (c.enabledBreadcrumbTypes.map fun types => texts (types.map BreadcrumbType.text)).getD .null),
    ("max_persisted_events", .nat c.maxPersistedEvents),
    ("max_persisted_sessions", .nat c.maxPersistedSessions), ("storage_dir", .str c.storageDir),
    ("worker_threads", .nat c.workerThreads), ("queue_capacity", .nat c.queueCapacity),
    ("request_timeout", .nat c.requestTimeout), ("ignore_classes", texts c.ignoreClasses)]

/-- Every field may be missing; it then has its default. -/
def reader : Reader Config := fun room t => do
  let p ← Reader.parts? ["api_key", "endpoints", "release_stage", "enabled_release_stages",
    "app_version", "auto_track_sessions", "session_timeout", "max_breadcrumbs",
    "enabled_breadcrumb_types", "max_persisted_events", "max_persisted_sessions", "storage_dir",
    "worker_threads", "queue_capacity", "request_timeout", "ignore_classes"] room t
  let d : Config := {}
  return {
    apiKey := ← p.optional "api_key" Reader.string d.apiKey
    endpoints := ← p.optional "endpoints" Endpoints.reader d.endpoints
    releaseStage := ← p.optional "release_stage" Reader.string d.releaseStage
    enabledReleaseStages :=
      (← p.optional "enabled_release_stages" (Reader.option (Reader.list Reader.string)) none).map
        distinctTexts
    appVersion := ← p.optional "app_version" (Reader.option Reader.string) d.appVersion
    autoTrackSessions := ← p.optional "auto_track_sessions" Reader.bool d.autoTrackSessions
    sessionTimeout := ← p.optional "session_timeout" Reader.size d.sessionTimeout
    maxBreadcrumbs := ← p.optional "max_breadcrumbs" Reader.size d.maxBreadcrumbs
    enabledBreadcrumbTypes :=
      (← p.optional "enabled_breadcrumb_types"
        (Reader.option (Reader.list BreadcrumbType.reader)) none).map distinctTypes
    maxPersistedEvents := ← p.optional "max_persisted_events" Reader.size d.maxPersistedEvents
    maxPersistedSessions := ← p.optional "max_persisted_sessions" Reader.size d.maxPersistedSessions
    storageDir := ← p.optional "storage_dir" Reader.string d.storageDir
    workerThreads := ← p.optional "worker_threads" Reader.size d.workerThreads
    queueCapacity := ← p.optional "queue_capacity" Reader.size d.queueCapacity
    requestTimeout := ← p.optional "request_timeout" Reader.size d.requestTimeout
    ignoreClasses := ← p.optional "ignore_classes" (Reader.list Reader.string) d.ignoreClasses }

end Config

end CrashReporter
