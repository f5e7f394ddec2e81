import CrashReporter.Event

-- Payloads: what one request carries to the collector.

namespace CrashReporter

/-! ## Kinds -/

inductive PayloadKind
  | event
  | session
deriving DecidableEq, Repr, Inhabited

namespace PayloadKind

def text : PayloadKind → String
  | event => "event"
  | session => "session"

/-- The directory that payloads of a kind are stored in. -/
def folderName : PayloadKind → String
  | event => "events"
  | session => "sessions"

def ofFolderName? (s : String) : Option PayloadKind :=
  [event, session].find? fun v => v.folderName == s

def ofText? (s : String) : Option PayloadKind := [event, session].find? fun v => v.text == s

def reader : Reader PayloadKind := Reader.word ofText?

theorem ofText?_text (v : PayloadKind) : ofText? v.text = some v := by cases v <;> decide

end PayloadKind

/-! ## Notifier -/

/-- The library that reports, by its name and version. -/
structure Notifier where
  name : String := "Loom Rust Notifier"
  version : String := "0.1.0"
  url : String := "https://github.com/ghuntley/loom"
deriving DecidableEq, Repr, Inhabited

namespace Notifier

def toJson (n : Notifier) : Json :=
  .obj [("name", .str n.name), ("version", .str n.version), ("url", .str n.url)]

def reader : Reader Notifier := fun room t => do
  let p ← Reader.parts? ["name", "version", "url"] room t
  return { name := ← p.required "name" Reader.string
           version := ← p.required "version" Reader.string
           url := ← p.required "url" Reader.string }

end Notifier

/-! ## Payloads -/

structure EventPayload where
  apiKey : String
  notifier : Notifier
  events : List Event
deriving Inhabited

namespace EventPayload

def toJson (p : EventPayload) : Json :=
  .obj [("apiKey", .str p.apiKey), ("notifier", p.notifier.toJson),
    ("events", .arr (p.events.map Event.toJson))]

def reader : Reader EventPayload := fun room t => do
  let p ← Reader.parts? ["apiKey", "notifier", "events"] room t
  return { apiKey := ← p.required "apiKey" Reader.string
           notifier := ← p.required "notifier" Notifier.reader
           events := ← p.required "events" (Reader.list Event.reader) }

end EventPayload

structure SessionPayload where
  notifier : Notifier
  app : AppState
  device : DeviceState
  sessions : List SessionSnapshot
deriving Inhabited

namespace SessionPayload

def toJson (p : SessionPayload) : Json :=
  .obj [("notifier", p.notifier.toJson), ("app", p.app.toJson), ("device", p.device.toJson),
    ("sessions", .arr (p.sessions.map SessionSnapshot.toJson))]

def reader : Reader SessionPayload := fun room t => do
  let p ← Reader.parts? ["notifier", "app", "device", "sessions"] room t
  return { notifier := ← p.required "notifier" Notifier.reader
           app := ← p.required "app" AppState.reader
           device := ← p.required "device" DeviceState.reader
           sessions := ← p.required "sessions" (Reader.list SessionSnapshot.reader) }

end SessionPayload

end CrashReporter
