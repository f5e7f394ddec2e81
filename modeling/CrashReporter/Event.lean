import CrashReporter.Breadcrumb
import CrashReporter.Metadata
import CrashReporter.Session
import CrashReporter.Severity

-- Events: errors with all that is known about the moment they happened in. The
-- severity of an event only changes together with the reason for it.

namespace CrashReporter

/-! ## Stack traces -/

/-- One call on the stack. -/
structure Frame where
  function : Option String := none
  modulePath : Option String := none
  filename : Option String := none
  lineno : Option UInt32 := none
  colno : Option UInt32 := none
  /-- The call is the app's own code. -/
  inApp : Bool := false
deriving DecidableEq, Repr, Inhabited

namespace Frame

def toJson (f : Frame) : Json :=
  let number (n : Option UInt32) : Json := (n.map fun n => Json.nat n.toNat).getD .null
  .obj [("function", .strOrNull f.function), ("module", .strOrNull f.modulePath),
    ("filename", .strOrNull f.filename), ("lineno", number f.lineno), ("colno", number f.colno),
    ("inApp", .bool f.inApp)]

def reader : Reader Frame := fun room t => do
  let p ← Reader.parts? ["function", "module", "filename", "lineno", "colno", "inApp"] room t
  return { function := ← p.nullable "function" Reader.string
           modulePath := ← p.nullable "module" Reader.string
           filename := ← p.nullable "filename" Reader.string
           lineno := ← p.nullable "lineno" Reader.uint32
           colno := ← p.nullable "colno" Reader.uint32
           inApp := ← p.required "inApp" Reader.bool }

end Frame

structure Stacktrace where
  frames : List Frame := []
deriving DecidableEq, Repr, Inhabited

namespace Stacktrace

def toJson (s : Stacktrace) : Json := .obj [("frames", .arr (s.frames.map Frame.toJson))]

def reader : Reader Stacktrace := fun room t => do
  let p ← Reader.parts? ["frames"] room t
  return ⟨← p.required "frames" (Reader.list Frame.reader)⟩

end Stacktrace

/-! ## Errors -/

structure ErrorInfo where
  errorClass : String
  message : String
  stacktrace : Stacktrace := {}
deriving DecidableEq, Repr, Inhabited

namespace ErrorInfo

def toJson (e : ErrorInfo) : Json :=
  .obj [("errorClass", .str e.errorClass), ("message", .str e.message),
    ("stacktrace", e.stacktrace.toJson)]

def reader : Reader ErrorInfo := fun room t => do
  let p ← Reader.parts? ["errorClass", "message", "stacktrace"] room t
  return { errorClass := ← p.required "errorClass" Reader.string
           message := ← p.required "message" Reader.string
           stacktrace := ← p.optional "stacktrace" Stacktrace.reader {} }

end ErrorInfo

/-! ## Events -/

structure Event where
  errors : List ErrorInfo
  severity : Severity
  handledState : HandledState
  app : AppState := {}
  device : DeviceState := {}
  breadcrumbs : List Breadcrumb := []
  /-- The session that the event counts for. -/
  session : Option SessionSnapshot := none
  user : User := {}
  context : Option String := none
  groupingHash : Option String := none
  metadata : Metadata := Metadata.empty
  timestamp : Instant
deriving Inhabited

namespace Event

/-- An event with the severity its handled state starts from. -/
def new (error : ErrorInfo) (state : HandledState) (timestamp : Instant) : Event :=
  { errors := [error], severity := state.originalSeverity, handledState := state, timestamp }

/-- Changes the severity. One that differs from the first is put down to a
callback, and stays so. -/
def setSeverity (e : Event) (severity : Severity) : Event :=
  { e with
    severity
    handledState :=
      if severity = e.handledState.originalSeverity then e.handledState
      else { e.handledState with reason := .userCallbackSetSeverity } }

def isUnhandled (e : Event) : Bool := e.handledState.unhandled

/-- An event is ignored if it has no errors, or one of an ignored class. -/
def isIgnored (e : Event) (classes : List String) : Bool :=
  e.errors.isEmpty || e.errors.any fun error => classes.contains error.errorClass

def toJson (e : Event) : Json :=
  .obj ([("errors", .arr (e.errors.map ErrorInfo.toJson)), ("severity", .str e.severity.text),
    ("handledState", e.handledState.toJson), ("app", e.app.toJson), ("device", e.device.toJson),
    ("breadcrumbs", .arr (e.breadcrumbs.map Breadcrumb.toJson))] ++
    (e.session.map fun s => ("session", s.toJson)).toList ++
    [("user", e.user.toJson)] ++
    (e.context.map fun c => ("context", Json.str c)).toList ++
    (e.groupingHash.map fun g => ("groupingHash", Json.str g)).toList ++
    [("metaData", e.metadata.toJson), ("timestamp", e.timestamp.toJson)])

def reader : Reader Event := fun room t => do
  let p ← Reader.parts? ["errors", "severity", "handledState", "app", "device", "breadcrumbs",
    "session", "user", "context", "groupingHash", "metaData", "timestamp"] room t
  return { errors := ← p.required "errors" (Reader.list ErrorInfo.reader)
           severity := ← p.required "severity" Severity.reader
           handledState := ← p.required "handledState" HandledState.reader
           app := ← p.optional "app" AppState.reader {}
           device := ← p.optional "device" DeviceState.reader {}
           breadcrumbs := ← p.optional "breadcrumbs" (Reader.list Breadcrumb.reader) []
           session := ← p.optional "session" (Reader.option SessionSnapshot.reader) none
           user := ← p.optional "user" User.reader {}
           context := ← p.optional "context" (Reader.option Reader.string) none
           groupingHash := ← p.optional "groupingHash" (Reader.option Reader.string) none
           metadata := ← p.optional "metaData" Metadata.reader Metadata.empty
           timestamp := ← p.required "timestamp" Instant.reader }

end Event

end CrashReporter
