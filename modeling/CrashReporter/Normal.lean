import CrashReporter.Config
import CrashReporter.Payload

-- The normal form of a document: what is written again after reading it. Every
-- type of the data model has a name that documents go by.

namespace CrashReporter

/-- Reads a document of a type and writes it again. -/
def Reader.normalizing {α : Type} (r : Reader α) (toJson : α → Json) : Reader Json :=
  fun room t => (r room t).map toJson

/-- The reader of normal forms of a type. -/
def normalReader? : String → Option (Reader Json)
  | "breadcrumb" => some (Breadcrumb.reader.normalizing Breadcrumb.toJson)
  | "user" => some (User.reader.normalizing User.toJson)
  | "app_state" => some (AppState.reader.normalizing AppState.toJson)
  | "device_state" => some (DeviceState.reader.normalizing DeviceState.toJson)
  | "event" => some (Event.reader.normalizing Event.toJson)
  | "error_info" => some (ErrorInfo.reader.normalizing ErrorInfo.toJson)
  | "stacktrace" => some (Stacktrace.reader.normalizing Stacktrace.toJson)
  | "frame" => some (Frame.reader.normalizing Frame.toJson)
  | "handled_state" => some (HandledState.reader.normalizing HandledState.toJson)
  | "session_snapshot" => some (SessionSnapshot.reader.normalizing SessionSnapshot.toJson)
  | "event_counts" => some (EventCounts.reader.normalizing EventCounts.toJson)
  | "notifier" => some (Notifier.reader.normalizing Notifier.toJson)
  | "event_payload" => some (EventPayload.reader.normalizing EventPayload.toJson)
  | "session_payload" => some (SessionPayload.reader.normalizing SessionPayload.toJson)
  | "metadata" => some (Metadata.reader.normalizing Metadata.toJson)
  | "endpoints" => some (Endpoints.reader.normalizing Endpoints.toJson)
  | "session_id" => some (SessionId.reader.normalizing SessionId.toJson)
  | "breadcrumb_type" => some (BreadcrumbType.reader.normalizing fun v => .str v.text)
  | "severity" => some (Severity.reader.normalizing fun v => .str v.text)
  | "severity_reason" => some (SeverityReason.reader.normalizing fun v => .str v.text)
  | "payload_kind" => some (PayloadKind.reader.normalizing fun v => .str v.text)
  | _ => none

end CrashReporter
