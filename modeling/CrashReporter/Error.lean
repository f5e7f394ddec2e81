import CrashReporter.Breadcrumb
import CrashReporter.Json.Field
import CrashReporter.Payload

-- What can go wrong, and how it is worded. Only setting up and storage report
-- errors; reporting itself never fails.

namespace CrashReporter

/-! ## Words -/

/-- A word that means nothing, by what it was read as. -/
inductive WordError
  | breadcrumbType (text : String)
  | severity (text : String)
  | severityReason (text : String)
  | payloadKind (text : String)
deriving DecidableEq, Repr

/-- The kind of thing that the word was to name. -/
def WordError.kind : WordError → String
  | breadcrumbType _ => "InvalidBreadcrumbType"
  | severity _ => "InvalidSeverity"
  | severityReason _ => "InvalidSeverityReason"
  | payloadKind _ => "InvalidPayloadKind"

def WordError.message : WordError → String
  | breadcrumbType text => "invalid breadcrumb type: " ++ text
  | severity text => "invalid severity: " ++ text
  | severityReason text => "invalid severity reason: " ++ text
  | payloadKind text => "invalid payload kind: " ++ text

/-! ## Errors -/

inductive ReportError
  | word (error : WordError)
  /-- A text that is no session id. -/
  | invalidSessionId
  /-- A number that is no response code. -/
  | invalidStatusCode
  | missingApiKey
  | missingStorageDir
  | invalidConfig (reason : String)
  /-- There is no background to run tasks in. -/
  | runtimeBuild (reason : String)
  | clientShutdown
  | http (reason : String)
  | io (reason : String)
  | serialization (reason : String)
  /-- A record of the wrong version or kind. -/
  | corruptRecord (name reason : String)
deriving DecidableEq, Repr

namespace ReportError

def kind : ReportError → String
  | word error => error.kind
  | invalidSessionId => "InvalidSessionId"
  | invalidStatusCode => "InvalidStatusCode"
  | missingApiKey => "MissingApiKey"
  | missingStorageDir => "MissingStorageDir"
  | invalidConfig _ => "InvalidConfig"
  | runtimeBuild _ => "RuntimeBuild"
  | clientShutdown => "ClientShutdown"
  | http _ => "Http"
  | io _ => "Io"
  | serialization _ => "Serialization"
  | corruptRecord .. => "CorruptRecord"

def message : ReportError → String
  | word error => error.message
  | invalidSessionId => "invalid session id"
  | invalidStatusCode => "invalid status code"
  | missingApiKey => "API key is required"
  | missingStorageDir => "storage directory is required"
  | invalidConfig reason => "invalid configuration: " ++ reason
  | runtimeBuild reason => "failed to build background runtime: " ++ reason
  | clientShutdown => "report client has been shut down"
  | http reason => "HTTP client error: " ++ reason
  | io reason => "storage I/O error: " ++ reason
  | serialization reason => "serialization error: " ++ reason
  | corruptRecord name reason => "corrupt record " ++ name ++ ": " ++ reason

/-- The error of a kind, with a text for what it tells of, and a name where it tells
of a record. -/
def ofKind? (kind text name : String) : Option ReportError :=
  [word (.breadcrumbType text), word (.severity text), word (.severityReason text),
    word (.payloadKind text), missingApiKey, missingStorageDir, invalidConfig text,
    runtimeBuild text, clientShutdown, http text, io text, serialization text,
    corruptRecord name text].find? fun e => e.kind == kind

/-- The reason lies outside the library, so its wording may differ from place to
place. -/
def isForeign : ReportError → Bool
  | invalidSessionId | invalidStatusCode | http _ | io _ | serialization _ => true
  | _ => false

/-- The kind of an error, and its message where the wording is the library's. -/
def toJson (e : ReportError) : Json :=
  .obj (("error", .str e.kind) :: if e.isForeign then [] else [("message", .str e.message)])

end ReportError

/-! ## Reading words -/

def BreadcrumbType.parse (s : String) : Except ReportError BreadcrumbType :=
  ((BreadcrumbType.ofText? s).map .ok).getD (.error (.word (.breadcrumbType s)))

def Severity.parse (s : String) : Except ReportError Severity :=
  ((Severity.ofText? s).map .ok).getD (.error (.word (.severity s)))

def SeverityReason.parse (s : String) : Except ReportError SeverityReason :=
  ((SeverityReason.ofText? s).map .ok).getD (.error (.word (.severityReason s)))

def PayloadKind.parse (s : String) : Except ReportError PayloadKind :=
  ((PayloadKind.ofText? s).map .ok).getD (.error (.word (.payloadKind s)))

def SessionId.parse (s : String) : Except ReportError SessionId :=
  ((SessionId.ofText? s).map .ok).getD (.error .invalidSessionId)

/-- What a text is read as, and whether it is one: a word of some sort or an id. -/
def parseWord (sort text : String) : Except ReportError String :=
  match sort with
  | "breadcrumb_type" => (BreadcrumbType.parse text).map BreadcrumbType.text
  | "severity" => (Severity.parse text).map Severity.text
  | "severity_reason" => (SeverityReason.parse text).map SeverityReason.text
  | "payload_kind" => (PayloadKind.parse text).map PayloadKind.text
  | _ => (SessionId.parse text).map SessionId.text

/-- Reads a free-form value, or says that it cannot be read. -/
def Reader.parse {α : Type} (r : Reader α) (v : Json) : Except ReportError α :=
  ((Reader.ofJson? r v).map .ok).getD (.error (.serialization "unexpected value"))

namespace Json

/-- Reads a field that has to be there. -/
def readAt {α : Type} (v : Json) (key : String) (r : Reader α) : Except ReportError α :=
  r.parse (v.field key)

/-- Reads a field that may be missing. -/
def readOr {α : Type} (v : Json) (key : String) (r : Reader α) (default : α) :
    Except ReportError α :=
  ((v.given? key).map r.parse).getD (.ok default)

/-- Reads what a field holds, if it holds anything. -/
def readGiven {α : Type} (v : Json) (key : String) (f : Json → Except ReportError α) :
    Except ReportError (Option α) :=
  match v.given? key with
  | some v => (f v).map some
  | none => .ok none

/-- A point in time. -/
def timeAt (v : Json) (key : String) : Except ReportError Instant :=
  ((Instant.ofJson? (v.field key)).map .ok).getD (.error (.serialization "no point in time"))

end Json

end CrashReporter
