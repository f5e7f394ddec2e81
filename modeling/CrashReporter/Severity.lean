import CrashReporter.Json.Reader

-- How bad an error is, and why it was given that severity.

namespace CrashReporter

/-! ## Severity -/

inductive Severity
  | error
  | warning
  | info
deriving DecidableEq, Repr, Inhabited

namespace Severity

def text : Severity → String
  | error => "error"
  | warning => "warning"
  | info => "info"

def all : List Severity := [error, warning, info]

def ofText? (s : String) : Option Severity := all.find? fun v => v.text == s

def reader : Reader Severity := Reader.word ofText?

theorem ofText?_text (v : Severity) : ofText? v.text = some v := by cases v <;> decide

end Severity

/-! ## Reasons -/

/-- Where the severity of an event comes from. -/
inductive SeverityReason
  | handledException
  | unhandledException
  | unhandledPanic
  | signal
  | log
  | userSpecifiedSeverity
  | userCallbackSetSeverity
deriving DecidableEq, Repr, Inhabited

namespace SeverityReason

def text : SeverityReason → String
  | handledException => "handled_exception"
  | unhandledException => "unhandled_exception"
  | unhandledPanic => "unhandled_panic"
  | signal => "signal"
  | log => "log"
  | userSpecifiedSeverity => "user_specified_severity"
  | userCallbackSetSeverity => "user_callback_set_severity"

def all : List SeverityReason :=
  [handledException, unhandledException, unhandledPanic, signal, log, userSpecifiedSeverity,
    userCallbackSetSeverity]

def ofText? (s : String) : Option SeverityReason := all.find? fun v => v.text == s

def reader : Reader SeverityReason := Reader.word ofText?

theorem ofText?_text (v : SeverityReason) : ofText? v.text = some v := by cases v <;> decide

/-- Errors that nobody handled. -/
def isUnhandled : SeverityReason → Bool
  | unhandledException | unhandledPanic | signal => true
  | _ => false

end SeverityReason

/-! ## Handled state -/

/-- Whether an error was handled, and its severity before anyone changed it. -/
structure HandledState where
  reason : SeverityReason
  originalSeverity : Severity
  unhandled : Bool
  /-- Detail on the reason, such as the name of a signal. -/
  attributeValue : Option String
deriving DecidableEq, Repr, Inhabited

namespace HandledState

/-- What a reason alone says: unhandled errors are errors, all else warnings. -/
def ofReason (reason : SeverityReason) : HandledState :=
  { reason
    originalSeverity := if reason.isUnhandled then .error else .warning
    unhandled := reason.isUnhandled
    attributeValue := none }

/-- A handled error with a severity of the caller's choice. -/
def ofSeverity (severity : Severity) : HandledState :=
  ⟨.userSpecifiedSeverity, severity, false, none⟩

def withAttribute (state : HandledState) (value : String) : HandledState :=
  { state with attributeValue := some value }

def toJson (state : HandledState) : Json :=
  .obj ([("reason", .str state.reason.text),
    ("originalSeverity", .str state.originalSeverity.text),
    ("unhandled", .bool state.unhandled)] ++
    (state.attributeValue.map fun value => ("attributeValue", Json.str value)).toList)

def reader : Reader HandledState := fun room t => do
  let p ← Reader.parts? ["reason", "originalSeverity", "unhandled", "attributeValue"] room t
  return { reason := ← p.required "reason" SeverityReason.reader
           originalSeverity := ← p.required "originalSeverity" Severity.reader
           unhandled := ← p.required "unhandled" Reader.bool
           attributeValue := ← p.optional "attributeValue" (Reader.option Reader.string) none }

end HandledState

end CrashReporter
