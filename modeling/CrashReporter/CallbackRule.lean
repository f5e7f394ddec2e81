import CrashReporter.Callback
import CrashReporter.Description

-- Rules: callbacks that are described by an object. Each key of a rule stands for
-- one edit. The edits are made in a fixed order, and then the rule replies: with a
-- veto on subjects of one sort, or with the same verdict on all of them.

namespace CrashReporter.Rule

/-! ## Keys -/

/-- Makes an edit where the rule has its key. -/
def editing {α : Type} (rule : Json) (key : String) (edit : Json → α → α) (next : Callback α) :
    Callback α :=
  match rule.given? key with
  | some v => .edit (edit v) next
  | none => next

/-- Makes an edit where the value of the key is true. -/
def switching {α : Type} (rule : Json) (key : String) (edit : α → α) (next : Callback α) :
    Callback α :=
  if rule.flagAt key false then .edit edit next else next

/-- Leaves a remark under the label of the rule, if it has one. -/
def remarking {α : Type} (rule : Json) (more : α → List (String × Json)) (next : Callback α) :
    Callback α :=
  match rule.given? "label" with
  | some label => .remark (fun v => .obj (("callback", label) :: more v)) next
  | none => next

/-- The verdict on all subjects: to proceed, unless the rule says otherwise. -/
def verdict (rule : Json) (panic : Panic) : Verdict :=
  match rule.field "ret" with
  | .bool false => .veto
  | .str "panic" => .panic panic
  | _ => .proceed

/-- Replies with a veto on the subjects that match, if the rule names any. -/
def replying {α : Type} (rule : Json) (panic : Panic) (vetoed : Option (α → Bool)) : Callback α :=
  .reply fun v => match vetoed with
    | some matching => if matching v then .veto else .proceed
    | none => verdict rule panic

def text (v : Json) : String := v.str?.getD ""

/-- Adds entries; a later one wins. -/
def extend (d : Dict Json) (v : Json) : Dict Json := v.members.foldl (fun d e => d.insert e.1 e.2) d

/-- Adds an entry of metadata: section, key and value. -/
def addEntry (m : Metadata) (entry : Json) : Metadata :=
  match entry with
  | .arr [.str name, .str key, value] => m.add name key value
  | _ => m

/-! ## Rules -/

def forSessions (rule : Json) (panic : Panic) : Callback SessionPayload :=
  remarking rule (fun _ => []) <|
  editing rule "app_version" (fun v p => { p with app := { p.app with version := v.str? } }) <|
  editing rule "app_extra"
    (fun v p => { p with app := { p.app with extra := extend p.app.extra v } }) <|
  editing rule "device_extra"
    (fun v p => { p with device := { p.device with extra := extend p.device.extra v } }) <|
  editing rule "notifier_name"
    (fun v p => { p with notifier := { p.notifier with name := text v } }) <|
  switching rule "clear_sessions" (fun p => { p with sessions := [] }) <|
  replying rule panic none

def forBreadcrumbs (rule : Json) (panic : Panic) : Except ReportError (Callback Breadcrumb) := do
  let kind ← rule.readGiven "set_kind" fun v => BreadcrumbType.parse (text v)
  let vetoed ← rule.readGiven "veto_kind" fun v => BreadcrumbType.parse (text v)
  return remarking rule (fun b => [("message", .str b.name)]) <|
    editing rule "set_message" (fun v b => { b with name := text v }) <|
    editing rule "set_kind" (fun _ b => { b with kind := kind.getD b.kind }) <|
    editing rule "insert" (fun v b => { b with metadata := extend b.metadata v }) <|
    replying rule panic (vetoed.map fun kind b => b.kind == kind)

def forErrors (rule : Json) (panic : Panic) : Except ReportError (Callback Event) := do
  let severity ← rule.readGiven "set_severity" fun v => Severity.parse (text v)
  let pushed ← rule.readGiven "push_error" ErrorInfo.ofJson
  let user ← rule.readGiven "set_user" User.reader.parse
  let vetoed ← rule.readGiven "veto_class" fun v => .ok (text v)
  -- The context is the one thing that null takes away.
  let inContext (next : Callback Event) : Callback Event := match rule.get? "set_context" with
    | some v => .edit (fun e => { e with context := v.str? }) next
    | none => next
  return remarking rule (fun e => [("severity", .str e.severity.text)]) <|
    editing rule "set_severity" (fun _ e => (severity.map e.setSeverity).getD e) <|
    inContext <|
    editing rule "set_grouping_hash" (fun v e => { e with groupingHash := v.str? }) <|
    switching rule "clear_errors" (fun e => { e with errors := [] }) <|
    editing rule "push_error" (fun _ e => { e with errors := e.errors ++ pushed.toList }) <|
    editing rule "set_class" (fun v e => { e with
      errors := e.errors.modify 0 fun error => { error with errorClass := text v } }) <|
    editing rule "add_metadata"
      (fun v e => { e with metadata := v.items.foldl addEntry e.metadata }) <|
    switching rule "detach_session" (fun e => { e with session := none }) <|
    editing rule "set_unhandled" (fun v e => { e with
      handledState := { e.handledState with unhandled := v.bool?.getD false } }) <|
    editing rule "set_user" (fun _ e => { e with user := user.getD e.user }) <|
    editing rule "app_extra"
      (fun v e => { e with app := { e.app with extra := extend e.app.extra v } }) <|
    switching rule "clear_breadcrumbs" (fun e => { e with breadcrumbs := [] }) <|
    replying rule panic
      (vetoed.map fun c e => e.errors.head?.any fun error => error.errorClass == c)

end CrashReporter.Rule
