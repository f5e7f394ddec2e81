import CrashReporter.Config
import CrashReporter.TaskQueue

-- What a client is built from. The host starts from a configuration and may then
-- change its settings by name, one after the other.

namespace CrashReporter

structure Launch where
  config : Config
  notifier : Notifier := {}
  /-- The app and the device as the host describes them. -/
  host : Surroundings := {}
  executor : Executor := .owned
deriving Inhabited

namespace Launch

/-- Changes a setting by its name, with its values in order. A value of the wrong
type counts as an empty one. -/
def set (l : Launch) (name : String) (values : List Json) : Except ReportError Launch :=
  let value := values.headD .null
  let text (v : Json) : String := v.str?.getD ""
  let texts := value.items.filterMap Json.str?
  let number := (value.int?.getD 0).toNat
  let config (f : Config → Config) : Except ReportError Launch :=
    .ok { l with config := f l.config }
  match name with
  | "api_key" => config fun c => { c with apiKey := text value }
  | "storage_dir" => config fun c => { c with storageDir := text value }
  | "endpoints" =>
    config fun c => { c with endpoints := ⟨text value, text (values.tail.headD .null)⟩ }
  | "release_stage" => config fun c => { c with releaseStage := text value }
  | "enabled_release_stages" =>
    config fun c => { c with enabledReleaseStages := some (distinctTexts texts) }
  | "app_version" => config fun c => { c with appVersion := some (text value) }
  | "auto_track_sessions" => config fun c => { c with autoTrackSessions := value.bool?.getD false }
  | "session_timeout" => config fun c => { c with sessionTimeout := number }
  | "max_breadcrumbs" => config fun c => { c with maxBreadcrumbs := number }
  | "enabled_breadcrumb_types" => do
    let types ← (Reader.list BreadcrumbType.reader).parse value
    config fun c => { c with enabledBreadcrumbTypes := some (distinctTypes types) }
  | "max_persisted_events" => config fun c => { c with maxPersistedEvents := number }
  | "max_persisted_sessions" => config fun c => { c with maxPersistedSessions := number }
  | "worker_threads" => config fun c => { c with workerThreads := number }
  | "queue_capacity" => config fun c => { c with queueCapacity := number }
  | "request_timeout" => config fun c => { c with requestTimeout := number }
  | "ignore_classes" => config fun c => { c with ignoreClasses := texts }
  | "notifier" => (Notifier.reader.parse value).map fun notifier => { l with notifier }
  | "app" => (AppState.reader.parse value).map fun app => { l with host := { l.host with app } }
  | "device" =>
    (DeviceState.reader.parse value).map fun device => { l with host := { l.host with device } }
  | _ => .error (.invalidConfig ("no setting " ++ name))

/-- A launch by its configuration and the settings that are changed after it. The
storage directory is the one that is given, unless the configuration names another. -/
def ofJson (v : Json) (storageDir : String) : Except ReportError Launch := do
  let described := (v.get? "config").getD (.obj [])
  let config ← Config.reader.parse described
  let config := if (described.get? "storage_dir").isSome then config else { config with storageDir }
  let executor : Executor := if v.flagAt "owned" false then .owned else .borrowed
  (v.listAt "set").foldlM
    (fun l change => l.set ((change.items.headD .null).str?.getD "") change.items.tail)
    { config, executor }

end Launch

end CrashReporter
