import CrashReporter.Application.Calls
import CrashReporter.Application.Host
import CrashReporter.Proofs.SessionTracker

-- The life of a client from its launch on. The host calls it from any thread, the background
-- takes up tasks and ends them, and the collector answers, all in any order. What a report
-- leaves in passing is told apart from the rest once, so that every law about clients can
-- start from what it is about.

namespace CrashReporter

/-! ## Calls of the host -/

/-- What a host asks of its client. -/
inductive HostCall
  | startSession
  | pauseSession
  | resumeSession
  /-- A session that was started elsewhere, as it was when it was handed over. -/
  | registerSession (session : Option SessionSnapshot)
  | moveActivity (activity : String) (transition : Transition)
  | leaveMessage (message : String)
  | leaveBreadcrumb (name : String) (kind : BreadcrumbType) (metadata : Dict Json)
  | reportError (error : ErrorInfo) (state : HandledState) (lastly : Option (Callback Event))
  | reportUnhandled (error : ErrorInfo) (state : HandledState) (extra : Metadata)
  | changeConnectivity (connected : Bool)
  | addErrorCallback (callback : Callback Event)
  | addBreadcrumbCallback (callback : Callback Breadcrumb)
  | addSessionCallback (callback : Callback SessionPayload)
  | removeErrorCallback (id : CallbackId)
  | removeBreadcrumbCallback (id : CallbackId)
  | removeSessionCallback (id : CallbackId)
  | registerObserver (observer : Observer)
  | unregisterObserver (id : ObserverId)
  | subscribe
  | collect (index : Nat)
  | setUser (user : User)
  | setContext (context : Option String)
  | changeMetadata (f : Metadata → Metadata)
  | installHook
  | raise (panic : Panic)
  | close

/-- The client does what the host asks. -/
def Application.carryOut (a : Application) : HostCall → Application
  | .startSession => a.startSession loud
  | .pauseSession => a.pauseSession loud
  | .resumeSession => (a.resumeSession loud).1
  | .registerSession session => a.registerSession loud (session.map SessionSnapshot.restored)
  | .moveActivity activity transition => a.moveActivity loud activity transition
  | .leaveMessage message => a.leaveMessage loud message
  | .leaveBreadcrumb name kind metadata => a.leaveBreadcrumb loud name kind metadata
  | .reportError error state lastly => a.reportError loud error state lastly
  | .reportUnhandled error state extra => a.reportUnhandled loud error state extra
  | .changeConnectivity connected => a.changeConnectivity loud connected
  | .addErrorCallback callback => (a.addErrorCallback callback).1
  | .addBreadcrumbCallback callback => (a.addBreadcrumbCallback callback).1
  | .addSessionCallback callback => (a.addSessionCallback callback).1
  | .removeErrorCallback id => (a.removeErrorCallback id).1
  | .removeBreadcrumbCallback id => (a.removeBreadcrumbCallback id).1
  | .removeSessionCallback id => (a.removeSessionCallback id).1
  | .registerObserver observer => (a.registerObserver observer).1
  | .unregisterObserver id => (a.unregisterObserver id).1
  | .subscribe => a.subscribe
  | .collect index => (a.collect index).1
  | .setUser user => a.setUser user
  | .setContext context => a.setContext context
  | .changeMetadata f => a.changeMetadata f
  | .installHook => a.installHook
  | .raise panic => a.raise panic
  | .close => a.close

/-! ## Turns -/

/-- What was sent, with the app and the device as the client saw them then. -/
structure Sending where
  flight : Flight
  around : Surroundings

/-- An application, the calls that wait for an answer, and all that was sent, oldest first. -/
structure Life where
  application : Application
  flights : List Flight := []
  sent : List Sending := []

namespace Life

/-- A call goes on: it sends something and waits with the others, or it is over. -/
def goOn (life : Life) (step : Application × Progress) : Life :=
  match step.2 with
  | .waiting flight =>
    { application := step.1
      flights := flight :: life.flights
      sent := life.sent ++ [⟨flight, step.1.client.surroundings step.1.now⟩] }
  | .finished _ => { life with application := step.1 }

theorem application_goOn (life : Life) (step : Application × Progress) :
    (life.goOn step).application = step.1 := by
  unfold goOn
  cases step.2 with
  | waiting flight => rfl
  | finished outcome => rfl

/-- The background does something with its tasks. -/
def changeQueue (life : Life) (f : TaskQueue → TaskQueue) : Life :=
  { life with application := life.application.changeClient fun c => { c with queue := f c.queue } }

end Life

/-- What can happen next. -/
inductive Turn
  | call (call : HostCall)
  /-- The host begins a flush and waits for it. -/
  | flush (kind : PayloadKind)
  /-- The dispatcher takes a task in hand. -/
  | receive
  /-- The dispatcher starts the task in hand. -/
  | start
  /-- A task that was started goes to work. -/
  | begin (task : Task)
  /-- A task ends. -/
  | finish (index : Nat)
  | answer (flight : Flight) (answer : Answer)
  /-- Another thread goes to work. -/
  | thread (name : String)
  | clock (clock : Clock)

/-- The task of flushing a store. -/
def PayloadKind.flush : PayloadKind → Task
  | .event => .flushEvents
  | .session => .flushSessions

inductive Life.Step : Life → Turn → Life → Prop
  | call (life : Life) (call : HostCall) :
      Step life (.call call) { life with application := life.application.carryOut call }
  | flush (life : Life) (kind : PayloadKind) :
      Step life (.flush kind) (life.goOn (life.application.begin kind.flush))
  | receive (life : Life) : Step life .receive (life.changeQueue TaskQueue.receive)
  | start (life : Life) : Step life .start (life.changeQueue TaskQueue.start)
  | begin (life : Life) (task : Task) (h : task ∈ life.application.client.queue.running) :
      Step life (.begin task) (life.goOn (life.application.begin task))
  | finish (life : Life) (index : Nat) :
      Step life (.finish index) (life.changeQueue fun q => q.finish index)
  | answer (a : Application) (before after : List Flight) (sent : List Sending) (flight : Flight)
      (answer : Answer) :
      Step ⟨a, before ++ flight :: after, sent⟩ (.answer flight answer)
        (Life.goOn ⟨a, before ++ after, sent⟩ (a.answer Application.loud flight answer))
  | thread (life : Life) (name : String) :
      Step life (.thread name)
        { life with application := { life.application with thread := name } }
  | clock (life : Life) (clock : Clock) :
      Step life (.clock clock) { life with application := { life.application with clock } }

/-! ## Tasks and sessions -/

namespace Application

variable {a : Application} {task : Task}

theorem submit_of_room {q : TaskQueue} (h : a.client.queue.submit? task = some q) :
    a.submit task = a.changeClient fun c => { c with queue := q } := by
  simp only [submit, changeClient, submitTask, h]

/-- What finds no room is kept. -/
theorem submit_of_full (h : a.client.queue.submit? task = none) :
    a.submit task = a.changeClient fun c => { c with pipeline := c.pipeline.keep task } := by
  simp only [submit, changeClient, submitTask, h]

/-- A session that is offered goes through the callbacks. Then the tracker may release it, and
what it releases is left to the background. -/
theorem trackSession_cases (a : Application) (alarm : Alarm) (number : Nat) :
    a.trackSession alarm number = a ∨
      ∃ (session : Session) (run : CallbackRun SessionPayload) (b : Application)
        (tracker : SessionTracker) (released : Option SessionPayload),
        run = a.client.onSession.run (a.client.sessionPayload a.now session) ∧
          b = (a.changeClient fun c => { c with onSession := run.chain }).heed alarm
            run.incidents ∧
          b.client.tracker.prepareDelivery number run b.client.config.reportsStage =
            (tracker, released) ∧
          a.trackSession alarm number = match released with
            | some payload => (b.changeTracker tracker).submit (.deliverSessions payload)
            | none => b.changeTracker tracker := by
  unfold trackSession
  cases a.client.tracker.session? number with
  | none => exact .inl rfl
  | some session => exact .inr ⟨session, _, _, _, _, rfl, rfl, rfl, rfl⟩

/-! ## Answers -/

/-- A panic of the transport is reported first. -/
def alarmed (a : Application) (alarm : Alarm) : Answer → Application
  | .panic panic => alarm panic a
  | .status _ => a

theorem answer_eq (a : Application) (alarm : Alarm) (flight : Flight) (reply : Answer) :
    a.answer alarm flight reply =
      let told := (a.alarmed alarm reply).tell alarm (Pipeline.report flight reply.outcome)
      told.changePipeline (told.client.pipeline.settle flight reply.outcome) := by
  cases reply with
  | status status => rfl
  | panic panic => rfl

end Application

/-! ## Launches -/

/-- A client that was just built has no session callbacks, no sessions and no tasks. -/
structure Client.Fresh (c : Client) (executor : Executor) : Prop where
  onSession : c.onSession = { name := "on_session" }
  tracker : c.tracker =
    { autoTrack := c.config.autoTrackSessions, timeout := c.config.sessionTimeout }
  queue : c.queue = .new c.config.queueCapacity c.config.workerThreads executor

theorem Client.fresh_build {l : Launch} {disk : Disk} {c : Client} (h : build l disk = .ok c) :
    c.Fresh l.executor := by
  simp only [build, bind, Except.bind] at h
  split at h
  · cases h
  · split at h
    · cases h
    · obtain rfl := Except.ok.inj h
      exact ⟨rfl, rfl, rfl⟩

theorem Application.built_of_launch {l : Launch} {disk : Disk} {clock : Clock}
    {ids : Nat → SessionId} {a : Application} (h : launch l disk clock ids = .ok a) :
    ∃ client, Client.build l disk = .ok client ∧
      a = ({ clock, ids, client } : Application).greet loud := by
  unfold launch at h
  cases hbuild : Client.build l disk with
  | error e =>
    rw [hbuild] at h
    cases h
  | ok client =>
    rw [hbuild] at h
    exact ⟨client, rfl, (Except.ok.inj h).symm⟩

theorem Application.launch_eq_ok {l : Launch} {disk : Disk} {clock : Clock} {ids : Nat → SessionId}
    {a : Application} (h : launch l disk clock ids = .ok a) :
    ∃ client, a = ({ clock, ids, client } : Application).greet loud ∧ client.Fresh l.executor := by
  obtain ⟨client, hbuild, ha⟩ := built_of_launch h
  exact ⟨client, ha, Client.fresh_build hbuild⟩

/-- A launch with room for two tasks, which are those of the launch itself. -/
def plainLaunch : Launch :=
  { config :=
      { apiKey := "0123456789abcdef0123456789abcdef"
        storageDir := "reports"
        queueCapacity := 2 } }

/-- The client that it builds on an empty disk. -/
def plainClient : Client :=
  { config := plainLaunch.config
    host := {}
    onBreadcrumb :=
      (({ name := "on_breadcrumb" } : CallbackChain Breadcrumb).add
        (Client.typeFilter plainLaunch.config)).2
    ring := { capacity := 25 }
    tracker := {}
    pipeline :=
      { settings := Client.settingsOf plainLaunch.config {}
        events := { kind := .event, limit := 32, place := .folder Dict.empty }
        sessions := { kind := .session, limit := 128, place := .folder Dict.empty } }
    queue := .new 2 2 .owned }

def plainApplication : Application := { clock := ⟨0⟩, ids := fun n => ⟨n⟩, client := plainClient }

theorem launch_plainLaunch :
    Application.launch plainLaunch {} ⟨0⟩ (fun n => ⟨n⟩) =
      .ok (plainApplication.greet Application.loud) := by
  rfl

/-! ## What is left in passing -/

/-- A property of applications that looks neither at the journal nor at the observers, the
breadcrumbs and the callbacks for errors and breadcrumbs: whatever tells, and whatever runs
such callbacks, keeps it. -/
structure Steady (P : Application → Prop) : Prop where
  journal : ∀ a journal, P a → P { a with journal }
  bus : ∀ a bus, P a → P (a.changeClient fun c => { c with bus })
  ring : ∀ a ring, P a → P (a.changeClient fun c => { c with ring })
  onError : ∀ a onError, P a → P (a.changeClient fun c => { c with onError })
  onBreadcrumb : ∀ a onBreadcrumb, P a → P (a.changeClient fun c => { c with onBreadcrumb })

/-- Whatever is done with a panic keeps the property. -/
def Alarm.Keeps (alarm : Alarm) (P : Application → Prop) : Prop :=
  ∀ panic a, P a → P (alarm panic a)

theorem keeps_silent (P : Application → Prop) : Alarm.Keeps Application.silent P :=
  fun _ _ h => h

theorem Alarm.Keeps.alarmed {P : Application → Prop} {alarm : Alarm} {a : Application}
    (hk : alarm.Keeps P) (h : P a) (reply : Answer) : P (a.alarmed alarm reply) := by
  cases reply with
  | status status => exact h
  | panic panic => exact hk panic a h

namespace Steady

open Application

variable {P : Application → Prop} {alarm : Alarm} {a : Application}

theorem note (hs : Steady P) (h : P a) (entry : JournalEntry) : P (a.note entry) :=
  hs.journal a _ h

theorem tell (hs : Steady P) (hk : alarm.Keeps P) (h : P a) (event : StateEvent) :
    P (a.tell alarm event) := by
  have hobserve : ∀ (a : Application) (o : Observer), P a → P (a.observe alarm event o) := by
    intro a o h
    unfold observe
    have hnoted := hs.note h (.sighting ⟨o.label, event⟩)
    cases o.panics event with
    | none => exact hnoted
    | some panic => exact hk panic _ hnoted
  unfold Application.tell
  apply hs.bus
  have hnoted := hs.note h (.told a.client.queue.executor event)
  generalize (a.note (.told a.client.queue.executor event)).client.bus.observers = observers
  generalize a.note (.told a.client.queue.executor event) = told at hnoted
  induction observers generalizing told with
  | nil => exact hnoted
  | cons o rest ih => exact ih _ (hobserve told o.2 hnoted)

theorem tellAll (hs : Steady P) (hk : alarm.Keeps P) (h : P a) (events : List StateEvent) :
    P (a.tellAll alarm events) := by
  unfold Application.tellAll
  induction events generalizing a with
  | nil => exact h
  | cons event rest ih => exact ih (hs.tell hk h event)

theorem heed (hs : Steady P) (hk : alarm.Keeps P) (h : P a) (incidents : List Incident) :
    P (a.heed alarm incidents) := by
  unfold Application.heed
  induction incidents generalizing a with
  | nil => exact h
  | cons incident rest ih =>
    cases incident with
    | remark text => exact ih (hs.note h (.remark text))
    | panic panic => exact ih (hk panic a h)

theorem addBreadcrumb (hs : Steady P) (hk : alarm.Keeps P) (h : P a) (b : Breadcrumb) :
    P (a.addBreadcrumb alarm b) := by
  have hrun := hs.heed hk (hs.onBreadcrumb a (a.client.onBreadcrumb.run b).chain h)
    (a.client.onBreadcrumb.run b).incidents
  unfold Application.addBreadcrumb
  simp only
  split
  · exact hs.tellAll hk (hs.ring _ _ hrun) _
  · exact hrun

theorem leaveBreadcrumb (hs : Steady P) (hk : alarm.Keeps P) (h : P a) (name : String)
    (kind : BreadcrumbType) (metadata : Dict Json) :
    P (a.leaveBreadcrumb alarm name kind metadata) := hs.addBreadcrumb hk h _

theorem leaveErrorBreadcrumb (hs : Steady P) (hk : alarm.Keeps P) (h : P a) (event : Event) :
    P (a.leaveErrorBreadcrumb alarm event) := by
  unfold Application.leaveErrorBreadcrumb
  cases event.errors.head? with
  | none => exact h
  | some error => exact hs.leaveBreadcrumb hk h _ _ _

theorem runErrorCallbacks (hs : Steady P) (hk : alarm.Keeps P) (h : P a) (event : Event)
    (lastly : Option (Callback Event)) : P (a.runErrorCallbacks alarm event lastly).1 := by
  unfold Application.runErrorCallbacks
  exact hs.heed hk (hs.onError a _ h) _

end Steady

/-! ## Reports -/

/-- A steady property that looks neither at the sessions nor at the events that are stored or
left to the background, and at nothing but the client. Reports keep it, those of panics too. -/
structure Unreported (P : Application → Prop) : Prop extends Steady P where
  tracker : ∀ a tracker, P a → P (a.changeTracker tracker)
  dispatch : ∀ a event, P a → P (a.dispatchEvent event)
  elsewhere : ∀ (a b : Application) (disk : Disk), P a →
    b.client = { a.client with pipeline := a.client.pipeline.onDisk disk } → P b

namespace Unreported

open Application

variable {P : Application → Prop} {alarm : Alarm} {a : Application}

theorem countEvent (hs : Unreported P) (h : P a) (event : Event) (session : Option Nat) :
    P (a.countEvent event session).1 := by
  unfold Application.countEvent
  cases event.session.isNone with
  | true => exact h
  | false =>
    cases session with
    | none => exact h
    | some number => exact hs.tracker a _ h

theorem report (hs : Unreported P) (hk : alarm.Keeps P) (h : P a) (event : Event)
    (extra : Metadata) (lastly : Option (Callback Event)) :
    P (a.report alarm event extra lastly) := by
  unfold Application.report
  split
  · exact h
  · have hrun := hs.runErrorCallbacks hk h (a.client.describe a.now event extra) lastly
    generalize a.runErrorCallbacks alarm (a.client.describe a.now event extra) lastly = run at hrun
    obtain ⟨b, left, proceed⟩ := run
    cases proceed with
    | false => exact hrun
    | true =>
      have hcounted := hs.countEvent hrun left a.client.attachedSession?
      exact hs.leaveErrorBreadcrumb hk (hs.dispatch _ _ hcounted) _

theorem reportPanic (hs : Unreported P) (h : P a) (panic : Panic) : P (a.reportPanic panic) := by
  unfold Application.reportPanic reportUnhandled
  exact hs.report (keeps_silent P) h _ _ _

/-- What an earlier client does changes the disk at most for the one at work. -/
theorem withEarlier (hs : Unreported P) (h : P a) (index : Nat)
    (f : Application → Application) : P (a.withEarlier index f) := by
  unfold Application.withEarlier
  cases a.earlier[index]? with
  | none => exact h
  | some earlier => exact hs.elsewhere a _ _ h rfl

theorem callHook (hs : Unreported P) (h : P a) (panic : Panic) (hook : Hook) :
    P (a.callHook panic hook) := by
  unfold Application.callHook
  cases hook with
  | current => exact hs.reportPanic h panic
  | earlier index => exact hs.withEarlier h index _

/-- What the hooks do with a panic keeps the property. -/
theorem loud (hs : Unreported P) : Alarm.Keeps loud P := by
  intro panic a h
  unfold Application.loud
  generalize a.hooks = hooks
  induction hooks generalizing a with
  | nil => exact h
  | cons hook rest ih => exact ih _ (hs.callHook h panic hook)

end Unreported

end CrashReporter
