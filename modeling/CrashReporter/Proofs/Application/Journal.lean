import CrashReporter.Proofs.Application.Life

-- The journal is for the world alone: an application writes it and never reads it. What was
-- written earlier stands before all that comes, and changes nothing of it.

namespace CrashReporter

/-- The application as it is if the world saw this first. -/
def Application.preceded (a : Application) (log : List JournalEntry) : Application :=
  { a with journal := log ++ a.journal }

/-- The steps do the same whatever the world saw before. -/
def Blind (log : List JournalEntry) (step : Application → Application) : Prop :=
  ∀ a, step (a.preceded log) = (step a).preceded log

/-- What is done with a panic does not depend on what the world saw. -/
def Alarm.Blind (alarm : Alarm) (log : List JournalEntry) : Prop :=
  ∀ panic, CrashReporter.Blind log (alarm panic)

namespace Application

variable (a : Application) {alarm : Alarm} {log : List JournalEntry}

@[simp] theorem client_preceded : (a.preceded log).client = a.client := rfl

@[simp] theorem now_preceded : (a.preceded log).now = a.now := rfl

@[simp] theorem changeClient_preceded (f : Client → Client) :
    (a.preceded log).changeClient f = (a.changeClient f).preceded log := rfl

@[simp] theorem changeTracker_preceded (tracker : SessionTracker) :
    (a.preceded log).changeTracker tracker = (a.changeTracker tracker).preceded log := rfl

@[simp] theorem submit_preceded (task : Task) :
    (a.preceded log).submit task = (a.submit task).preceded log := rfl

theorem foldl_preceded {β : Type} {step : Application → β → Application}
    (h : ∀ x, Blind log fun a => step a x) (xs : List β) :
    xs.foldl step (a.preceded log) = (xs.foldl step a).preceded log :=
  List.foldl_hom (fun a => a.preceded log) fun a x => h x a

/-! ## Telling -/

theorem note_preceded (entry : JournalEntry) :
    (a.preceded log).note entry = (a.note entry).preceded log := by
  simp [note, preceded]

theorem observe_preceded (h : alarm.Blind log) (event : StateEvent) (o : Observer) :
    (a.preceded log).observe alarm event o = (a.observe alarm event o).preceded log := by
  unfold observe
  rw [note_preceded]
  cases o.panics event with
  | none => rfl
  | some panic => exact h panic _

theorem tell_preceded (h : alarm.Blind log) (event : StateEvent) :
    (a.preceded log).tell alarm event = (a.tell alarm event).preceded log := by
  unfold tell
  simp only [client_preceded, note_preceded]
  rw [foldl_preceded _ fun o a => observe_preceded a h event o.2]
  rfl

theorem tellAll_preceded (h : alarm.Blind log) (events : List StateEvent) :
    (a.preceded log).tellAll alarm events = (a.tellAll alarm events).preceded log :=
  foldl_preceded a (fun event a => tell_preceded a h event) events

theorem heed_preceded (h : alarm.Blind log) (incidents : List Incident) :
    (a.preceded log).heed alarm incidents = (a.heed alarm incidents).preceded log := by
  refine foldl_preceded a ?_ incidents
  intro incident a
  cases incident with
  | remark text => exact note_preceded a _
  | panic panic => exact h panic a

/-! ## Breadcrumbs -/

theorem addBreadcrumb_preceded (h : alarm.Blind log) (b : Breadcrumb) :
    (a.preceded log).addBreadcrumb alarm b = (a.addBreadcrumb alarm b).preceded log := by
  unfold addBreadcrumb
  simp only [client_preceded, changeClient_preceded, heed_preceded _ h, tellAll_preceded _ h]
  split
  · rfl
  · rfl

theorem leaveBreadcrumb_preceded (h : alarm.Blind log) (name : String) (kind : BreadcrumbType)
    (metadata : Dict Json) :
    (a.preceded log).leaveBreadcrumb alarm name kind metadata =
      (a.leaveBreadcrumb alarm name kind metadata).preceded log := addBreadcrumb_preceded a h _

theorem changeConnectivity_preceded (h : alarm.Blind log) (connected : Bool) :
    (a.preceded log).changeConnectivity alarm connected =
      (a.changeConnectivity alarm connected).preceded log := by
  unfold changeConnectivity
  simp only [leaveBreadcrumb_preceded _ h, submit_preceded]
  split
  · rfl
  · rfl

/-! ## Reports -/

variable {event : Event} {extra : Metadata} {lastly : Option (Callback Event)}

theorem runErrorCallbacks_preceded (h : alarm.Blind log) :
    (a.preceded log).runErrorCallbacks alarm event lastly =
      ((a.runErrorCallbacks alarm event lastly).1.preceded log,
        (a.runErrorCallbacks alarm event lastly).2) := by
  unfold runErrorCallbacks
  simp only [client_preceded, changeClient_preceded, heed_preceded _ h]
  rfl

theorem countEvent_preceded (session : Option Nat) :
    (a.preceded log).countEvent event session =
      ((a.countEvent event session).1.preceded log, (a.countEvent event session).2) := by
  unfold countEvent
  cases event.session.isNone with
  | true => rfl
  | false =>
    cases session with
    | none => rfl
    | some number => rfl

theorem dispatchEvent_preceded :
    (a.preceded log).dispatchEvent event = (a.dispatchEvent event).preceded log := by
  unfold dispatchEvent
  cases event.isUnhandled with
  | true => rfl
  | false => rfl

theorem leaveErrorBreadcrumb_preceded (h : alarm.Blind log) :
    (a.preceded log).leaveErrorBreadcrumb alarm event =
      (a.leaveErrorBreadcrumb alarm event).preceded log := by
  unfold leaveErrorBreadcrumb
  cases event.errors.head? with
  | none => rfl
  | some error => exact leaveBreadcrumb_preceded a h _ _ _

theorem report_preceded (h : alarm.Blind log) :
    (a.preceded log).report alarm event extra lastly =
      (a.report alarm event extra lastly).preceded log := by
  unfold report
  simp only [client_preceded, now_preceded, runErrorCallbacks_preceded _ h]
  split
  · rfl
  · generalize a.runErrorCallbacks alarm _ lastly = run
    obtain ⟨b, left, proceed⟩ := run
    cases proceed with
    | false => rfl
    | true =>
      simp only [if_true, countEvent_preceded, dispatchEvent_preceded]
      exact leaveErrorBreadcrumb_preceded _ h

/-! ## Panics -/

theorem blind_silent : Alarm.Blind silent log := fun _ _ => rfl

theorem reportPanic_preceded (panic : Panic) :
    (a.preceded log).reportPanic panic = (a.reportPanic panic).preceded log := by
  unfold reportPanic reportUnhandled
  exact report_preceded a blind_silent

theorem withEarlier_preceded {step : Application → Application} (h : Blind log step)
    (index : Nat) :
    (a.preceded log).withEarlier index step = (a.withEarlier index step).preceded log := by
  unfold withEarlier
  have hsame : (a.preceded log).earlier = a.earlier := rfl
  rw [hsame]
  cases a.earlier[index]? with
  | none => rfl
  | some earlier =>
    exact congrArg
      (fun after : Application => { after with
        client := { a.client with
          pipeline := a.client.pipeline.onDisk after.client.pipeline.disk }
        earlier := after.earlier.set index after.client })
      (h { a with
        client := { earlier with pipeline := earlier.pipeline.onDisk a.client.pipeline.disk } })

theorem blind_loud : Alarm.Blind loud log := by
  intro panic a
  refine foldl_preceded a ?_ a.hooks
  intro hook a
  cases hook with
  | current => exact reportPanic_preceded a panic
  | earlier index =>
    have hreport : Blind log fun a => a.reportPanic panic := fun a => reportPanic_preceded a panic
    exact withEarlier_preceded a hreport index

/-! ## Sessions -/

theorem trackSession_preceded (h : alarm.Blind log) (number : Nat) :
    (a.preceded log).trackSession alarm number = (a.trackSession alarm number).preceded log := by
  unfold trackSession
  simp only [client_preceded]
  cases a.client.tracker.session? number with
  | none => rfl
  | some session =>
    simp only [client_preceded, now_preceded, changeClient_preceded, heed_preceded _ h,
      changeTracker_preceded, submit_preceded]
    split
    · rfl
    · rfl

theorem followTracker_preceded (h : alarm.Blind log) (step : SessionTracker × List StateEvent)
    (started : Bool) :
    (a.preceded log).followTracker alarm step started =
      (a.followTracker alarm step started).preceded log := by
  unfold followTracker
  simp only [changeTracker_preceded, tellAll_preceded _ h]
  generalize (a.changeTracker step.1).tellAll alarm step.2 = b
  split
  · exact trackSession_preceded { b with idsGiven := b.idsGiven + 1 } h _
  · rfl

theorem moveActivity_preceded (h : alarm.Blind log) (activity : String)
    (transition : Transition) :
    (a.preceded log).moveActivity alarm activity transition =
      (a.moveActivity alarm activity transition).preceded log := by
  unfold moveActivity
  simp only [leaveBreadcrumb_preceded _ h]
  split
  · exact followTracker_preceded _ h (_, _) _
  · rfl

/-! ## Calls of the host -/

theorem carryOut_preceded (call : HostCall) :
    (a.preceded log).carryOut call = (a.carryOut call).preceded log := by
  have h : Alarm.Blind loud log := blind_loud
  cases call with
  | startSession =>
    unfold carryOut startSession
    exact followTracker_preceded a h _ true
  | pauseSession =>
    unfold carryOut pauseSession
    exact followTracker_preceded a h _ false
  | resumeSession =>
    unfold carryOut resumeSession
    exact followTracker_preceded a h (_, _) _
  | registerSession session =>
    unfold carryOut registerSession
    exact followTracker_preceded a h _ false
  | moveActivity activity transition => exact moveActivity_preceded a h activity transition
  | leaveMessage message => exact addBreadcrumb_preceded a h _
  | leaveBreadcrumb name kind metadata => exact leaveBreadcrumb_preceded a h name kind metadata
  | reportError error state lastly =>
    unfold carryOut reportError
    exact report_preceded a h
  | reportUnhandled error state extra =>
    unfold carryOut reportUnhandled
    exact report_preceded a h
  | changeConnectivity connected => exact changeConnectivity_preceded a h connected
  | raise panic => exact h panic a
  | _ => rfl

theorem alarmed_preceded (h : alarm.Blind log) (reply : Answer) :
    (a.preceded log).alarmed alarm reply = (a.alarmed alarm reply).preceded log := by
  cases reply with
  | status status => rfl
  | panic panic => exact h panic a

theorem answer_preceded (flight : Flight) (reply : Answer) :
    (a.preceded log).answer loud flight reply =
      ((a.answer loud flight reply).1.preceded log, (a.answer loud flight reply).2) := by
  have h : Alarm.Blind loud log := blind_loud
  rw [answer_eq, answer_eq]
  simp only [alarmed_preceded a h, tell_preceded _ h]
  rfl

end Application

/-! ## Lives -/

namespace Life

variable {life next : Life} {turn : Turn} {log : List JournalEntry}

/-- The life as it is if the world saw this first. -/
def preceded (life : Life) (log : List JournalEntry) : Life :=
  { life with application := life.application.preceded log }

theorem goOn_preceded (life : Life) (step : Application × Progress) :
    (life.preceded log).goOn (step.1.preceded log, step.2) = (life.goOn step).preceded log := by
  unfold goOn
  cases step.2 with
  | waiting flight => rfl
  | finished outcome => rfl

theorem begin_preceded (life : Life) (task : Task) (log : List JournalEntry) :
    (life.preceded log).goOn ((life.preceded log).application.begin task) =
      (life.goOn (life.application.begin task)).preceded log :=
  life.goOn_preceded (life.application.begin task)

/-- What comes next does not depend on what the world saw: it could also come if the world had
seen something else. -/
theorem step_preceded (h : Step (life.preceded log) turn next) :
    ∃ rest : Life, next = rest.preceded log ∧
      ∀ other, Step (life.preceded other) turn (rest.preceded other) := by
  generalize hfrom : life.preceded log = seen at h
  cases h with
  | call _ call =>
    subst hfrom
    have hcall : ∀ other, { life.preceded other with
        application := (life.preceded other).application.carryOut call } =
        Life.preceded { life with application := life.application.carryOut call } other :=
      fun other => congrArg (fun a => { life with application := a })
        (life.application.carryOut_preceded call)
    exact ⟨_, hcall log, fun other => hcall other ▸ .call _ call⟩
  | flush _ kind =>
    subst hfrom
    have hflush := life.begin_preceded kind.flush
    exact ⟨_, hflush log, fun other => hflush other ▸ .flush _ kind⟩
  | receive =>
    subst hfrom
    exact ⟨life.changeQueue TaskQueue.receive, rfl, fun other => .receive _⟩
  | start =>
    subst hfrom
    exact ⟨life.changeQueue TaskQueue.start, rfl, fun other => .start _⟩
  | begin _ task hrunning =>
    subst hfrom
    have hbegin := life.begin_preceded task
    exact ⟨_, hbegin log, fun other => hbegin other ▸ .begin _ task hrunning⟩
  | finish _ index =>
    subst hfrom
    exact ⟨life.changeQueue fun q => q.finish index, rfl, fun other => .finish _ index⟩
  | answer _ before after sent flight answer =>
    obtain ⟨a, flights, sent⟩ := life
    cases hfrom
    have hanswer : ∀ other, Life.goOn ⟨a.preceded other, before ++ after, sent⟩
        ((a.preceded other).answer Application.loud flight answer) =
        (Life.goOn ⟨a, before ++ after, sent⟩ (a.answer Application.loud flight answer)).preceded
          other := by
      intro other
      rw [Application.answer_preceded]
      exact goOn_preceded ⟨a, before ++ after, sent⟩ _
    exact ⟨_, hanswer log, fun other => hanswer other ▸ .answer _ before after sent flight answer⟩
  | thread _ name =>
    subst hfrom
    exact ⟨{ life with application := { life.application with thread := name } }, rfl,
      fun other => .thread _ name⟩
  | clock _ clock =>
    subst hfrom
    exact ⟨{ life with application := { life.application with clock } }, rfl,
      fun other => .clock _ clock⟩

/-- These turns lead from one moment of a life to another. -/
inductive Run : Life → List Turn → Life → Prop
  | stay (life : Life) : Run life [] life
  | step {life next last : Life} {turns : List Turn} {turn : Turn} (before : Run life turns next)
      (h : Step next turn last) : Run life (turns ++ [turn]) last

/-- Nothing that comes later depends on what the world saw. -/
theorem run_preceded {turns : List Turn} (h : Run (life.preceded log) turns next) :
    ∃ rest : Life, next = rest.preceded log ∧
      ∀ other, Run (life.preceded other) turns (rest.preceded other) := by
  induction h with
  | stay => exact ⟨life, rfl, fun other => .stay _⟩
  | step before h ih =>
    obtain ⟨rest, rfl, hrest⟩ := ih
    obtain ⟨last, rfl, hlast⟩ := step_preceded h
    exact ⟨last, rfl, fun other => (hrest other).step (hlast other)⟩

end Life

end CrashReporter
