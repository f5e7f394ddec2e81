import CrashReporter.Proofs.Application.BreadcrumbTypes
import CrashReporter.Proofs.Application.DroppedReports
import CrashReporter.Proofs.Application.EventFlush
import Mathlib.Data.List.DropRight

-- The recent history. Breadcrumbs are left by many calls, and the callbacks may change or
-- discard each of them; what passed is kept up to the capacity, told of to the observers, and
-- carried by the events that are reported.

namespace CrashReporter

open Application

/-! ## The trail of a client -/

/-- A breadcrumb as the callbacks let it pass, and the labels of the observers that were
registered then. -/
structure Footprint where
  crumb : Breadcrumb
  observers : List String

/-- Who gets to see the breadcrumb, in order. -/
def Footprint.sightings (f : Footprint) : List (String × Breadcrumb) :=
  f.observers.map fun label => (label, f.crumb)

namespace Application

/-- What becomes of a breadcrumb that is offered to the callbacks now. -/
def footprint? (a : Application) (b : Breadcrumb) : Option Footprint :=
  let run := a.client.onBreadcrumb.run b
  if run.proceed then
    some ⟨run.subject, a.client.bus.observers.map fun o => o.2.label⟩
  else none

/-- The breadcrumb of an event that leaves. -/
def errorCrumb? (a : Application) (event : Event) : Option Breadcrumb :=
  event.errors.head?.map fun error =>
    .new error.errorClass .error (errorDetails event error) a.now

/-- The trace of a report: the breadcrumb of what leaves of it. -/
def reportFootprint? (a : Application) (event : Event) (extra : Metadata)
    (lastly : Option (Callback Event)) : Option Footprint :=
  ((a.outgoing? loud event extra lastly).bind fun r => a.errorCrumb? r.event).bind a.footprint?

end Application

/-- The breadcrumb that a call leaves, as the callbacks let it pass. -/
def HostCall.footprint? (a : Application) : HostCall → Option Footprint
  | .moveActivity activity transition =>
    a.footprint? (.new activity .navigation
      (Dict.empty.insert "ActivityLifecycle" (.str transition.callbackName)) a.now)
  | .leaveMessage message => a.footprint? (.manual message a.now)
  | .leaveBreadcrumb name kind metadata => a.footprint? (.new name kind metadata a.now)
  | .changeConnectivity connected =>
    a.footprint? (.new "Connectivity change" .state
      (Dict.empty.insert "hasConnection" (.bool connected)) a.now)
  | .reportError error state lastly =>
    a.reportFootprint? (.new error state a.now) Metadata.empty lastly
  | .reportUnhandled error state extra => a.reportFootprint? (.new error state a.now) extra none
  | _ => none

/-- Only calls of the host leave breadcrumbs. -/
def Turn.footprint? (a : Application) : Turn → Option Footprint
  | .call asked => asked.footprint? a
  | _ => none

/-- How many breadcrumbs a client keeps. -/
def Launch.capacity (l : Launch) : Nat := min l.config.maxBreadcrumbs Config.breadcrumbLimit

/-- The breadcrumb of the launch itself. No callback but the filter of types is there yet, and no
observer. -/
def Launch.trail (l : Launch) (clock : Clock) : List Footprint :=
  if l.config.keepsBreadcrumb .state then
    [⟨.new "Loom loaded" .state Dict.empty clock.now, []⟩]
  else []

/-- A life from its launch on, without hooks, and the trail that it left. -/
inductive Trailed (l : Launch) : Life → List Footprint → Prop
  | launched {disk : Disk} {clock : Clock} {ids : Nat → SessionId} {a : Application}
      (h : launch l disk clock ids = .ok a) : Trailed l { application := a } (l.trail clock)
  | step {life next : Life} {turn : Turn} {trail : List Footprint} (before : Trailed l life trail)
      (h : Life.Step life turn next) (hhook : turn ≠ .call .installHook) :
      Trailed l next (trail ++ (turn.footprint? life.application).toList)

/-! ## What observers see -/

/-- The breadcrumb that an event tells of. -/
def StateEvent.crumb? : StateEvent → Option Breadcrumb
  | .breadcrumbAdded b => some b
  | _ => none

/-- An observer, by its label, and the breadcrumb that it was told of. -/
def JournalEntry.crumbSeen? : JournalEntry → Option (String × Breadcrumb)
  | .sighting s => s.event.crumb?.map fun b => (s.observer, b)
  | _ => none

/-- What observers saw of breadcrumbs, in order. -/
def Application.crumbsSeen (a : Application) : List (String × Breadcrumb) :=
  a.journal.filterMap JournalEntry.crumbSeen?

/-- An event that is enabled even where no type is tells of no breadcrumb. -/
theorem StateEvent.crumb?_of_enabled {event : StateEvent} (h : ∀ config, event.Enabled config) :
    event.crumb? = none := by
  cases event with
  | breadcrumbAdded b =>
    have hnone := h { plainLaunch.config with enabledBreadcrumbTypes := some [] }
    simp [StateEvent.Enabled, Config.keepsBreadcrumb] at hnone
  | _ => rfl

theorem CallbackRun.crumbSeen?_remarks {α : Type} (r : CallbackRun α) :
    r.remarks.filterMap JournalEntry.crumbSeen? = [] := by
  rw [List.filterMap_eq_nil_iff]
  intro entry hentry
  obtain ⟨text, rfl⟩ := CallbackRun.eq_remark_of_mem_remarks hentry
  rfl

theorem Application.crumbSeen?_announcement (a : Application) (event : StateEvent) :
    (a.announcement event).filterMap JournalEntry.crumbSeen? =
      a.client.bus.observers.filterMap fun o => event.crumb?.map fun b => (o.2.label, b) := by
  rw [announcement, List.filterMap_cons_none rfl, List.filterMap_map]
  rfl

/-! ## What concerns no breadcrumb -/

/-- Nothing that happened between the two concerns breadcrumbs. -/
structure Crumbless (a b : Application) : Prop where
  hooks : b.hooks = a.hooks
  clock : b.clock = a.clock
  chain : b.client.onBreadcrumb = a.client.onBreadcrumb
  ring : b.client.ring = a.client.ring
  observers : b.client.bus.observers = a.client.bus.observers
  seen : b.crumbsSeen = a.crumbsSeen

namespace Crumbless

variable {a b c : Application}

theorem refl (a : Application) : Crumbless a a := ⟨rfl, rfl, rfl, rfl, rfl, rfl⟩

theorem trans (h : Crumbless a b) (hnext : Crumbless b c) : Crumbless a c :=
  ⟨hnext.hooks.trans h.hooks, hnext.clock.trans h.clock, hnext.chain.trans h.chain,
    hnext.ring.trans h.ring, hnext.observers.trans h.observers, hnext.seen.trans h.seen⟩

theorem heed {α : Type} (h : a.hooks = []) (run : CallbackRun α) :
    Crumbless a (a.heed loud run.incidents) := by
  rw [heed_of_no_hooks h]
  refine ⟨rfl, rfl, rfl, rfl, rfl, ?_⟩
  have hnone := run.crumbSeen?_remarks
  unfold CallbackRun.remarks at hnone
  simp only [crumbsSeen, List.filterMap_append, hnone, List.append_nil]

theorem tell (h : a.hooks = []) {event : StateEvent} (hevent : event.crumb? = none) :
    Crumbless a (a.tell loud event) := by
  rw [tell_of_no_hooks h]
  refine ⟨rfl, rfl, rfl, rfl, rfl, ?_⟩
  simp [crumbsSeen, crumbSeen?_announcement, hevent]

theorem tellAll (h : a.hooks = []) {events : List StateEvent}
    (hevents : ∀ event ∈ events, event.crumb? = none) : Crumbless a (a.tellAll loud events) := by
  unfold Application.tellAll
  induction events generalizing a with
  | nil => exact refl a
  | cons event rest ih =>
    have htold := tell h (hevents event List.mem_cons_self)
    exact htold.trans (ih (htold.hooks.trans h) fun other hother =>
      hevents other (List.mem_cons_of_mem _ hother))

theorem submit (a : Application) (task : Task) : Crumbless a (a.submit task) :=
  ⟨rfl, rfl, rfl, rfl, rfl, rfl⟩

theorem runErrorCallbacks (h : a.hooks = []) (event : Event) (lastly : Option (Callback Event)) :
    Crumbless a (a.runErrorCallbacks loud event lastly).1 := by
  unfold Application.runErrorCallbacks
  have hcalled : ∀ onError, Crumbless a (a.changeClient fun c => { c with onError }) :=
    fun _ => ⟨rfl, rfl, rfl, rfl, rfl, rfl⟩
  exact (hcalled _).trans (heed (a := a.changeClient _) h _)

theorem countEvent (a : Application) (event : Event) (session : Option Nat) :
    Crumbless a (a.countEvent event session).1 := by
  unfold Application.countEvent
  split
  · exact refl a
  · cases session with
    | none => exact refl a
    | some number => exact ⟨rfl, rfl, rfl, rfl, rfl, rfl⟩

theorem dispatchEvent (a : Application) (event : Event) : Crumbless a (a.dispatchEvent event) := by
  unfold Application.dispatchEvent
  split
  · exact ⟨rfl, rfl, rfl, rfl, rfl, rfl⟩
  · exact submit a _

theorem trackSession (h : a.hooks = []) (number : Nat) :
    Crumbless a (a.trackSession loud number) := by
  rcases trackSession_cases a loud number with hsame | ⟨session, run, b, tracker, released, _, rfl,
    _, hgoes⟩
  · rw [hsame]
    exact refl a
  · have hcalled : Crumbless a (a.changeClient fun c => { c with onSession := run.chain }) :=
      ⟨rfl, rfl, rfl, rfl, rfl, rfl⟩
    have hheeded := hcalled.trans (heed (a := a.changeClient _) h run)
    rw [hgoes]
    cases released with
    | none => exact hheeded.trans ⟨rfl, rfl, rfl, rfl, rfl, rfl⟩
    | some payload => exact hheeded.trans ⟨rfl, rfl, rfl, rfl, rfl, rfl⟩

/-- A tracker tells of no breadcrumb, and a session that starts leaves none. -/
theorem followTracker (h : a.hooks = []) {step : SessionTracker × List StateEvent}
    (hevents : ∀ config, ∀ event ∈ step.2, event.Enabled config) (started : Bool) :
    Crumbless a (a.followTracker loud step started) := by
  have hchanged : Crumbless a (a.changeTracker step.1) := ⟨rfl, rfl, rfl, rfl, rfl, rfl⟩
  have htold := hchanged.trans (tellAll (a := a.changeTracker step.1) h fun event hevent =>
    StateEvent.crumb?_of_enabled fun config => hevents config event hevent)
  unfold Application.followTracker
  simp only
  generalize (a.changeTracker step.1).tellAll loud step.2 = b at htold
  split
  · have hgiven : Crumbless a { b with idsGiven := b.idsGiven + 1 } :=
      ⟨htold.hooks, htold.clock, htold.chain, htold.ring, htold.observers, htold.seen⟩
    exact hgiven.trans (trackSession (hgiven.hooks.trans h) _)
  · exact htold

/-- A breadcrumb would fare the same. -/
theorem footprint? (h : Crumbless a b) : b.footprint? = a.footprint? := by
  funext crumb
  unfold Application.footprint?
  rw [h.chain, h.observers]

end Crumbless

/-! ## The invariant -/

/-- No hook is installed, the ring has this capacity and holds the end of the trail, and the
observers saw the trail as it was left. -/
structure Remembers (capacity : Nat) (trail : List Footprint) (a : Application) : Prop where
  hooks : a.hooks = []
  ring : a.client.ring = ⟨capacity, (trail.map (·.crumb)).rtake capacity⟩
  seen : a.crumbsSeen = if capacity = 0 then [] else trail.flatMap Footprint.sightings

/-- The ring lets go of the oldest breadcrumb at most, and what it holds is again the end of all
that was kept. -/
theorem BreadcrumbRing.push_rtake (capacity : Nat) (all : List Breadcrumb) (b : Breadcrumb) :
    BreadcrumbRing.push ⟨capacity + 1, all.rtake (capacity + 1)⟩ b =
      ⟨capacity + 1, (all ++ [b]).rtake (capacity + 1)⟩ := by
  unfold push
  simp only [List.rtake_concat_succ, mk.injEq, true_and]
  unfold List.rtake
  rw [List.drop_append_of_le_length (by simp only [List.length_drop]; omega), List.drop_drop]
  congr 2
  simp only [List.length_drop]
  omega

namespace Remembers

variable {capacity : Nat} {trail : List Footprint} {a b : Application}

theorem of_crumbless (h : Remembers capacity trail a) (hb : Crumbless a b) :
    Remembers capacity trail b :=
  ⟨hb.hooks.trans h.hooks, hb.ring.trans h.ring, hb.seen.trans h.seen⟩

/-- Most of what happens leaves no breadcrumb. -/
theorem stays (h : Remembers capacity trail a) :
    Remembers capacity (trail ++ (none : Option Footprint).toList) a := by
  rw [Option.toList_none, List.append_nil]
  exact h

/-- A breadcrumb that passed is kept and told of; without capacity neither. -/
theorem keep (h : Remembers capacity trail a) (crumb : Breadcrumb) :
    Remembers capacity (trail ++ [⟨crumb, a.client.bus.observers.map fun o => o.2.label⟩])
      ((a.changeClient fun c => { c with ring := (a.client.ring.add crumb).1 }).tellAll loud
        (a.client.ring.add crumb).2) := by
  have hring := h.ring
  have hseen := h.seen
  cases capacity with
  | zero =>
    have hadd : a.client.ring.add crumb = (a.client.ring, []) := by
      rw [BreadcrumbRing.add, hring, if_pos rfl]
    rw [hadd]
    refine ⟨h.hooks, ?_, hseen⟩
    show a.client.ring = _
    rw [hring, List.rtake_zero, List.rtake_zero]
  | succ capacity =>
    have hadd : a.client.ring.add crumb =
        (⟨capacity + 1, ((trail.map (·.crumb)) ++ [crumb]).rtake (capacity + 1)⟩,
          [.breadcrumbAdded crumb]) := by
      rw [BreadcrumbRing.add, hring, if_neg (Nat.succ_ne_zero capacity), BreadcrumbRing.push_rtake]
    rw [hadd, tellAll, List.foldl_cons, List.foldl_nil,
      tell_of_no_hooks (a := a.changeClient _) h.hooks]
    refine ⟨h.hooks, ?_, ?_⟩
    · simp [changeClient]
    · rw [if_neg (Nat.succ_ne_zero capacity)] at hseen ⊢
      rw [crumbsSeen, List.filterMap_append, crumbSeen?_announcement, List.flatMap_append, ← hseen]
      simp [crumbsSeen, changeClient, StateEvent.crumb?, Footprint.sightings]

theorem addBreadcrumb (h : Remembers capacity trail a) (crumb : Breadcrumb) :
    Remembers capacity (trail ++ (a.footprint? crumb).toList) (a.addBreadcrumb loud crumb) := by
  have hcalled : Remembers capacity trail (a.changeClient fun c =>
      { c with onBreadcrumb := (a.client.onBreadcrumb.run crumb).chain }) :=
    ⟨h.hooks, h.ring, h.seen⟩
  have hquiet := Crumbless.heed hcalled.hooks (a.client.onBreadcrumb.run crumb)
  have hheeded := hcalled.of_crumbless hquiet
  have hobservers := hquiet.observers
  unfold Application.addBreadcrumb Application.footprint?
  simp only
  generalize Application.heed _ loud (a.client.onBreadcrumb.run crumb).incidents = b
    at hheeded hobservers
  cases (a.client.onBreadcrumb.run crumb).proceed with
  | false => simpa using hheeded
  | true =>
    have hkept := hheeded.keep (a.client.onBreadcrumb.run crumb).subject
    rw [hobservers] at hkept
    exact hkept

/-- The breadcrumb of a report comes last: nothing of what the report does before concerns
breadcrumbs. -/
theorem report (h : Remembers capacity trail a) (event : Event) (extra : Metadata)
    (lastly : Option (Callback Event)) :
    Remembers capacity (trail ++ (a.reportFootprint? event extra lastly).toList)
      (a.report loud event extra lastly) := by
  unfold reportFootprint?
  cases hr : a.outgoing? loud event extra lastly with
  | none =>
    rw [Option.bind_none, Option.bind_none, Option.toList_none, List.append_nil]
    rcases report_of_stopped hr with hsame | hrun
    · rw [hsame]
      exact h
    · rw [hrun]
      exact h.of_crumbless (.runErrorCallbacks h.hooks _ _)
  | some r =>
    obtain ⟨b, c, hb, _, hcount, hreport⟩ := report_of_outgoing hr
    have hrun := Crumbless.runErrorCallbacks h.hooks (a.client.describe a.now event extra) lastly
    have hcounted := Crumbless.countEvent b r.left r.session
    rw [← hb] at hrun
    rw [hcount] at hcounted
    have hquiet := (hrun.trans hcounted).trans (.dispatchEvent c r.event)
    have hnow : (c.dispatchEvent r.event).now = a.now := congrArg Clock.now hquiet.clock
    rw [hreport, Option.bind_some, errorCrumb?, leaveErrorBreadcrumb]
    cases r.event.errors.head? with
    | none => simpa using h.of_crumbless hquiet
    | some error =>
      have hleft := (h.of_crumbless hquiet).addBreadcrumb
        (.new error.errorClass .error (errorDetails r.event error) a.now)
      rw [hquiet.footprint?] at hleft
      unfold Application.leaveBreadcrumb
      rw [hnow]
      exact hleft

/-- Whatever the host asks for, but a hook. -/
theorem carryOut (h : Remembers capacity trail a) {call : HostCall} (hhook : call ≠ .installHook) :
    Remembers capacity (trail ++ (call.footprint? a).toList) (a.carryOut call) := by
  cases call with
  | startSession =>
    unfold Application.carryOut Application.startSession
    exact stays (h.of_crumbless (.followTracker h.hooks
      (fun config => SessionTracker.enabled_start config _ _ _ _) _))
  | pauseSession =>
    unfold Application.carryOut Application.pauseSession
    exact stays (h.of_crumbless (.followTracker h.hooks
      (fun config => SessionTracker.enabled_pause config _) _))
  | resumeSession =>
    exact stays (h.of_crumbless (.followTracker h.hooks
      (fun config => SessionTracker.enabled_resume config _ _ _) _))
  | registerSession session =>
    unfold Application.carryOut Application.registerSession
    exact stays (h.of_crumbless (.followTracker h.hooks
      (fun config => SessionTracker.enabled_register config _ _) _))
  | moveActivity activity transition =>
    have hleft := h.addBreadcrumb (.new activity .navigation
      (Dict.empty.insert "ActivityLifecycle" (.str transition.callbackName)) a.now)
    unfold Application.carryOut Application.moveActivity
    simp only
    split
    · exact hleft.of_crumbless (.followTracker hleft.hooks
        (fun config => SessionTracker.enabled_moveActivity config _ _ _ _ _) _)
    · exact hleft
  | leaveMessage message => exact h.addBreadcrumb _
  | leaveBreadcrumb name kind metadata => exact h.addBreadcrumb _
  | reportError error state lastly => exact h.report _ _ _
  | reportUnhandled error state extra => exact h.report _ _ _
  | changeConnectivity connected =>
    have hleft := h.addBreadcrumb (.new "Connectivity change" .state
      (Dict.empty.insert "hasConnection" (.bool connected)) a.now)
    unfold Application.carryOut Application.changeConnectivity
    simp only
    split
    · exact hleft.of_crumbless (.submit _ _)
    · exact hleft
  | installHook => exact absurd rfl hhook
  | raise panic =>
    have hraised : a.carryOut (.raise panic) = a := loud_of_no_hooks h.hooks panic
    rw [hraised]
    exact h.stays
  | _ => exact stays ⟨h.hooks, h.ring, h.seen⟩

theorem answer (h : Remembers capacity trail a) (flight : Flight) (reply : Answer) :
    Remembers capacity trail (a.answer loud flight reply).1 := by
  have hcrumb : (Pipeline.report flight reply.outcome).crumb? = none := rfl
  have htold := h.of_crumbless (.tell h.hooks hcrumb)
  rw [answer_eq, alarmed_of_no_hooks h.hooks]
  exact ⟨htold.hooks, htold.ring, htold.seen⟩

theorem step {life next : Life} {turn : Turn} (h : Remembers capacity trail life.application)
    (hstep : Life.Step life turn next) (hhook : turn ≠ .call .installHook) :
    Remembers capacity (trail ++ (turn.footprint? life.application).toList) next.application := by
  cases hstep with
  | call _ call => exact h.carryOut fun heq => hhook (heq ▸ rfl)
  | flush _ kind =>
    rw [Life.application_goOn]
    exact stays ⟨h.hooks, h.ring, h.seen⟩
  | receive => exact stays ⟨h.hooks, h.ring, h.seen⟩
  | start => exact stays ⟨h.hooks, h.ring, h.seen⟩
  | begin _ task _ =>
    rw [Life.application_goOn]
    exact stays ⟨h.hooks, h.ring, h.seen⟩
  | finish _ index => exact stays ⟨h.hooks, h.ring, h.seen⟩
  | answer a before after sent flight reply =>
    rw [Life.application_goOn]
    exact (h.answer flight reply).stays
  | thread _ name => exact stays ⟨h.hooks, h.ring, h.seen⟩
  | clock _ clock => exact stays ⟨h.hooks, h.ring, h.seen⟩

/-- The filter of types is all that the breadcrumb of a launch meets. -/
theorem launch {l : Launch} {disk : Disk} {clock : Clock} {ids : Nat → SessionId}
    (h : Application.launch l disk clock ids = .ok a) :
    Remembers l.capacity (l.trail clock) a := by
  obtain ⟨client, hbuild, rfl⟩ := built_of_launch h
  obtain ⟨hchain, hring, hbus⟩ := Client.sifts_of_build hbuild
  have hbegun : Remembers l.capacity [] { clock, ids, client } := by
    refine ⟨rfl, ?_, by split <;> rfl⟩
    rw [List.map_nil, List.rtake_nil]
    exact hring
  have hsubmitted := hbegun.of_crumbless
    ((Crumbless.submit _ .flushEvents).trans (.submit _ .flushSessions))
  have hleft := hsubmitted.addBreadcrumb (.new "Loom loaded" .state Dict.empty clock.now)
  have htrail : (Application.footprint? { clock, ids, client }
      (.new "Loom loaded" .state Dict.empty clock.now)).toList = l.trail clock := by
    simp only [Application.footprint?, hchain, hbus, Launch.trail, CallbackChain.run,
      CallbackChain.add, List.nil_append, List.map_cons, List.map_nil,
      CallbackRun.callAll_singleton, CallbackRun.call, Client.typeFilter, Breadcrumb.new]
    cases l.config.keepsBreadcrumb .state <;> rfl
  rw [List.nil_append] at hleft
  rw [← htrail]
  exact hleft

/-- At every moment of its life. -/
theorem of_trailed {l : Launch} {life : Life} (h : Trailed l life trail) :
    Remembers l.capacity trail life.application := by
  induction h with
  | launched h => exact launch h
  | step before hstep hhook ih => exact ih.step hstep hhook

end Remembers

/-! ## The law -/

/-- What leaves of a report is what its callbacks left, with the breadcrumbs that they left it. -/
theorem Application.left_of_outgoing {a : Application} {alarm : Alarm} {event : Event}
    {extra : Metadata} {lastly : Option (Callback Event)} {r : Outgoing}
    (h : a.outgoing? alarm event extra lastly = some r) :
    r.left = ((a.errorRun event extra).callAll (a.callbacksOf lastly)).subject ∧
      r.event.breadcrumbs = r.left.breadcrumbs := by
  have hcount : ∀ (b : Application) (left : Event) (session : Option Nat),
      (b.countEvent left session).2.breadcrumbs = left.breadcrumbs := by
    intro b left session
    unfold countEvent
    split
    · rfl
    · cases session with
      | none => rfl
      | some number => rfl
  unfold outgoing? at h
  rw [runErrorCallbacks_eq rfl] at h
  split at h
  · cases h
  · simp only [Option.ite_none_right_eq_some] at h
    obtain ⟨_, h⟩ := h
    obtain rfl := Option.some.inj h
    exact ⟨rfl, hcount _ _ _⟩

/-- In a life without hooks the ring holds the end of the trail, oldest first, up to the capacity
of the client. The observers that were registered saw each breadcrumb of the trail once, in order,
or none at all if there is no capacity. A report that leaves begins from an event that carries what
the ring holds when it begins, and its callbacks are called from there. Its own breadcrumb comes
after that: if it passes, it is the latest one in the ring from then on. -/
theorem the_ring_is_the_recent_history {l : Launch} {life : Life} {trail : List Footprint}
    (h : Trailed l life trail) :
    life.application.client.ring.entries = (trail.map (·.crumb)).rtake l.capacity ∧
      life.application.crumbsSeen =
        (if l.capacity = 0 then [] else trail.flatMap Footprint.sightings) ∧
      ∀ event extra lastly r, life.application.outgoing? loud event extra lastly = some r →
        (life.application.errorRun event extra).subject.breadcrumbs =
            life.application.client.ring.entries ∧
          r.left = ((life.application.errorRun event extra).callAll
            (life.application.callbacksOf lastly)).subject ∧
          r.event.breadcrumbs = r.left.breadcrumbs ∧
          (∃ c : Application, life.application.report loud event extra lastly =
            (c.dispatchEvent r.event).leaveErrorBreadcrumb loud r.event) ∧
          (life.application.report loud event extra lastly).client.ring.entries =
            ((trail ++ (life.application.reportFootprint? event extra lastly).toList).map
              (·.crumb)).rtake l.capacity ∧
          ∀ own, life.application.reportFootprint? event extra lastly = some own →
            0 < l.capacity →
            (life.application.report loud event extra lastly).client.ring.entries.getLast? =
              some own.crumb := by
  have hremembers := Remembers.of_trailed h
  refine ⟨by rw [hremembers.ring], hremembers.seen, ?_⟩
  intro event extra lastly r hr
  obtain ⟨hleft, hcarried⟩ := left_of_outgoing hr
  obtain ⟨_, c, _, _, _, hreport⟩ := report_of_outgoing hr
  have hafter := congrArg BreadcrumbRing.entries (hremembers.report event extra lastly).ring
  refine ⟨rfl, hleft, hcarried, ⟨c, hreport⟩, hafter, ?_⟩
  intro own hown hcapacity
  obtain ⟨n, hn⟩ : ∃ n, l.capacity = n + 1 := Nat.exists_eq_add_one.2 hcapacity
  rw [hafter, hown, hn, Option.toList_some, List.map_append, List.map_singleton,
    List.rtake_concat_succ, List.getLast?_concat]

/-- A launch that keeps two breadcrumbs. -/
def shortLaunch : Launch := { config := { plainLaunch.config with maxBreadcrumbs := 2 } }

/-- What it launches on an empty disk. -/
def shortApplication : Application :=
  { plainApplication with
    client := { plainClient with
      config := shortLaunch.config
      onBreadcrumb :=
        (({ name := "on_breadcrumb" } : CallbackChain Breadcrumb).add
          (Client.typeFilter shortLaunch.config)).2
      ring := { capacity := 2 } } }.greet loud

theorem launch_shortLaunch :
    launch shortLaunch {} ⟨0⟩ (fun n => ⟨n⟩) = .ok shortApplication := by
  rfl

/-- A second error carries the breadcrumb of the first, and no longer that of the launch. -/
theorem the_second_error_carries_the_breadcrumb_of_the_first :
    ∃ (life : Life) (trail : List Footprint) (r : Outgoing), Trailed shortLaunch life trail ∧
      life.application.outgoing? loud unhandledFault Metadata.empty none = some r ∧
      trail.map (fun f => f.crumb.name) = ["Loom loaded", "manual", "Fault"] ∧
      life.application.crumbsSeen.map (fun s => (s.1, s.2.name)) =
        [("watch", "manual"), ("watch", "Fault")] ∧
      r.event.breadcrumbs.map (·.name) = ["manual", "Fault"] := by
  have hlaunched := Trailed.launched launch_shortLaunch
  have hwatched := hlaunched.step (.call _ (.registerObserver ⟨"watch", fun _ => none⟩))
    fun heq => by cases heq
  have hleft := hwatched.step (.call _ (.leaveMessage "hello")) fun heq => by cases heq
  have hreported := hleft.step (.call _ reportFault) fun heq => by cases heq
  obtain ⟨hring, hseen, hevents⟩ := the_ring_is_the_recent_history hreported
  obtain ⟨hbegun, hcalled, hcarried, _⟩ := hevents unhandledFault Metadata.empty none _ rfl
  refine ⟨_, _, _, hreported, rfl, rfl, ?_, ?_⟩
  · rw [hseen]
    rfl
  · -- No callback is registered, so that the event leaves as it began.
    rw [hcarried, hcalled]
    exact congrArg (List.map Breadcrumb.name) (hbegun.trans hring)

end CrashReporter
