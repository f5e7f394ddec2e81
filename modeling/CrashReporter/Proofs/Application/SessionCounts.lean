import CrashReporter.Proofs.Application.Life

-- What sessions count. A report that leaves counts for the session that was current when it
-- began, and carries that session with the count that it made; if a callback detached the
-- session, it counts for none and carries none. Nothing else changes a count.

namespace CrashReporter

open Application

/-! ## Reports that leave -/

/-- A report that nothing stopped: the number of the session that events referred to when it
began, the event as the callbacks left it, and the event as it leaves. -/
structure Outgoing where
  session : Option Nat
  left : Event
  event : Event

/-- The report counts for this session, as handled or as unhandled. -/
def Outgoing.countsFor (r : Outgoing) (number : Nat) (unhandled : Bool) : Bool :=
  r.session == some number && r.left.session.isSome && r.left.isUnhandled == unhandled

namespace Application

variable {a : Application} {alarm : Alarm} {event : Event} {extra : Metadata}
  {lastly : Option (Callback Event)} {r : Outgoing}

/-- What leaves of a report, unless its class is ignored, the release stage does not report, or
a callback vetoes it. -/
def outgoing? (a : Application) (alarm : Alarm) (event : Event) (extra : Metadata)
    (lastly : Option (Callback Event)) : Option Outgoing :=
  if event.isIgnored a.client.config.ignoreClasses || !a.client.config.reportsStage then none
  else
    let (b, left, proceed) :=
      a.runErrorCallbacks alarm (a.client.describe a.now event extra) lastly
    if proceed then
      some ⟨a.client.attachedSession?, left, (b.countEvent left a.client.attachedSession?).2⟩
    else none

/-- What leaves of a report is counted and dispatched after the callbacks. -/
theorem report_of_outgoing (h : a.outgoing? alarm event extra lastly = some r) :
    ∃ b c, b = (a.runErrorCallbacks alarm (a.client.describe a.now event extra) lastly).1 ∧
      r.session = a.client.attachedSession? ∧ b.countEvent r.left r.session = (c, r.event) ∧
      a.report alarm event extra lastly =
        (c.dispatchEvent r.event).leaveErrorBreadcrumb alarm r.event := by
  unfold outgoing? at h
  unfold report
  split at h
  · cases h
  · next hpasses =>
    rw [if_neg hpasses]
    generalize a.runErrorCallbacks alarm (a.client.describe a.now event extra) lastly = run at h
    obtain ⟨b, left, proceed⟩ := run
    cases proceed with
    | false => cases h
    | true =>
      obtain rfl := Option.some.inj h
      exact ⟨b, _, rfl, rfl, rfl, rfl⟩

/-- Of a report that is stopped nothing stays but what the callbacks did. -/
theorem report_of_stopped (h : a.outgoing? alarm event extra lastly = none) :
    a.report alarm event extra lastly = a ∨
      a.report alarm event extra lastly =
        (a.runErrorCallbacks alarm (a.client.describe a.now event extra) lastly).1 := by
  unfold outgoing? at h
  unfold report
  split at h
  · next hstopped =>
    rw [if_pos hstopped]
    exact .inl rfl
  · next hpasses =>
    rw [if_neg hpasses]
    generalize a.runErrorCallbacks alarm (a.client.describe a.now event extra) lastly = run at h
    obtain ⟨b, left, proceed⟩ := run
    cases proceed with
    | false => exact .inr rfl
    | true => cases h

/-- Counting touches neither the tasks nor the stores. -/
theorem countEvent_keeps (a : Application) (event : Event) (session : Option Nat) :
    (a.countEvent event session).1.client.queue = a.client.queue ∧
      (a.countEvent event session).1.client.pipeline = a.client.pipeline := by
  unfold countEvent
  split
  · exact ⟨rfl, rfl⟩
  · cases session with
    | none => exact ⟨rfl, rfl⟩
    | some number => exact ⟨rfl, rfl⟩

end Application

/-- Events refer to the current session, if it is not paused and attaches. -/
theorem Client.attachedSession?_eq_some {c : Client} {number : Nat} :
    c.attachedSession? = some number ↔
      c.tracker.current = some number ∧ ∃ s, c.tracker.session? number = some s ∧
        s.paused = false ∧ c.tracker.attaches s = true := by
  unfold attachedSession? SessionTracker.active?
  cases hsession : c.tracker.session? number with
  | none => simp [Option.filter_eq_some_iff, hsession]
  | some s => simp [Option.filter_eq_some_iff, hsession]

/-! ## What changes no count -/

/-- No hook is installed, and the sessions, the tasks and the stores are those of this client. -/
structure Still (c : Client) (a : Application) : Prop where
  hooks : a.hooks = []
  tracker : a.client.tracker = c.tracker
  queue : a.client.queue = c.queue
  pipeline : a.client.pipeline = c.pipeline

theorem steady_still (c : Client) : Steady (Still c) where
  journal := fun _ _ h => ⟨h.hooks, h.tracker, h.queue, h.pipeline⟩
  bus := fun _ _ h => ⟨h.hooks, h.tracker, h.queue, h.pipeline⟩
  ring := fun _ _ h => ⟨h.hooks, h.tracker, h.queue, h.pipeline⟩
  onError := fun _ _ h => ⟨h.hooks, h.tracker, h.queue, h.pipeline⟩
  onBreadcrumb := fun _ _ h => ⟨h.hooks, h.tracker, h.queue, h.pipeline⟩

/-- Without a hook nothing is done with a panic. -/
theorem loud_of_no_hooks {a : Application} (h : a.hooks = []) (panic : Panic) :
    loud panic a = a := by
  unfold loud
  rw [h]
  rfl

theorem Application.alarmed_of_no_hooks {a : Application} (h : a.hooks = []) (reply : Answer) :
    a.alarmed loud reply = a := by
  cases reply with
  | status status => rfl
  | panic panic => exact loud_of_no_hooks h panic

theorem Still.keeps_loud (c : Client) : Alarm.Keeps loud (Still c) := by
  intro panic a h
  rw [loud_of_no_hooks h.hooks]
  exact h

/-- No hook is installed, and the sessions are shown like this. -/
structure Shows (shown : List SessionSnapshot) (a : Application) : Prop where
  hooks : a.hooks = []
  sessions : a.client.tracker.snapshots = shown

namespace Shows

variable {shown : List SessionSnapshot} {a b : Application}

theorem still (h : Shows shown a) : Still a.client a := ⟨h.hooks, rfl, rfl, rfl⟩

theorem of_still (h : Shows shown a) (hb : Still a.client b) : Shows shown b :=
  ⟨hb.hooks, by rw [hb.tracker, h.sessions]⟩

theorem changeTracker (h : Shows shown a) (tracker : SessionTracker) :
    Shows tracker.snapshots (a.changeTracker tracker) := ⟨h.hooks, rfl⟩

theorem submit (h : Shows shown a) (task : Task) : Shows shown (a.submit task) := by
  cases hsubmit : a.client.queue.submit? task with
  | none =>
    rw [submit_of_full hsubmit]
    exact ⟨h.hooks, h.sessions⟩
  | some q =>
    rw [submit_of_room hsubmit]
    exact ⟨h.hooks, h.sessions⟩

theorem dispatchEvent (h : Shows shown a) (event : Event) :
    Shows shown (a.dispatchEvent event) := by
  unfold Application.dispatchEvent
  split
  · have hstored : Shows shown (a.persistEvent event) := ⟨h.hooks, h.sessions⟩
    exact hstored.submit _
  · exact h.submit _

theorem tellAll (h : Shows shown a) (events : List StateEvent) :
    Shows shown (a.tellAll loud events) :=
  h.of_still ((steady_still _).tellAll (Still.keeps_loud _) h.still events)

theorem leaveBreadcrumb (h : Shows shown a) (name : String) (kind : BreadcrumbType)
    (metadata : Dict Json) : Shows shown (a.leaveBreadcrumb loud name kind metadata) :=
  h.of_still ((steady_still _).leaveBreadcrumb (Still.keeps_loud _) h.still name kind metadata)

theorem trackSession (h : Shows shown a) (number : Nat) :
    Shows shown (a.trackSession loud number) := by
  rcases trackSession_cases a loud number with hsame | ⟨session, run, b, tracker, released, _, hb,
    hprepared, hgoes⟩
  · rw [hsame]
    exact h
  · have hcalled : Shows shown (a.changeClient fun c => { c with onSession := run.chain }) :=
      ⟨h.hooks, h.sessions⟩
    have hheeded := hcalled.of_still
      ((steady_still _).heed (Still.keeps_loud _) hcalled.still run.incidents)
    rw [← hb] at hheeded
    have hsnapshots := SessionTracker.snapshots_prepareDelivery (t := b.client.tracker) number run
      b.client.config.reportsStage
    rw [hprepared, hheeded.sessions] at hsnapshots
    have hchanged : Shows shown (b.changeTracker tracker) := ⟨hheeded.hooks, hsnapshots⟩
    rw [hgoes]
    cases released with
    | none => exact hchanged
    | some payload => exact hchanged.submit _

/-- After a step of the tracker the sessions are shown as it left them. -/
theorem followTracker (h : Shows shown a) (step : SessionTracker × List StateEvent)
    (started : Bool) : Shows step.1.snapshots (a.followTracker loud step started) := by
  have htold := (h.changeTracker step.1).tellAll step.2
  unfold Application.followTracker
  simp only
  generalize (a.changeTracker step.1).tellAll loud step.2 = b at htold
  split
  · have hgiven : Shows step.1.snapshots { b with idsGiven := b.idsGiven + 1 } :=
      ⟨htold.hooks, htold.sessions⟩
    exact hgiven.trackSession _
  · exact htold

end Shows

/-! ## Counting -/

/-- The counts are those at the beginning and one more for each of these reports that counts for
the session, up to the largest count there is. -/
def EventCounts.Tally (counts first : EventCounts) (number : Nat) (reports : List Outgoing) :
    Prop :=
  counts.handled.toNat =
      min (first.handled.toNat + reports.countP (·.countsFor number false)) 0xFFFFFFFF ∧
    counts.unhandled.toNat =
      min (first.unhandled.toNat + reports.countP (·.countsFor number true)) 0xFFFFFFFF

namespace EventCounts.Tally

variable {counts first : EventCounts} {number : Nat} {reports : List Outgoing} {r : Outgoing}

theorem none_counts (h : ∀ r ∈ reports, ∀ unhandled, r.countsFor number unhandled = false) :
    first.Tally first number reports := by
  have hzero : ∀ unhandled, reports.countP (·.countsFor number unhandled) = 0 := by
    intro unhandled
    rw [List.countP_eq_zero]
    intro r hr
    rw [h r hr unhandled]
    exact Bool.false_ne_true
  have hhandled := first.handled.toNat_lt
  have hunhandled := first.unhandled.toNat_lt
  unfold Tally
  rw [hzero, hzero]
  omega

/-- A report that counts for another session, or for none. -/
theorem other (h : counts.Tally first number reports)
    (hr : ∀ unhandled, r.countsFor number unhandled = false) :
    counts.Tally first number (reports ++ [r]) := by
  unfold Tally at h ⊢
  simp only [List.countP_append, List.countP_singleton, hr]
  exact h

/-- A report that counts for the session. -/
theorem count (h : counts.Tally first number reports)
    (hr : ∀ unhandled, r.countsFor number unhandled = (r.left.isUnhandled == unhandled)) :
    (counts.count r.left.isUnhandled).Tally first number (reports ++ [r]) := by
  obtain ⟨hhandled, hunhandled⟩ := h
  unfold Tally EventCounts.count
  simp only [List.countP_append, List.countP_singleton, hr]
  cases r.left.isUnhandled with
  | false =>
    refine ⟨?_, hunhandled⟩
    have hup := toNat_countUp counts.handled
    simp only [Bool.false_eq_true, if_false, beq_self_eq_true, if_true] at hup ⊢
    omega
  | true =>
    refine ⟨hhandled, ?_⟩
    have hup := toNat_countUp counts.unhandled
    simp only [beq_self_eq_true, if_true] at hup ⊢
    omega

end EventCounts.Tally

/-! ## What a report does to the sessions -/

/-- The sessions as they are shown before and after a report that leaves. -/
inductive Outgoing.Moves (r : Outgoing) (shown : List SessionSnapshot) :
    List SessionSnapshot → Prop
  /-- It counts for its session and carries it. -/
  | counted {number : Nat} {s : SessionSnapshot} (hsession : r.session = some number)
      (hs : shown[number]? = some s) (hleft : r.left.session.isSome = true)
      (hevent : r.event = { r.left with session := some (s.count r.left.isUnhandled) }) :
      Moves r shown (shown.modify number (·.count r.left.isUnhandled))
  /-- It has no session, or no longer. -/
  | apart (h : r.session = none ∨ r.left.session = none)
      (hevent : r.event = { r.left with session := none }) : Moves r shown shown

namespace Shows

variable {shown : List SessionSnapshot} {a : Application} {event : Event} {extra : Metadata}
  {lastly : Option (Callback Event)} {r : Outgoing}

theorem countEvent (h : Shows shown a) (left : Event) {session : Option Nat}
    (hsession : ∀ number, session = some number → ∃ s, shown[number]? = some s) :
    ∃ after, Outgoing.Moves ⟨session, left, (a.countEvent left session).2⟩ shown after ∧
      Shows after (a.countEvent left session).1 := by
  cases hleft : left.session with
  | none =>
    have hsame : { left with session := none } = left := by rw [← hleft]
    have hcount : a.countEvent left session = (a, { left with session := none }) := by
      unfold Application.countEvent
      rw [hsame, hleft]
      rfl
    rw [hcount]
    exact ⟨shown, .apart (.inr hleft) rfl, h⟩
  | some carried =>
    cases session with
    | none =>
      have hcount : a.countEvent left none = (a, { left with session := none }) := by
        unfold Application.countEvent
        rw [hleft]
        rfl
      rw [hcount]
      exact ⟨shown, .apart (.inl rfl) rfl, h⟩
    | some number =>
      obtain ⟨s, hs⟩ := hsession number rfl
      obtain ⟨hcounted, hsnapshot⟩ := a.client.tracker.snapshots_count number left.isUnhandled
      rw [h.sessions] at hcounted hsnapshot
      rw [List.getElem?_modify_eq, hs] at hsnapshot
      have hcount : a.countEvent left (some number) =
          (a.changeTracker (a.client.tracker.count number left.isUnhandled).1,
            { left with session := some (s.count left.isUnhandled) }) := by
        unfold Application.countEvent
        rw [hleft]
        simp only [hsnapshot]
        rfl
      rw [hcount]
      refine ⟨_, .counted rfl hs (by rw [hleft]; rfl) rfl, ?_⟩
      rw [← hcounted]
      exact h.changeTracker _

/-- A report that leaves counts for the session that events referred to when it began. -/
theorem report (h : Shows shown a) (hr : a.outgoing? loud event extra lastly = some r) :
    ∃ after, r.Moves shown after ∧ Shows after (a.report loud event extra lastly) := by
  obtain ⟨b, c, rfl, hsession, hcount, hreport⟩ := report_of_outgoing hr
  have hrun := h.of_still ((steady_still _).runErrorCallbacks (Still.keeps_loud _) h.still
    (a.client.describe a.now event extra) lastly)
  have hthere : ∀ number, r.session = some number → ∃ s, shown[number]? = some s := by
    intro number hnumber
    rw [hsession] at hnumber
    obtain ⟨_, s, hs, _⟩ := Client.attachedSession?_eq_some.1 hnumber
    refine ⟨s.snapshot, ?_⟩
    rw [← h.sessions, SessionTracker.getElem?_snapshots, hs]
    rfl
  obtain ⟨after, hmoves, hafter⟩ := hrun.countEvent r.left hthere
  rw [hcount] at hmoves hafter
  have hleft := hafter.dispatchEvent r.event
  refine ⟨after, hmoves, ?_⟩
  rw [hreport]
  exact hleft.of_still ((steady_still _).leaveErrorBreadcrumb (Still.keeps_loud _) hleft.still _)

/-- What is stopped leaves the sessions, the tasks and the stores as they are. -/
theorem report_of_stopped (h : Shows shown a)
    (hr : a.outgoing? loud event extra lastly = none) :
    Still a.client (a.report loud event extra lastly) := by
  rcases Application.report_of_stopped hr with hreport | hreport
  · rw [hreport]
    exact h.still
  · rw [hreport]
    exact (steady_still _).runErrorCallbacks (Still.keeps_loud _) h.still _ lastly

end Shows

/-! ## Calls of the host -/

/-- The call reports an error. -/
def HostCall.reports : HostCall → Bool
  | reportError .. | reportUnhandled .. => true
  | _ => false

/-- What leaves of the report that a call makes. -/
def HostCall.outgoing (a : Application) : HostCall → List Outgoing
  | reportError error state lastly =>
    (a.outgoing? loud (.new error state a.now) Metadata.empty lastly).toList
  | reportUnhandled error state extra =>
    (a.outgoing? loud (.new error state a.now) extra none).toList
  | _ => []

/-- The sessions that a call begins, as they are then: one that is taken over has the counts that
it comes with, and any other has none. -/
def HostCall.begun (a : Application) (call : HostCall) : List SessionSnapshot :=
  match call with
  | registerSession session => session.toList
  | _ =>
    ((a.carryOut call).client.tracker.snapshots.drop a.client.tracker.snapshots.length).map
      fun s => { s with events := {} }

/-- The call takes over a session, or there is none from now on. -/
def HostCall.registers : HostCall → Bool
  | registerSession _ => true
  | _ => false

theorem HostCall.begun_of_not_registers {call : HostCall} (h : call.registers = false)
    (a : Application) :
    call.begun a = ((a.carryOut call).client.tracker.snapshots.drop
      a.client.tracker.snapshots.length).map fun s => { s with events := {} } := by
  cases call with
  | registerSession session => cases h
  | _ => rfl

namespace Shows

variable {shown after : List SessionSnapshot} {a : Application} {call : HostCall}

/-- Where there are no more sessions than before, none began. -/
theorem begun_eq_nil (h : Shows shown a) (hafter : Shows after (a.carryOut call))
    (hlength : after.length = shown.length) (hregister : call.registers = false) :
    call.begun a = [] := by
  rw [HostCall.begun_of_not_registers hregister, hafter.sessions, h.sessions, ← hlength,
    List.drop_length, List.map_nil]

/-- The call takes a step of the tracker, from the sessions that are shown. -/
theorem add (h : Shows shown a) {t u : SessionTracker} (ht : t.snapshots = shown)
    (hadds : t.Adds u) (hb : Shows u.snapshots (a.carryOut call))
    (hregister : call.registers = false) : Shows (shown ++ call.begun a) (a.carryOut call) := by
  obtain ⟨new, hnew, huncounted⟩ := hadds
  rw [hnew, ht] at hb
  have hbegun : call.begun a = new := by
    rw [HostCall.begun_of_not_registers hregister, hb.sessions, h.sessions, List.drop_left]
    refine (List.map_congr_left ?_).trans (List.map_id new)
    intro s hs
    exact congrArg (fun events => { s with events }) (huncounted s hs).symm
  rw [hbegun]
  exact hb

theorem add_nothing (h : Shows shown a) (hb : Shows shown (a.carryOut call))
    (hregister : call.registers = false) : Shows (shown ++ call.begun a) (a.carryOut call) :=
  h.add hb.sessions (SessionTracker.adds_of_same rfl) (hb.sessions.symm ▸ hb) hregister

theorem moveActivity (h : Shows shown a) (activity : String) (transition : Transition) :
    ∃ t u : SessionTracker, t.snapshots = shown ∧ t.Adds u ∧
      Shows u.snapshots (a.moveActivity loud activity transition) := by
  have hleft := h.leaveBreadcrumb activity .navigation
    (Dict.empty.insert "ActivityLifecycle" (.str transition.callbackName))
  unfold Application.moveActivity
  simp only
  split
  · exact ⟨_, _, hleft.sessions, SessionTracker.adds_moveActivity activity _ _ _,
      hleft.followTracker (_, _) _⟩
  · exact ⟨_, _, hleft.sessions, SessionTracker.adds_of_same rfl, hleft.sessions.symm ▸ hleft⟩

/-- A call that reports nothing leaves all counts as they are. -/
theorem carryOut (h : Shows shown a) (hhook : call ≠ .installHook)
    (hreport : call.reports = false) : Shows (shown ++ call.begun a) (a.carryOut call) := by
  cases call with
  | startSession =>
    exact h.add h.sessions (SessionTracker.adds_start _ _ false) (h.followTracker _ true) rfl
  | pauseSession =>
    exact h.add h.sessions (SessionTracker.adds_of_same SessionTracker.snapshots_pause)
      (h.followTracker _ false) rfl
  | resumeSession =>
    exact h.add h.sessions (SessionTracker.adds_resume _ _) (h.followTracker (_, _) _) rfl
  | registerSession session =>
    have hregistered := h.followTracker
      (a.client.tracker.register (session.map SessionSnapshot.restored)) false
    rw [SessionTracker.snapshots_register, h.sessions] at hregistered
    exact hregistered
  | moveActivity activity transition =>
    obtain ⟨t, u, ht, hadds, hmoved⟩ := h.moveActivity activity transition
    exact h.add ht hadds hmoved rfl
  | leaveMessage message =>
    exact h.add_nothing
      (h.of_still ((steady_still _).addBreadcrumb (Still.keeps_loud _) h.still _)) rfl
  | leaveBreadcrumb name kind metadata => exact h.add_nothing (h.leaveBreadcrumb _ _ _) rfl
  | reportError error state lastly => cases hreport
  | reportUnhandled error state extra => cases hreport
  | changeConnectivity connected =>
    have hleft := h.leaveBreadcrumb "Connectivity change" .state
      (Dict.empty.insert "hasConnection" (.bool connected))
    refine h.add_nothing ?_ rfl
    unfold Application.carryOut Application.changeConnectivity
    simp only
    split
    · exact hleft.submit _
    · exact hleft
  | addErrorCallback callback => exact h.add_nothing ⟨h.hooks, h.sessions⟩ rfl
  | addBreadcrumbCallback callback => exact h.add_nothing ⟨h.hooks, h.sessions⟩ rfl
  | addSessionCallback callback => exact h.add_nothing ⟨h.hooks, h.sessions⟩ rfl
  | removeErrorCallback id => exact h.add_nothing ⟨h.hooks, h.sessions⟩ rfl
  | removeBreadcrumbCallback id => exact h.add_nothing ⟨h.hooks, h.sessions⟩ rfl
  | removeSessionCallback id => exact h.add_nothing ⟨h.hooks, h.sessions⟩ rfl
  | registerObserver observer => exact h.add_nothing ⟨h.hooks, h.sessions⟩ rfl
  | unregisterObserver id => exact h.add_nothing ⟨h.hooks, h.sessions⟩ rfl
  | subscribe => exact h.add_nothing ⟨h.hooks, h.sessions⟩ rfl
  | collect index => exact h.add_nothing ⟨h.hooks, h.sessions⟩ rfl
  | setUser user => exact h.add_nothing ⟨h.hooks, h.sessions⟩ rfl
  | setContext context => exact h.add_nothing ⟨h.hooks, h.sessions⟩ rfl
  | changeMetadata f => exact h.add_nothing ⟨h.hooks, h.sessions⟩ rfl
  | installHook => exact absurd rfl hhook
  | raise panic =>
    have hraised := Still.keeps_loud a.client panic a h.still
    exact h.add_nothing (h.of_still hraised) rfl
  | close => exact h.add_nothing ⟨h.hooks, h.sessions⟩ rfl

end Shows

/-! ## Whole lives -/

/-- What is kept of a life: the sessions as they were when they began, and the reports that
left, each oldest first. -/
structure Book where
  begun : List SessionSnapshot := []
  reports : List Outgoing := []

namespace Book

/-- What a call adds to the book. -/
def enter (b : Book) (a : Application) (call : HostCall) : Book :=
  { begun := b.begun ++ call.begun a, reports := b.reports ++ call.outgoing a }

/-- Only calls of the host are entered. -/
def follow (b : Book) (a : Application) : Turn → Book
  | .call call => b.enter a call
  | _ => b

end Book

/-- A life from its launch on, without hooks, and the book that is kept of it. -/
inductive Booked : Life → Book → Prop
  | launched {l : Launch} {disk : Disk} {clock : Clock} {ids : Nat → SessionId} {a : Application}
      (h : launch l disk clock ids = .ok a) : Booked { application := a } {}
  | step {life next : Life} {turn : Turn} {b : Book} (before : Booked life b)
      (h : Life.Step life turn next) (hhook : turn ≠ .call .installHook) :
      Booked next (b.follow life.application turn)

/-- The event carries the session with all that was counted for it so far, itself included, or
no session. -/
def Outgoing.Carries (r : Outgoing) (begun : List SessionSnapshot) (soFar : List Outgoing) : Prop :=
  (∀ number, r.session = some number → r.left.session.isSome = true →
    ∃ first counts, begun[number]? = some first ∧ counts.Tally first.events number soFar ∧
      r.event = { r.left with session := some { first with events := counts } }) ∧
    (r.session = none ∨ r.left.session = none → r.event = { r.left with session := none })

/-- The book accounts for the sessions that are shown. -/
structure Book.Balanced (b : Book) (shown : List SessionSnapshot) : Prop where
  length : b.begun.length = shown.length
  sessions : ∀ (number : Nat) (s : SessionSnapshot), shown[number]? = some s →
    ∃ first, b.begun[number]? = some first ∧ s = { first with events := s.events } ∧
      s.events.Tally first.events number b.reports
  reports : ∀ (i : Nat) (r : Outgoing), b.reports[i]? = some r →
    r.Carries b.begun (b.reports.take (i + 1))

namespace Book.Balanced

variable {b : Book} {shown after : List SessionSnapshot} {r : Outgoing}

/-- No report counts for a session that is not there yet. -/
theorem not_countsFor (h : b.Balanced shown) {number : Nat} (hnew : b.begun.length ≤ number)
    (hr : r ∈ b.reports) (unhandled : Bool) : r.countsFor number unhandled = false := by
  cases hcounts : r.countsFor number unhandled with
  | false => rfl
  | true =>
    simp only [Outgoing.countsFor, Bool.and_eq_true, beq_iff_eq] at hcounts
    obtain ⟨⟨hsession, hleft⟩, _⟩ := hcounts
    obtain ⟨i, hi⟩ := List.getElem?_of_mem hr
    obtain ⟨first, _, hfirst, _⟩ := (h.reports i r hi).1 number hsession hleft
    rw [List.getElem?_eq_none hnew] at hfirst
    cases hfirst

/-- Sessions begin. -/
theorem begin (h : b.Balanced shown) (new : List SessionSnapshot) :
    Book.Balanced ⟨b.begun ++ new, b.reports⟩ (shown ++ new) := by
  refine ⟨?_, ?_, ?_⟩
  · simp only [List.length_append, h.length]
  · intro number s hs
    rcases Nat.lt_or_ge number shown.length with hlt | hge
    · rw [List.getElem?_append_left hlt] at hs
      obtain ⟨first, hfirst, hsame, htally⟩ := h.sessions number s hs
      refine ⟨first, ?_, hsame, htally⟩
      rw [List.getElem?_append_left (h.length.symm ▸ hlt)]
      exact hfirst
    · -- No report so far is for a session that begins now, so that its tally is its beginning.
      rw [List.getElem?_append_right hge] at hs
      refine ⟨s, ?_, rfl, .none_counts fun r hr => h.not_countsFor (h.length.symm ▸ hge) hr⟩
      rw [List.getElem?_append_right (h.length.symm ▸ hge), h.length]
      exact hs
  · intro i r hr
    obtain ⟨hcarried, hnone⟩ := h.reports i r hr
    refine ⟨?_, hnone⟩
    intro number hsession hleft
    obtain ⟨first, counts, hfirst, htally, hevent⟩ := hcarried number hsession hleft
    refine ⟨first, counts, ?_, htally, hevent⟩
    rw [List.getElem?_append_left (List.getElem?_eq_some_iff.1 hfirst).1]
    exact hfirst

/-- The reports before the last one carry what they did. -/
theorem carries_append (h : b.Balanced shown) {r : Outgoing}
    (hr : r.Carries b.begun (b.reports ++ [r])) :
    ∀ (i : Nat) (other : Outgoing), (b.reports ++ [r])[i]? = some other →
      other.Carries b.begun ((b.reports ++ [r]).take (i + 1)) := by
  intro i other hother
  rcases Nat.lt_or_ge i b.reports.length with hlt | hge
  · rw [List.getElem?_append_left hlt] at hother
    rw [List.take_append_of_le_length hlt]
    exact h.reports i other hother
  · rw [List.getElem?_append_right hge] at hother
    obtain ⟨hi, rfl⟩ := List.getElem?_eq_some_iff.1 hother
    rw [List.take_of_length_le (by simp only [List.length_append, List.length_singleton]; omega)]
    simpa using hr

/-- A report leaves. -/
theorem report (h : b.Balanced shown) (hr : r.Moves shown after) :
    Book.Balanced ⟨b.begun, b.reports ++ [r]⟩ after := by
  cases hr with
  | @counted number s hsession hs hleft hevent =>
    have hcounts : ∀ other unhandled, r.countsFor other unhandled =
        (number == other && r.left.isUnhandled == unhandled) := by
      intro other unhandled
      simp [Outgoing.countsFor, hsession, hleft]
    obtain ⟨first, hfirst, hsame, htally⟩ := h.sessions number s hs
    have hcounted : s.count r.left.isUnhandled =
        { first with events := s.events.count r.left.isUnhandled } :=
      congrArg (fun t : SessionSnapshot => { t with events := s.events.count r.left.isUnhandled })
        hsame
    have htallied := htally.count fun unhandled => by
      rw [hcounts, beq_self_eq_true, Bool.true_and]
    refine ⟨h.length.trans (List.length_modify _ _ _).symm, ?_, h.carries_append ?_⟩
    · intro other t ht
      by_cases hother : number = other
      · subst hother
        rw [List.getElem?_modify_eq, hs] at ht
        obtain rfl := Option.some.inj ht
        exact ⟨first, hfirst, hcounted, htallied⟩
      · rw [List.getElem?_modify_ne _ _ hother] at ht
        obtain ⟨begun, hbegun, hshown, hkept⟩ := h.sessions other t ht
        refine ⟨begun, hbegun, hshown, hkept.other fun unhandled => ?_⟩
        rw [hcounts, beq_false_of_ne hother, Bool.false_and]
    · refine ⟨?_, ?_⟩
      · intro other hother _
        obtain rfl := Option.some.inj (hsession.symm.trans hother)
        exact ⟨first, _, hfirst, htallied, by rw [hevent, hcounted]⟩
      · rintro (hnone | hnone)
        · rw [hsession] at hnone
          cases hnone
        · rw [hnone] at hleft
          cases hleft
  | apart hapart hevent =>
    have hcounts : ∀ other unhandled, r.countsFor other unhandled = false := by
      intro other unhandled
      rcases hapart with hnone | hnone
      · simp [Outgoing.countsFor, hnone]
      · simp [Outgoing.countsFor, hnone]
    refine ⟨h.length, ?_, h.carries_append ⟨?_, fun _ => hevent⟩⟩
    · intro number s hs
      obtain ⟨first, hfirst, hsame, htally⟩ := h.sessions number s hs
      exact ⟨first, hfirst, hsame, htally.other (hcounts number)⟩
    · intro number hsession hleft
      rcases hapart with hnone | hnone
      · rw [hsession] at hnone
        cases hnone
      · rw [hnone] at hleft
        cases hleft

end Book.Balanced

/-- Whatever the host asks for, the book goes on accounting for the sessions. -/
theorem Shows.enter {a : Application} {b : Book} {shown : List SessionSnapshot} {call : HostCall}
    (h : Shows shown a) (hb : b.Balanced shown) (hhook : call ≠ .installHook) :
    ∃ after, Shows after (a.carryOut call) ∧ (b.enter a call).Balanced after := by
  -- Both calls that report are cases of one report; they begin no session.
  have hreported : ∀ (event : Event) (extra : Metadata) (lastly : Option (Callback Event)),
      a.carryOut call = a.report loud event extra lastly →
      call.outgoing a = (a.outgoing? loud event extra lastly).toList → call.registers = false →
      ∃ after, Shows after (a.carryOut call) ∧ (b.enter a call).Balanced after := by
    intro event extra lastly hcall houtgoing hregister
    unfold Book.enter
    rw [houtgoing]
    cases hr : a.outgoing? loud event extra lastly with
    | none =>
      have hstopped := h.of_still (h.report_of_stopped hr)
      rw [← hcall] at hstopped
      rw [h.begun_eq_nil hstopped rfl hregister, List.append_nil]
      exact ⟨shown, hstopped, (List.append_nil b.reports).symm ▸ hb⟩
    | some r =>
      obtain ⟨after, hmoves, hafter⟩ := h.report hr
      have hbalanced := hb.report hmoves
      rw [← hcall] at hafter
      rw [h.begun_eq_nil hafter (hbalanced.length.symm.trans hb.length) hregister, List.append_nil]
      exact ⟨after, hafter, hbalanced⟩
  cases hreports : call.reports with
  | false =>
    refine ⟨_, h.carryOut hhook hreports, ?_⟩
    have hnone : call.outgoing a = [] := by cases call <;> first | rfl | cases hreports
    unfold Book.enter
    rw [hnone, List.append_nil]
    exact hb.begin _
  | true =>
    cases call with
    | reportError error state lastly => exact hreported _ _ _ rfl rfl rfl
    | reportUnhandled error state extra => exact hreported _ _ _ rfl rfl rfl
    | _ => cases hreports

/-- A call that goes on shows the sessions as its step left them. -/
theorem Shows.goOn {life : Life} {step : Application × Progress} {shown : List SessionSnapshot}
    (h : Shows shown step.1) : Shows shown (life.goOn step).application := by
  rw [Life.application_goOn]
  exact h

/-- What the background does, and what the collector answers, changes no count. -/
theorem Shows.turn {life next : Life} {turn : Turn} {shown : List SessionSnapshot}
    (h : Shows shown life.application) (hstep : Life.Step life turn next)
    (hcall : ∀ call, turn ≠ .call call) : Shows shown next.application := by
  cases hstep with
  | call _ call => exact absurd rfl (hcall call)
  | flush _ kind => exact Shows.goOn ⟨h.hooks, h.sessions⟩
  | receive => exact ⟨h.hooks, h.sessions⟩
  | start => exact ⟨h.hooks, h.sessions⟩
  | begin _ task _ => exact Shows.goOn ⟨h.hooks, h.sessions⟩
  | finish _ index => exact ⟨h.hooks, h.sessions⟩
  | answer a before after sent flight reply =>
    have halarmed := h.of_still ((Still.keeps_loud a.client).alarmed h.still reply)
    rw [answer_eq]
    have htold := halarmed.of_still ((steady_still _).tell (Still.keeps_loud _) halarmed.still
      (Pipeline.report flight reply.outcome))
    exact Shows.goOn ⟨htold.hooks, htold.sessions⟩
  | thread _ name => exact ⟨h.hooks, h.sessions⟩
  | clock _ clock => exact ⟨h.hooks, h.sessions⟩

theorem shows_launch {l : Launch} {disk : Disk} {clock : Clock} {ids : Nat → SessionId}
    {a : Application} (h : launch l disk clock ids = .ok a) : Shows [] a := by
  obtain ⟨client, rfl, hbuilt⟩ := launch_eq_ok h
  have hclient : Shows [] ({ clock, ids, client } : Application) := by
    refine ⟨rfl, ?_⟩
    simp only [hbuilt.tracker]
    rfl
  have hsubmitted := (hclient.submit .flushEvents).submit .flushSessions
  unfold greet
  exact hsubmitted.leaveBreadcrumb _ _ _

theorem balanced_empty : Book.Balanced {} [] := by
  refine ⟨rfl, ?_, ?_⟩
  · intro number s hs
    cases hs
  · intro i r hr
    cases hr

/-- At every moment the book accounts for the sessions. -/
theorem Booked.balanced {life : Life} {b : Book} (h : Booked life b) :
    ∃ shown, Shows shown life.application ∧ b.Balanced shown := by
  induction h with
  | launched h =>
    exact ⟨[], shows_launch h, balanced_empty⟩
  | @step life next turn b before hstep hhook ih =>
    obtain ⟨shown, hshows, hbalanced⟩ := ih
    cases turn with
    | call call =>
      cases hstep
      exact hshows.enter hbalanced fun heq => hhook (heq ▸ rfl)
    | _ =>
      refine ⟨shown, hshows.turn hstep ?_, hbalanced⟩
      intro call heq
      cases heq

/-! ## The law -/

/-- In a life without hooks every session counts, from what it began with, the reports that left
for it with a session, the handled and the unhandled ones apart. Each of these carries it with
the counts up to and with itself, and every other report that left carries no session. A report
is for the session that is current, not paused and attaches when it begins. What leaves of it is
the event that is stored or left to the background, and what is stopped changes neither. -/
theorem sessions_count_the_reports_that_leave {life : Life} {b : Book} (h : Booked life b) :
    (∀ number session, life.application.client.tracker.session? number = some session →
      ∃ first, b.begun[number]? = some first ∧
        session.snapshot = { first with events := session.counts } ∧
        session.counts.Tally first.events number b.reports) ∧
      (∀ (i : Nat) (r : Outgoing), b.reports[i]? = some r →
        r.Carries b.begun (b.reports.take (i + 1))) ∧
      (∀ event extra lastly r, life.application.outgoing? loud event extra lastly = some r →
        (∀ number, r.session = some number ↔
          life.application.client.tracker.current = some number ∧
            ∃ s, life.application.client.tracker.session? number = some s ∧ s.paused = false ∧
              life.application.client.tracker.attaches s = true) ∧
          ∃ c : Application, c.client.queue = life.application.client.queue ∧
            c.client.pipeline = life.application.client.pipeline ∧
            life.application.report loud event extra lastly =
              (c.dispatchEvent r.event).leaveErrorBreadcrumb loud r.event) ∧
      ∀ event extra lastly, life.application.outgoing? loud event extra lastly = none →
        Still life.application.client (life.application.report loud event extra lastly) := by
  obtain ⟨shown, hshows, hbalanced⟩ := h.balanced
  refine ⟨?_, hbalanced.reports, ?_, ?_⟩
  · intro number session hsession
    have hshown : shown[number]? = some session.snapshot := by
      rw [← hshows.sessions, SessionTracker.getElem?_snapshots, hsession]
      rfl
    exact hbalanced.sessions number _ hshown
  · intro event extra lastly r hr
    obtain ⟨b, c, hb, hsession, hcount, hreport⟩ := report_of_outgoing hr
    have hrun := (steady_still _).runErrorCallbacks (Still.keeps_loud _) hshows.still
      (life.application.client.describe life.application.now event extra) lastly
    rw [← hb] at hrun
    have hkept := b.countEvent_keeps r.left r.session
    rw [hcount] at hkept
    refine ⟨?_, c, hkept.1.trans hrun.queue, hkept.2.trans hrun.pipeline, hreport⟩
    intro number
    rw [hsession]
    exact Client.attachedSession?_eq_some
  · intro event extra lastly hr
    exact hshows.report_of_stopped hr

/-- A callback that gives every event a session of its own. -/
def forging : Callback Event :=
  .edit (fun event => { event with session := some ⟨⟨7⟩, ⟨0, 0, 0⟩, none, {}⟩ })
    (.reply fun _ => .proceed)

def reportFault : HostCall :=
  .reportError ⟨"Fault", "A fault.", {}⟩ (.ofReason .handledException) none

/-- An error counts for the session that is current. The next one is reported while that is
paused; it counts for none and carries none, though a callback gave it one. -/
theorem a_session_counts_only_while_it_is_not_paused :
    ∃ (life : Life) (b : Book) (session : Session) (r : Outgoing), Booked life b ∧
      life.application.client.tracker.session? 0 = some session ∧
      b.reports[1]? = some r ∧ r.left.session.isSome = true ∧ r.event.session = none ∧
      session.counts.handled.toNat = 1 ∧ session.counts.unhandled.toNat = 0 := by
  have hlaunched := Booked.launched launch_plainLaunch
  have hstarted := hlaunched.step (.call _ .startSession) fun heq => by cases heq
  have hcounted := hstarted.step (.call _ reportFault) fun heq => by cases heq
  have hpaused := hcounted.step (.call _ .pauseSession) fun heq => by cases heq
  have hforging := hpaused.step (.call _ (.addErrorCallback forging)) fun heq => by cases heq
  have hreported := hforging.step (.call _ reportFault) fun heq => by cases heq
  obtain ⟨hsessions, hcarries, _⟩ := sessions_count_the_reports_that_leave hreported
  obtain ⟨first, hfirst, _, hhandled, hunhandled⟩ := hsessions 0 _ rfl
  obtain rfl := Option.some.inj hfirst
  have hevent := (hcarries 1 _ rfl).2 (.inl rfl)
  exact ⟨_, _, _, _, hreported, rfl, rfl, rfl, congrArg Event.session hevent, hhandled, hunhandled⟩

end CrashReporter
