import CrashReporter.Proofs.SessionTracker.Calls

-- The log of what a tracker tells determines its current session. Whoever sees the events in
-- turn knows at each of them which session is the current one, and in between as well, since no
-- session becomes the current one, or ceases to be, without an event.

namespace CrashReporter

/-! ## The view of the log -/

/-- The session that is the current one after an event, to someone who only sees the events. -/
def StateEvent.view (seen : Option SessionId) : StateEvent → Option SessionId
  | .sessionStarted id _ _ => some id
  | .sessionPaused => none
  | _ => seen

/-- The current session to someone who saw these events from the beginning. -/
def viewOf (events : List StateEvent) : Option SessionId := events.foldl StateEvent.view none

theorem viewOf_append (before events : List StateEvent) :
    viewOf (before ++ events) = events.foldl StateEvent.view (viewOf before) := List.foldl_append

namespace SessionTracker

variable {t : SessionTracker} {told : List StateEvent}

/-! ## The active session -/

theorem activeSession?_eq (t : SessionTracker) :
    t.activeSession? = (t.current.bind t.session?).filter fun s => !s.paused := by
  unfold activeSession? active?
  cases t.current with
  | none => rfl
  | some number =>
    cases hs : t.session? number with
    | none => simp [hs]
    | some s =>
      simp only [Option.bind_some, Option.filter_some, hs, Option.any_some]
      split
      · exact hs
      · rfl

def activeId (t : SessionTracker) : Option SessionId := t.activeSession?.map Session.id

/-- A change that leaves who a session is, and whether it is paused. -/
theorem activeId_change (f : Session → Session) (hid : ∀ s, (f s).id = s.id)
    (hpaused : ∀ s, (f s).paused = s.paused) (number : Nat) :
    (t.change number f).activeId = t.activeId := by
  unfold activeId
  rw [activeSession?_eq, activeSession?_eq]
  show Option.map _ ((t.current.bind (t.change number f).session?).filter _) = _
  cases t.current with
  | none => rfl
  | some current =>
    simp only [Option.bind_some, session?_change]
    by_cases hsame : number = current
    · rw [if_pos hsame]
      cases t.session? current with
      | none => rfl
      | some s =>
        simp only [Option.map_some, Option.filter_some, hpaused]
        split
        · exact congrArg some (hid s)
        · rfl
    · rw [if_neg hsame]

theorem activeSession?_adopt {s : Session} (h : s.paused = false) :
    (t.adopt s).1.activeSession? = some s := by
  rw [activeSession?_eq]
  show Option.filter _ ((t.adopt s).1.session? t.sessions.length) = _
  rw [session?_adopt, if_pos rfl]
  simp [h]

/-! ## What a step tells -/

/-- Whoever knew the active session before a step, and sees the events that it tells, knows it
after every one of them and after the step. The events of sessions tell how they are then. -/
structure Mirrors (t : SessionTracker) (known : Option SessionId) (told : List StateEvent) :
    Prop where
  after : told.foldl StateEvent.view known = t.activeId
  each : ∀ seen, seen <+: told → seen ≠ [] → seen.foldl StateEvent.view known = t.activeId
  started : ∀ id startedAt counts, .sessionStarted id startedAt counts ∈ told →
    ∃ s, t.activeSession? = some s ∧ s.id = id ∧ s.startedAt = startedAt ∧ s.counts = counts

variable {known : Option SessionId}

theorem mirrors_nothing (h : known = t.activeId) : t.Mirrors known [] := by
  refine ⟨h, ?_, ?_⟩
  · intro seen hseen hne
    exact absurd (List.prefix_nil.1 hseen) hne
  · intro id startedAt counts hmem
    cases hmem

/-- The only event, after which the view is right. -/
theorem mirrors_one {event : StateEvent} (hview : event.view known = t.activeId)
    (hstarted : ∀ id startedAt counts, .sessionStarted id startedAt counts = event →
      ∃ s, t.activeSession? = some s ∧ s.id = id ∧ s.startedAt = startedAt ∧ s.counts = counts) :
    t.Mirrors known [event] := by
  refine ⟨hview, ?_, ?_⟩
  · intro seen hseen hne
    rcases List.prefix_cons_iff.1 hseen with rfl | ⟨rest, rfl, hrest⟩
    · exact absurd rfl hne
    · rw [List.prefix_nil.1 hrest]
      exact hview
  · intro id startedAt counts hmem
    exact hstarted id startedAt counts (List.mem_singleton.1 hmem)

theorem mirrors_ofSession {s : Session} (h : t.activeSession? = some s) :
    t.Mirrors known [.ofSession s] := by
  apply mirrors_one
  · simp [StateEvent.ofSession, StateEvent.view, activeId, h]
  · intro id startedAt counts heq
    cases heq
    exact ⟨s, h, rfl, rfl, rfl⟩

theorem mirrors_paused (h : t.activeSession? = none) : t.Mirrors known [.sessionPaused] := by
  apply mirrors_one
  · simp [StateEvent.view, activeId, h]
  · intro id startedAt counts heq
    cases heq

/-- One more event, which tells of the foreground. -/
theorem Mirrors.move (h : t.Mirrors known told) (inForeground : Bool) (activity : Option String) :
    t.Mirrors known (told ++ [.foregroundChanged inForeground activity]) := by
  have hafter : List.foldl StateEvent.view known
      (told ++ [.foregroundChanged inForeground activity]) = t.activeId := by
    rw [List.foldl_append, h.after]
    rfl
  refine ⟨hafter, ?_, ?_⟩
  · intro seen hseen hne
    rcases List.prefix_concat_iff.1 hseen with rfl | hbefore
    · exact hafter
    · exact h.each seen hbefore hne
  · intro id startedAt counts hmem
    rcases List.mem_append.1 hmem with hbefore | hlast
    · exact h.started id startedAt counts hbefore
    · cases List.mem_singleton.1 hlast

/-! ## Steps -/

theorem mirrors_startNew (id : SessionId) (now : Instant) (user : Option User)
    (autoCaptured : Bool) :
    (t.startNew id now user autoCaptured).1.Mirrors known
      (t.startNew id now user autoCaptured).2 :=
  mirrors_ofSession (activeSession?_adopt rfl)

theorem mirrors_pause : t.pause.1.Mirrors t.activeId t.pause.2 := by
  unfold pause
  cases hcurrent : t.current with
  | none => exact mirrors_nothing rfl
  | some number =>
    apply mirrors_paused
    rw [activeSession?_eq]
    show Option.filter _ (t.current.bind (t.change number Session.pause).session?) = none
    rw [hcurrent, Option.bind_some, session?_change, if_pos rfl]
    cases t.session? number <;> rfl

theorem mirrors_resume (id : SessionId) (now : Instant) :
    (t.resume id now).1.Mirrors t.activeId (t.resume id now).2.1 := by
  unfold resume
  split
  · exact mirrors_startNew id now t.sessionUser false
  · next number s hsome =>
    have hthere : t.current = some number ∧ t.session? number = some s := by
      simpa [Option.bind_eq_some_iff] using hsome
    split
    · apply mirrors_ofSession
      rw [activeSession?_eq]
      show Option.filter _ (t.current.bind (t.change number Session.resume).session?) = _
      rw [hthere.1, Option.bind_some, session?_change, if_pos rfl, hthere.2]
      rfl
    · exact mirrors_nothing rfl

theorem mirrors_register (session : Option SessionSnapshot) :
    (t.register (session.map SessionSnapshot.restored)).1.Mirrors known
      (t.register (session.map SessionSnapshot.restored)).2 := by
  cases session with
  | none => exact mirrors_paused rfl
  | some s => exact mirrors_ofSession (activeSession?_adopt rfl)

theorem mirrors_moveActivity (activity : String) (starting : Bool) (now : Instant)
    (id : SessionId) :
    (t.moveActivity activity starting now id).1.Mirrors t.activeId
      (t.moveActivity activity starting now id).2.1 := by
  unfold moveActivity
  simp only
  split
  · exact (mirrors_startNew id now _ true).move _ _
  · have hnothing : ∀ foreground, Mirrors { t with foreground } t.activeId [] :=
      fun foreground => mirrors_nothing rfl
    exact (hnothing _).move _ _

theorem activeId_count (number : Nat) (unhandled : Bool) :
    (t.count number unhandled).1.activeId = t.activeId :=
  activeId_change (fun s => s.count unhandled) (fun _ => rfl) (fun _ => rfl) number

theorem activeId_countActive (unhandled : Bool) :
    (t.countActive unhandled).1.activeId = t.activeId := by
  unfold countActive
  cases t.active? with
  | none => rfl
  | some number => exact activeId_count number unhandled

theorem activeId_prepareDelivery (number : Nat) (run : CallbackRun SessionPayload)
    (stageReports : Bool) :
    (t.prepareDelivery number run stageReports).1.activeId = t.activeId := by
  unfold prepareDelivery release
  split
  · cases t.session? number with
    | none => rfl
    | some s =>
      simp only
      split
      · exact activeId_change Session.markTracked (fun _ => rfl) (fun _ => rfl) number
      · rfl
  · rfl

end SessionTracker

namespace Tracking

variable {past : List Deed} {d : Tracking}

theorem mirrors_carryOut (d : Tracking) (call : Call) :
    (d.carryOut call).after.tracker.Mirrors d.tracker.activeId (d.carryOut call).told := by
  cases call with
  | startNew id now user autoCaptured =>
    exact SessionTracker.mirrors_startNew id now user autoCaptured
  | start id now autoCaptured => exact SessionTracker.mirrors_startNew id now _ autoCaptured
  | pause => exact SessionTracker.mirrors_pause
  | resume id now => exact SessionTracker.mirrors_resume id now
  | register session => exact SessionTracker.mirrors_register session
  | moveActivity activity starting now id =>
    exact SessionTracker.mirrors_moveActivity activity starting now id
  | countActive unhandled =>
    exact SessionTracker.mirrors_nothing (SessionTracker.activeId_countActive unhandled).symm
  | count number unhandled =>
    exact SessionTracker.mirrors_nothing (SessionTracker.activeId_count number unhandled).symm
  | offer number payload stageReports =>
    exact SessionTracker.mirrors_nothing
      (SessionTracker.activeId_prepareDelivery number _ stageReports).symm
  | setUser user => exact SessionTracker.mirrors_nothing rfl
  | addCallback callback => exact SessionTracker.mirrors_nothing rfl
  | removeCallback id => exact SessionTracker.mirrors_nothing rfl
  | changeCallback id callback => exact SessionTracker.mirrors_nothing rfl

/-- All that was told, oldest first. -/
def log (past : List Deed) : List StateEvent := past.flatMap fun deed => deed.reply.told

/-- Between the calls the view of the log is right. -/
theorem History.viewOf_log (h : History past d) : viewOf (log past) = d.tracker.activeId := by
  induction h with
  | opened => rfl
  | @step past d h call ih =>
    have hlog : log (past ++ [⟨d, call⟩]) = log past ++ (d.carryOut call).told := by
      simp [log, Deed.reply]
    rw [hlog, viewOf_append, ih]
    exact (mirrors_carryOut d call).after

/-! ## The law -/

/-- The log determines the current session. Between the calls, and within a call as soon as it
told something, whoever saw all events knows whether there is an active session and which it is;
and an event that a session started tells when it started and what it has counted then. -/
theorem the_log_determines_the_current_session (h : History past d) :
    viewOf (log past) = d.tracker.activeSession?.map Session.id ∧
      ∀ (call : Call) (reply : Reply), reply = d.carryOut call →
        (∀ seen, seen <+: reply.told → seen ≠ [] →
          viewOf (log past ++ seen) = reply.after.tracker.activeSession?.map Session.id) ∧
        ∀ id startedAt counts, .sessionStarted id startedAt counts ∈ reply.told →
          ∃ s, reply.after.tracker.activeSession? = some s ∧ s.id = id ∧
            s.startedAt = startedAt ∧ s.counts = counts := by
  refine ⟨h.viewOf_log, ?_⟩
  rintro call reply rfl
  have hmirrors := mirrors_carryOut d call
  refine ⟨?_, hmirrors.started⟩
  intro seen hseen hne
  rw [viewOf_append, h.viewOf_log]
  exact hmirrors.each seen hseen hne

/-- A session that counted an event and was paused is not to be seen. Resumed, it is seen again,
and told of with its count. -/
theorem a_resumed_session_is_seen_with_its_counts :
    ∃ (past : List Deed) (d : Tracking) (startedAt : Instant) (s : Session), History past d ∧
      viewOf (log past) = none ∧
      (d.carryOut (.resume ⟨2⟩ ⟨0, 0, 0⟩)).told = [.sessionStarted ⟨1⟩ startedAt ⟨1, 0⟩] ∧
      viewOf (log past ++ [.sessionStarted ⟨1⟩ startedAt ⟨1, 0⟩]) = some ⟨1⟩ ∧
      (d.carryOut (.resume ⟨2⟩ ⟨0, 0, 0⟩)).after.tracker.activeSession? = some s ∧
      s.counts = ⟨1, 0⟩ := by
  have hpaused := (((History.opened true 30000 0 { name := "on_session" }).step
    (.start ⟨1⟩ ⟨0, 0, 0⟩ false)).step (.count 0 false)).step .pause
  obtain ⟨hview, hreply⟩ := the_log_determines_the_current_session hpaused
  obtain ⟨heach, hstarted⟩ := hreply (.resume ⟨2⟩ ⟨0, 0, 0⟩) _ rfl
  obtain ⟨s, hs, _, _, hcounts⟩ := hstarted ⟨1⟩ ⟨0, 0, 0⟩ ⟨1, 0⟩ List.mem_cons_self
  have hseen := heach _ (List.prefix_refl _) (List.cons_ne_nil _ _)
  exact ⟨_, _, _, s, hpaused, hview, rfl, hseen, hs, hcounts⟩

end Tracking

end CrashReporter
