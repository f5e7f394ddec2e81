import CrashReporter.Proofs.Callback
import CrashReporter.Proofs.SessionTracker.Calls

-- The release of sessions. The mark of a session is set where the session is taken over or
-- released, and nowhere else, so that it says exactly what was done with the session before.

namespace CrashReporter

namespace SessionTracker

variable {t : SessionTracker} {number other : Nat}

/-! ## The mark of a session -/

/-- The session was released, or was delivered elsewhere. -/
def IsTracked (t : SessionTracker) (number : Nat) : Prop :=
  ∃ s, t.session? number = some s ∧ s.tracked = true

/-- What does not mark a session leaves the marks as they are. -/
theorem isTracked_change {f : Session → Session} (h : ∀ s, (f s).tracked = s.tracked) :
    (t.change number f).IsTracked other ↔ t.IsTracked other := by
  unfold IsTracked
  rw [session?_change]
  by_cases hsame : number = other
  · cases t.session? other <;> simp [hsame, h]
  · simp [hsame]

theorem isTracked_adopt (s : Session) :
    (t.adopt s).1.IsTracked number ↔
      t.IsTracked number ∨ number = t.sessions.length ∧ s.tracked = true := by
  unfold IsTracked
  rw [session?_adopt]
  by_cases hlast : number = t.sessions.length
  · subst hlast
    have hnone : t.session? t.sessions.length = none := List.getElem?_eq_none (Nat.le_refl _)
    simp [hnone]
  · simp [hlast]

theorem isTracked_startNew (id : SessionId) (now : Instant) (user : Option User)
    (autoCaptured : Bool) :
    (t.startNew id now user autoCaptured).1.IsTracked number ↔ t.IsTracked number := by
  unfold startNew
  simp [isTracked_adopt, Session.new]

theorem isTracked_pause : t.pause.1.IsTracked number ↔ t.IsTracked number := by
  unfold pause
  cases t.current with
  | none => exact Iff.rfl
  | some current => exact isTracked_change fun _ => rfl

theorem isTracked_resume (id : SessionId) (now : Instant) :
    (t.resume id now).1.IsTracked number ↔ t.IsTracked number := by
  unfold resume
  split
  · exact isTracked_startNew id now _ false
  · split
    · exact isTracked_change fun _ => rfl
    · exact Iff.rfl

/-- A session that is taken over comes with its mark. -/
theorem isTracked_register (session : Option SessionSnapshot) :
    (t.register (session.map SessionSnapshot.restored)).1.IsTracked number ↔
      t.IsTracked number ∨ session.isSome = true ∧ number = t.sessions.length := by
  unfold register
  cases session with
  | none =>
    simp only [Option.isSome_none, Bool.false_eq_true, false_and, or_false]
    exact Iff.rfl
  | some s =>
    simp only [Option.map_some, isTracked_adopt, SessionSnapshot.restored, Session.restored]
    simp

theorem isTracked_count (unhandled : Bool) :
    (t.count number unhandled).1.IsTracked other ↔ t.IsTracked other :=
  isTracked_change fun _ => rfl

theorem isTracked_countActive (unhandled : Bool) :
    (t.countActive unhandled).1.IsTracked number ↔ t.IsTracked number := by
  unfold countActive
  cases t.active? with
  | none => exact Iff.rfl
  | some active => exact isTracked_count unhandled

theorem isTracked_moveActivity (activity : String) (starting : Bool) (now : Instant)
    (id : SessionId) :
    (t.moveActivity activity starting now id).1.IsTracked number ↔ t.IsTracked number := by
  unfold moveActivity
  simp only
  split
  · exact isTracked_startNew id now _ true
  · exact Iff.rfl

/-! ## Releases -/

/-- A release asks for a release stage that reports, for a session that events refer to, and for
one that is not marked. -/
theorem release_eq_true {stageReports : Bool} :
    (t.release number stageReports).2 = true ↔ ∃ s, t.session? number = some s ∧
      stageReports = true ∧ (t.autoTrack = true ∨ s.autoCaptured = false) ∧ s.tracked = false := by
  unfold release attaches
  cases t.session? number with
  | none => simp
  | some s =>
    simp only
    split
    · next h => simpa [and_assoc] using h
    · next h => simpa [and_assoc] using h

/-- It marks the session; a refusal leaves the mark. -/
theorem isTracked_release {stageReports : Bool} :
    (t.release number stageReports).1.IsTracked other ↔
      t.IsTracked other ∨ number = other ∧ (t.release number stageReports).2 = true := by
  unfold release
  cases hs : t.session? number with
  | none => simp
  | some s =>
    simp only
    split
    · unfold IsTracked
      rw [session?_change]
      by_cases hsame : number = other
      · subst hsame
        simp [hs, Session.markTracked]
      · simp [hsame]
    · simp

theorem isTracked_prepareDelivery {run : CallbackRun SessionPayload} {stageReports : Bool} :
    (t.prepareDelivery number run stageReports).1.IsTracked other ↔
      t.IsTracked other ∨
        number = other ∧ (t.prepareDelivery number run stageReports).2.isSome = true := by
  unfold prepareDelivery
  cases run.proceed with
  | false => simp
  | true =>
    simp only [if_true]
    rw [isTracked_release]
    cases (t.release number stageReports).2 with
    | false => simp
    | true => simp

end SessionTracker

namespace Tracking

/-! ## What marks a session -/

/-- The call takes over a session, which gets this number. -/
def Deed.takesOver (deed : Deed) (number : Nat) : Prop :=
  match deed.call with
  | .register session => session.isSome = true ∧ number = deed.before.tracker.sessions.length
  | _ => False

/-- The call offers the session, and it is released. -/
def Deed.releases (deed : Deed) (number : Nat) : Prop :=
  match deed.call with
  | .offer offered _ _ => offered = number ∧ deed.reply.released.isSome = true
  | _ => False

variable {past : List Deed} {d : Tracking} {number : Nat}

theorem isTracked_carryOut (d : Tracking) (call : Call) :
    (d.carryOut call).after.tracker.IsTracked number ↔
      d.tracker.IsTracked number ∨ Deed.takesOver ⟨d, call⟩ number ∨
        Deed.releases ⟨d, call⟩ number := by
  have hneither : ∀ {p q : Prop}, (p ↔ q) → (p ↔ q ∨ False ∨ False) := by
    intro p q hpq
    simpa using hpq
  unfold Deed.takesOver Deed.releases
  cases call with
  | register session =>
    simp only [or_false]
    exact SessionTracker.isTracked_register session
  | offer offered payload stageReports =>
    simp only [false_or]
    exact SessionTracker.isTracked_prepareDelivery
  | startNew id now user autoCaptured =>
    exact hneither (SessionTracker.isTracked_startNew id now user autoCaptured)
  | start id now autoCaptured =>
    exact hneither (SessionTracker.isTracked_startNew id now _ autoCaptured)
  | pause => exact hneither SessionTracker.isTracked_pause
  | resume id now => exact hneither (SessionTracker.isTracked_resume id now)
  | countActive unhandled => exact hneither (SessionTracker.isTracked_countActive unhandled)
  | count counted unhandled => exact hneither (SessionTracker.isTracked_count unhandled)
  | moveActivity activity starting now id =>
    exact hneither (SessionTracker.isTracked_moveActivity activity starting now id)
  | setUser user => exact hneither Iff.rfl
  | addCallback callback => exact hneither Iff.rfl
  | removeCallback id => exact hneither Iff.rfl
  | changeCallback id callback => exact hneither Iff.rfl

/-- A session is marked exactly if it was taken over or released. -/
theorem History.isTracked_iff (h : History past d) :
    d.tracker.IsTracked number ↔
      ∃ deed ∈ past, deed.takesOver number ∨ deed.releases number := by
  induction h with
  | opened =>
    simp [SessionTracker.IsTracked, SessionTracker.session?]
  | @step past d h call ih =>
    rw [isTracked_carryOut, ih]
    simp only [List.mem_append, List.mem_singleton, or_and_right, exists_or, exists_eq_left]

/-! ## The law -/

/-- A session that is offered for delivery goes out exactly if no callback vetoes it, the release
stage reports, it was not started automatically while automatic sessions are off, it was not
taken over, and it never went out before. What goes out is the payload as the callbacks left it.
So a session goes out at most once, and a refusal leaves the chance for later. -/
theorem sessions_are_released_at_most_once (h : History past d) (number : Nat)
    (payload left : SessionPayload) (stageReports : Bool) :
    (d.carryOut (.offer number payload stageReports)).released = some left ↔
      ∃ s, d.tracker.session? number = some s ∧ (d.opening payload).Passes d.registered ∧
        left = ((d.opening payload).afterAll d.registered).subject ∧ stageReports = true ∧
        (d.tracker.autoTrack = true ∨ s.autoCaptured = false) ∧
        (∀ deed ∈ past, ¬ deed.takesOver number) ∧ ∀ deed ∈ past, ¬ deed.releases number := by
  have hmark : ∀ s, d.tracker.session? number = some s →
      (s.tracked = false ↔
        (∀ deed ∈ past, ¬ deed.takesOver number) ∧ ∀ deed ∈ past, ¬ deed.releases number) := by
    intro s hs
    have hmarked : s.tracked = true ↔ d.tracker.IsTracked number := by
      simp [SessionTracker.IsTracked, hs]
    rw [← Bool.not_eq_true, hmarked, h.isTracked_iff]
    simp only [not_exists, not_and, not_or, forall_and]
  have hpasses : (d.callbacks.run payload).proceed = true ↔
      (d.opening payload).Passes d.registered := CallbackRun.proceed_callAll rfl
  show (d.tracker.prepareDelivery number (d.callbacks.run payload) stageReports).2 = some left ↔ _
  rw [SessionTracker.prepareDelivery_eq_some, SessionTracker.release_eq_true]
  constructor
  · rintro ⟨hproceed, hleft, s, hs, hstage, hattaches, huntracked⟩
    have hall := hpasses.1 hproceed
    refine ⟨s, hs, hall, ?_, hstage, hattaches, (hmark s hs).1 huntracked⟩
    rw [← CallbackRun.callAll_of_passes hall]
    exact hleft
  · rintro ⟨s, hs, hall, hleft, hstage, hattaches, hunmarked⟩
    refine ⟨hpasses.2 hall, ?_, s, hs, hstage, hattaches, (hmark s hs).2 hunmarked⟩
    rw [← CallbackRun.callAll_of_passes hall] at hleft
    exact hleft

def barePayload : SessionPayload := ⟨{}, {}, {}, []⟩

/-- A session that starts, and is refused by a callback that goes away again. -/
def refusedOnce : List Call :=
  [.start ⟨1⟩ ⟨0, 0, 0⟩ false, .addCallback (.reply fun _ => .veto), .offer 0 barePayload true,
    .removeCallback ⟨1⟩]

/-- The session goes out with the next offer, and with no other. -/
theorem a_refused_session_goes_out_later_and_once :
    ∃ (past : List Deed) (d next : Tracking), History past d ∧ past.map (·.call) = refusedOnce ∧
      (∀ deed ∈ past, deed.reply.released = none) ∧
      next = (d.carryOut (.offer 0 barePayload true)).after ∧
      (d.carryOut (.offer 0 barePayload true)).released = some barePayload ∧
      (next.carryOut (.offer 0 barePayload true)).released = none := by
  have hrefused := ((((History.opened true 30000 0 { name := "on_session" }).step
    (.start ⟨1⟩ ⟨0, 0, 0⟩ false)).step (.addCallback (.reply fun _ => .veto))).step
    (.offer 0 barePayload true)).step (.removeCallback ⟨1⟩)
  have hreleased := (sessions_are_released_at_most_once hrefused 0 barePayload barePayload
    true).2 ⟨_, rfl, trivial, rfl, rfl, .inl rfl, by simp [Deed.takesOver], by
      simp only [List.nil_append, List.cons_append, List.forall_mem_cons]
      exact ⟨id, id, fun h => Bool.false_ne_true h.2, id, by simp⟩⟩
  refine ⟨_, _, _, hrefused, rfl, ?_, rfl, hreleased, ?_⟩
  · simp only [List.nil_append, List.cons_append, List.forall_mem_cons]
    exact ⟨rfl, rfl, rfl, rfl, by simp⟩
  · rfl

end Tracking

end CrashReporter
