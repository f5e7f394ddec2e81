import CrashReporter.SessionTracker

-- The sessions of a tracker as they are reported. Counting changes one of them, whatever starts
-- or takes over a session adds one at the end, and all else that the tracker does shows in none.

namespace CrashReporter

/-! ## Snapshots -/

/-- The session with one more event. -/
def SessionSnapshot.count (s : SessionSnapshot) (unhandled : Bool) : SessionSnapshot :=
  { s with events := s.events.count unhandled }

/-- A session goes on where its snapshot was taken. -/
def SessionSnapshot.restored (s : SessionSnapshot) : Session :=
  .restored s.id s.startedAt s.user s.events

namespace SessionTracker

variable {t : SessionTracker}

/-! ## Sessions by their numbers -/

theorem session?_change (f : Session → Session) (number other : Nat) :
    (t.change number f).session? other =
      if number = other then (t.session? other).map f else t.session? other := by
  unfold change session?
  rw [List.getElem?_modify]
  by_cases h : number = other
  · simp [h]
  · simp [h]

theorem session?_adopt (s : Session) (number : Nat) :
    (t.adopt s).1.session? number =
      if number = t.sessions.length then some s else t.session? number := by
  unfold adopt session?
  by_cases hlast : number = t.sessions.length
  · rw [if_pos hlast, hlast]
    exact List.getElem?_concat_length
  · rw [if_neg hlast]
    rcases Nat.lt_or_gt_of_ne hlast with hlt | hgt
    · exact List.getElem?_append_left hlt
    · rw [List.getElem?_eq_none (by simp; omega), List.getElem?_eq_none (by omega)]

/-! ## Sessions as they are shown -/

/-- All sessions as they are reported now. -/
def snapshots (t : SessionTracker) : List SessionSnapshot := t.sessions.map Session.snapshot

theorem getElem?_snapshots {number : Nat} :
    t.snapshots[number]? = (t.session? number).map Session.snapshot := List.getElem?_map

theorem snapshots_change {f : Session → Session} {g : SessionSnapshot → SessionSnapshot}
    (h : ∀ s, (f s).snapshot = g s.snapshot) (number : Nat) :
    (t.change number f).snapshots = t.snapshots.modify number g := by
  apply List.ext_getElem?
  intro i
  rw [getElem?_snapshots, session?_change, List.getElem?_modify, getElem?_snapshots]
  by_cases hi : number = i
  · cases t.session? i <;> simp [hi, h]
  · cases t.session? i <;> simp [hi]

/-- What is not reported of a session may change. -/
theorem snapshots_change_of_same (f : Session → Session) (h : ∀ s, (f s).snapshot = s.snapshot)
    (number : Nat) : (t.change number f).snapshots = t.snapshots :=
  (snapshots_change (g := id) h number).trans (List.modify_id _ _)

theorem snapshots_count (number : Nat) (unhandled : Bool) :
    (t.count number unhandled).1.snapshots = t.snapshots.modify number (·.count unhandled) ∧
      (t.count number unhandled).2 =
        (t.snapshots.modify number (·.count unhandled))[number]? := by
  have hcounted : (t.count number unhandled).1.snapshots =
      t.snapshots.modify number (·.count unhandled) := snapshots_change (fun _ => rfl) number
  refine ⟨hcounted, ?_⟩
  rw [← hcounted]
  exact getElem?_snapshots.symm

/-! ## Sessions that begin -/

/-- The sessions that were there are shown as they were, and those that were added have counted
nothing yet. -/
def Adds (t u : SessionTracker) : Prop :=
  ∃ new, u.snapshots = t.snapshots ++ new ∧ ∀ s ∈ new, s.events = {}

variable {u : SessionTracker}

theorem adds_of_same (h : u.snapshots = t.snapshots) : t.Adds u :=
  ⟨[], by rw [h, List.append_nil], fun _ hs => nomatch hs⟩

theorem adds_start (id : SessionId) (now : Instant) (autoCaptured : Bool) :
    t.Adds (t.start id now autoCaptured).1 := by
  refine ⟨[Session.snapshot (.new id now t.sessionUser autoCaptured)], List.map_append, ?_⟩
  intro s hs
  obtain rfl := List.mem_singleton.1 hs
  rfl

/-- A session that is taken over is shown as it comes. -/
theorem snapshots_register (session : Option SessionSnapshot) :
    (t.register (session.map SessionSnapshot.restored)).1.snapshots =
      t.snapshots ++ session.toList := by
  cases session with
  | none => exact (List.append_nil _).symm
  | some s => exact List.map_append

theorem snapshots_pause : t.pause.1.snapshots = t.snapshots := by
  unfold pause
  cases t.current with
  | none => rfl
  | some number => exact snapshots_change_of_same Session.pause (fun _ => rfl) number

theorem adds_resume (id : SessionId) (now : Instant) : t.Adds (t.resume id now).1 := by
  unfold resume
  split
  · exact adds_start id now false
  · next number s _ =>
    split
    · exact adds_of_same (snapshots_change_of_same Session.resume (fun _ => rfl) number)
    · exact adds_of_same rfl

theorem adds_moveActivity (activity : String) (starting : Bool) (now : Instant) (id : SessionId) :
    t.Adds (t.moveActivity activity starting now id).1 := by
  unfold moveActivity
  simp only
  split
  · exact adds_start id now true
  · exact adds_of_same rfl

/-! ## Delivery -/

/-- What goes out is the payload that the callbacks left. -/
theorem prepareDelivery_eq_some {number : Nat} {run : CallbackRun SessionPayload}
    {stageReports : Bool} {left : SessionPayload} :
    (t.prepareDelivery number run stageReports).2 = some left ↔
      run.proceed = true ∧ left = run.subject ∧ (t.release number stageReports).2 = true := by
  unfold prepareDelivery
  cases run.proceed with
  | false => simp
  | true =>
    simp only [if_true, true_and]
    cases (t.release number stageReports).2 with
    | false => simp
    | true => simp [eq_comm (a := left)]

theorem snapshots_prepareDelivery (number : Nat) (run : CallbackRun SessionPayload)
    (stageReports : Bool) :
    (t.prepareDelivery number run stageReports).1.snapshots = t.snapshots := by
  unfold prepareDelivery release
  split
  · cases t.session? number with
    | none => rfl
    | some s =>
      simp only
      split
      · exact snapshots_change_of_same Session.markTracked (fun _ => rfl) number
      · rfl
  · rfl

end SessionTracker

end CrashReporter
