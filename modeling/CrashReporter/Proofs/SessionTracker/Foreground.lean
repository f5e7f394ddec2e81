import CrashReporter.Proofs.SessionTracker.View
import Mathlib.Data.List.Basic

-- Sessions that begin by themselves. Whether coming to the foreground starts one depends on how
-- long the app was away. The tracker keeps one time for that, and in the background each stop
-- sets it, also the stop of an activity that was not there: then the app counts as left again.

namespace CrashReporter

/-! ## Moves -/

/-- An activity comes to the foreground or leaves it. A session that this starts gets the id. -/
structure Move where
  activity : String
  starting : Bool
  now : Instant
  id : SessionId

/-- The foreground after one more move. -/
def Foreground.move (f : Foreground) (m : Move) : Foreground :=
  if m.starting then f.start m.activity m.now else f.stop m.activity m.now

/-- The activities in the foreground after some moves, the earliest first. -/
def present (past : List Move) : List String :=
  past.foldl (fun there m => if m.starting then there ++ [m.activity] else there.erase m.activity)
    []

theorem present_concat (past : List Move) (m : Move) :
    present (past ++ [m]) =
      if m.starting then present past ++ [m.activity] else (present past).erase m.activity := by
  simp [present]

/-- Stops leave nothing where nothing is. -/
theorem present_stops {past stops : List Move} (hnothing : present past = [])
    (hstops : ∀ m ∈ stops, m.starting = false) : present (past ++ stops) = [] := by
  induction stops generalizing past with
  | nil => simpa using hnothing
  | cons m rest ih =>
    have hfirst : present (past ++ [m]) = [] := by
      rw [present_concat, hstops m List.mem_cons_self, hnothing]
      rfl
    have hrest := ih hfirst fun other hother => hstops other (List.mem_cons_of_mem _ hother)
    simpa using hrest

/-! ## The tracker -/

namespace SessionTracker

variable {t : SessionTracker}

@[simp] theorem foreground_pause : t.pause.1.foreground = t.foreground := by
  unfold pause
  cases t.current <;> rfl

@[simp] theorem foreground_resume (id : SessionId) (now : Instant) :
    (t.resume id now).1.foreground = t.foreground := by
  unfold resume
  split
  · rfl
  · split <;> rfl

@[simp] theorem foreground_register (session : Option Session) :
    (t.register session).1.foreground = t.foreground := by
  cases session <;> rfl

@[simp] theorem foreground_countActive (unhandled : Bool) :
    (t.countActive unhandled).1.foreground = t.foreground := by
  unfold countActive
  cases t.active? <;> rfl

@[simp] theorem foreground_prepareDelivery (number : Nat) (run : CallbackRun SessionPayload)
    (stageReports : Bool) :
    (t.prepareDelivery number run stageReports).1.foreground = t.foreground := by
  unfold prepareDelivery release
  split
  · cases t.session? number with
    | none => rfl
    | some s =>
      simp only
      split <;> rfl
  · rfl

/-- The tracker after a move, what it tells, and whether it started a session. -/
def move (t : SessionTracker) (m : Move) : SessionTracker × List StateEvent × Bool :=
  t.moveActivity m.activity m.starting m.now m.id

theorem foreground_move (m : Move) : (t.move m).1.foreground = t.foreground.move m := by
  unfold move moveActivity
  simp only
  split <;> rfl

/-- A session starts where something comes to the foreground and nothing was there, if the app
was away for long enough. -/
theorem move_starts_iff (hauto : t.autoTrack = true) (m : Move) :
    (t.move m).2.2 = true ↔ m.starting = true ∧ t.foreground.activities = [] ∧
      ∀ exited, t.foreground.exited = some exited → t.awayLimit ≤ m.now.elapsed exited := by
  have haway : t.foreground.wasAway m.now t.awayLimit = true ↔
      ∀ exited, t.foreground.exited = some exited → t.awayLimit ≤ m.now.elapsed exited := by
    unfold Foreground.wasAway
    cases t.foreground.exited <;> simp
  have hactive : t.foreground.isActive = false ↔ t.foreground.activities = [] := by
    simp [Foreground.isActive]
  rw [← haway, ← hactive]
  unfold move moveActivity
  simp only [hauto, Bool.and_true]
  split
  · next hdue => simpa [and_assoc] using hdue
  · next hnot => simpa [and_assoc] using hnot

/-- The session that a move starts. -/
def comingSession (t : SessionTracker) (m : Move) : Session := .new m.id m.now t.sessionUser true

/-- A session that a move starts becomes the current one; otherwise the sessions stay as they
are. -/
theorem sessions_move (m : Move) :
    (t.move m).1.sessions =
        (if (t.move m).2.2 = true then t.sessions ++ [t.comingSession m] else t.sessions) ∧
      (t.move m).1.current =
        if (t.move m).2.2 = true then some t.sessions.length else t.current := by
  unfold move moveActivity
  simp only
  split <;> exact ⟨rfl, rfl⟩

end SessionTracker

namespace Tracking

/-! ## Histories -/

def Call.move? : Call → Option Move
  | .moveActivity activity starting now id => some ⟨activity, starting, now, id⟩
  | _ => none

/-- Only moves touch the foreground. -/
theorem foreground_carryOut (d : Tracking) (call : Call) :
    (d.carryOut call).after.tracker.foreground =
      call.move?.elim d.tracker.foreground d.tracker.foreground.move := by
  cases call with
  | moveActivity activity starting now id =>
    exact SessionTracker.foreground_move ⟨activity, starting, now, id⟩
  | pause => exact SessionTracker.foreground_pause
  | resume id now => exact SessionTracker.foreground_resume id now
  | register session => exact SessionTracker.foreground_register _
  | countActive unhandled => exact SessionTracker.foreground_countActive unhandled
  | offer number payload stageReports =>
    exact SessionTracker.foreground_prepareDelivery number _ stageReports
  | _ => rfl

/-- The moves of a tracker since it was new, with whatever else was asked of it in between. -/
inductive Moved : List Move → Tracking → Prop
  | opened {d : Tracking} (hnew : d.tracker.foreground = {}) : Moved [] d
  | step {past : List Move} {d : Tracking} (h : Moved past d) (call : Call) :
      Moved (past ++ call.move?.toList) (d.carryOut call).after

variable {past : List Move} {d : Tracking}

theorem Moved.move (h : Moved past d) (m : Move) :
    Moved (past ++ [m]) { d with tracker := (d.tracker.move m).1 } :=
  h.step (.moveActivity m.activity m.starting m.now m.id)

/-- While nothing is in the foreground, the time that the tracker keeps is that of the last
move. -/
theorem Moved.foreground (h : Moved past d) :
    d.tracker.foreground.activities = present past ∧
      (present past = [] → d.tracker.foreground.exited = past.getLast?.map Move.now) := by
  induction h with
  | opened hnew => exact ⟨by rw [hnew]; rfl, fun _ => by rw [hnew]; rfl⟩
  | @step past d _ call ih =>
    rw [foreground_carryOut]
    cases hmove : call.move? with
    | none => simpa using ih
    | some m =>
      obtain ⟨hthere, -⟩ := ih
      simp only [Option.toList_some, Option.elim_some, present_concat, List.getLast?_concat,
        Option.map_some, Foreground.move]
      cases hstarting : m.starting with
      | true => simp [Foreground.start, hthere]
      | false =>
        refine ⟨by simp [Foreground.stop, hthere], fun hnothing => ?_⟩
        simp only [Bool.false_eq_true, if_false] at hnothing ⊢
        simp [Foreground.stop, hthere, hnothing]

/-! ## Away -/

/-- With this move the last activity left the foreground, and none came back since. -/
def LastLeft (past : List Move) (exit : Move) : Prop :=
  ∃ earlier stops, past = earlier ++ exit :: stops ∧ present earlier ≠ [] ∧
    present (earlier ++ [exit]) = [] ∧ ∀ m ∈ stops, m.starting = false

/-- A session should start now: something comes to the foreground, nothing was there, and nothing
ever was, or the app was left so long ago. -/
def Due (limit : Nat) (past : List Move) (m : Move) : Prop :=
  m.starting = true ∧ present past = [] ∧
    ((∀ other ∈ past, other.starting = false) ∨
      ∃ exit, LastLeft past exit ∧ limit ≤ m.now.elapsed exit.now)

/-- The last move was no stop that came while nothing was in the foreground. -/
def Undisturbed (past : List Move) : Prop :=
  ∀ earlier m, past = earlier ++ [m] → m.starting = false → present earlier ≠ []

/-- Undisturbed, the app was never used or was left with the last move. -/
theorem due_iff {limit : Nat} {m : Move} (hcalm : Undisturbed past) :
    Due limit past m ↔ m.starting = true ∧ present past = [] ∧
      ∀ last, past.getLast? = some last → limit ≤ m.now.elapsed last.now := by
  refine and_congr_right fun _ => and_congr_right fun hnothing => ?_
  rcases List.eq_nil_or_concat' past with rfl | ⟨earlier, last, rfl⟩
  · simp
  · have hstop : last.starting = false := by
      refine Bool.eq_false_iff.2 fun hstarts => ?_
      rw [present_concat, if_pos hstarts] at hnothing
      exact List.append_ne_nil_of_right_ne_nil _ (List.cons_ne_nil _ _) hnothing
    have hthere := hcalm earlier last rfl hstop
    simp only [List.getLast?_concat, Option.some.injEq, forall_eq']
    constructor
    · rintro (hnever | ⟨exit, ⟨before, stops, hsplit, -, hleft, hstops⟩, haway⟩)
      · have hnone := @present_stops [] earlier rfl fun other hother =>
          hnever other (List.mem_append_left _ hother)
        exact absurd hnone hthere
      · rcases List.eq_nil_or_concat' stops with rfl | ⟨between, other, rfl⟩
        · obtain ⟨-, hlast⟩ := List.append_inj' hsplit rfl
          obtain rfl := List.singleton_inj.1 hlast
          exact haway
        · have hsplit' : earlier ++ [last] = (before ++ [exit] ++ between) ++ [other] := by
            simpa using hsplit
          obtain ⟨rfl, -⟩ := List.append_inj' hsplit' rfl
          have hnone := present_stops hleft fun m hm => hstops m (List.mem_append_left _ hm)
          exact absurd hnone hthere
    · intro haway
      exact .inr ⟨last, ⟨earlier, [], rfl, hthere, hnothing, fun _ hm => nomatch hm⟩, haway⟩

/-! ## The law -/

/-- Sessions start by the time in the background. While automatic sessions are on, a move starts a
session if and only if something comes to the foreground, nothing is there, and the last move, if
there was one, is at least so long ago. As long as no stop comes in while nothing is in the
foreground, this is the time since the last activity left, or nothing was ever there. The session
begins at the time of the move and takes the place of the current one; a move that starts none
leaves the sessions as they are. -/
theorem sessions_start_by_the_time_in_the_background (h : Moved past d)
    (hauto : d.tracker.autoTrack = true) (m : Move) :
    ((d.tracker.move m).2.2 = true ↔ m.starting = true ∧ present past = [] ∧
      ∀ last, past.getLast? = some last → d.tracker.awayLimit ≤ m.now.elapsed last.now) ∧
    (Undisturbed past → ((d.tracker.move m).2.2 = true ↔ Due d.tracker.awayLimit past m)) ∧
    ((d.tracker.move m).2.2 = true →
      (d.tracker.move m).1.sessions = d.tracker.sessions ++ [d.tracker.comingSession m] ∧
      (d.tracker.move m).1.activeSession? = some (d.tracker.comingSession m) ∧
      (d.tracker.comingSession m).startedAt = m.now ∧
      (d.tracker.comingSession m).autoCaptured = true) ∧
    ((d.tracker.move m).2.2 = false → (d.tracker.move m).1.sessions = d.tracker.sessions ∧
      (d.tracker.move m).1.current = d.tracker.current) := by
  obtain ⟨hthere, hkept⟩ := h.foreground
  have hstarts : (d.tracker.move m).2.2 = true ↔ m.starting = true ∧ present past = [] ∧
      ∀ last, past.getLast? = some last → d.tracker.awayLimit ≤ m.now.elapsed last.now := by
    rw [SessionTracker.move_starts_iff hauto, hthere]
    refine and_congr_right fun _ => and_congr_right fun hnothing => ?_
    simp [hkept hnothing]
  obtain ⟨hsessions, hcurrent⟩ := d.tracker.sessions_move m
  refine ⟨hstarts, fun hcalm => hstarts.trans (due_iff hcalm).symm, ?_, ?_⟩
  · intro hstarted
    rw [if_pos hstarted] at hsessions hcurrent
    refine ⟨hsessions, ?_, rfl, rfl⟩
    rw [SessionTracker.activeSession?_eq, hcurrent, Option.bind_some, SessionTracker.session?,
      hsessions, List.getElem?_concat_length]
    rfl
  · intro hnot
    rw [if_neg (Bool.eq_false_iff.1 hnot)] at hsessions hcurrent
    exact ⟨hsessions, hcurrent⟩

/-- A tracker that is new, with half a minute until a session ends. -/
def newTracking : Tracking := ⟨{}, { name := "on_session" }⟩

/-- A move so many seconds after 1970. -/
def moveAt (activity : String) (starting : Bool) (second : Nat) : Move :=
  ⟨activity, starting, ⟨0, second, 0⟩, ⟨BitVec.ofNat 128 second⟩⟩

/-- Half a minute after the only activity left, it starts a session. -/
theorem a_session_starts_after_half_a_minute :
    ∃ past d, Moved past d ∧ past = [moveAt "A" true 0, moveAt "A" false 1] ∧
      Undisturbed past ∧ Due d.tracker.awayLimit past (moveAt "A" true 31) ∧
      (d.tracker.move (moveAt "A" true 31)).1.activeSession? =
        some (d.tracker.comingSession (moveAt "A" true 31)) := by
  have hopened : Moved [] newTracking := .opened rfl
  have hleft := (hopened.move (moveAt "A" true 0)).move (moveAt "A" false 1)
  have hcalm : Undisturbed [moveAt "A" true 0, moveAt "A" false 1] := by
    intro earlier m hsplit _
    have hlast : [moveAt "A" true 0] ++ [moveAt "A" false 1] = earlier ++ [m] := hsplit
    obtain ⟨rfl, -⟩ := List.append_inj' hlast rfl
    exact List.cons_ne_nil _ _
  obtain ⟨hstarts, hdue, hsession, -⟩ :=
    sessions_start_by_the_time_in_the_background hleft rfl (moveAt "A" true 31)
  have hstarted := hstarts.2 ⟨rfl, rfl, fun last hlast => by
    obtain rfl := Option.some.inj hlast
    decide⟩
  exact ⟨_, _, hleft, rfl, hcalm, (hdue hcalm).1 hstarted, (hsession hstarted).2.1⟩

/-- The only activity left forty seconds ago, but in between another one stopped that was not
there. No session starts, although one is due. -/
theorem a_stop_in_the_background_puts_the_next_session_off :
    ∃ past d, Moved past d ∧
      past = [moveAt "A" true 0, moveAt "A" false 1, moveAt "B" false 21] ∧
      d.tracker.autoTrack = true ∧ Due d.tracker.awayLimit past (moveAt "A" true 41) ∧
      (d.tracker.move (moveAt "A" true 41)).2.2 = false := by
  have hopened : Moved [] newTracking := .opened rfl
  have hmoved := ((hopened.move (moveAt "A" true 0)).move (moveAt "A" false 1)).move
    (moveAt "B" false 21)
  refine ⟨_, _, hmoved, rfl, rfl, ⟨rfl, rfl, .inr ⟨moveAt "A" false 1, ?_, by decide⟩⟩, rfl⟩
  refine ⟨[moveAt "A" true 0], [moveAt "B" false 21], rfl, List.cons_ne_nil _ _, rfl, ?_⟩
  intro m hm
  obtain rfl := List.mem_singleton.1 hm
  rfl

end Tracking

end CrashReporter
