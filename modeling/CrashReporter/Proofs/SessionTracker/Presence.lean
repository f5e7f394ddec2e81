import CrashReporter.Proofs.SessionTracker.Foreground
import Mathlib.Data.List.Induction

-- What is in the foreground. The tracker keeps one list of activities and one time; what it says
-- by them is what the starts and stops say by themselves. Instances of one activity count on
-- their own, and each stop is that of the earliest of them.

namespace CrashReporter

/-! ## Instances -/

/-- How many instances of an activity are in the foreground after some moves: one more with each
start, and one less with each stop as long as there is one. -/
def instances (name : String) (past : List Move) : Nat :=
  past.foldl (fun n m => if m.activity = name then if m.starting then n + 1 else n - 1 else n) 0

theorem instances_concat (name : String) (past : List Move) (m : Move) :
    instances name (past ++ [m]) =
      if m.activity = name then
        if m.starting then instances name past + 1 else instances name past - 1
      else instances name past := by
  simp [instances]

theorem count_present (name : String) (past : List Move) :
    (present past).count name = instances name past := by
  induction past using List.reverseRecOn with
  | nil => rfl
  | append_singleton past m ih =>
    rw [present_concat, instances_concat, ← ih]
    by_cases hname : m.activity = name
    · cases m.starting with
      | true => simp [hname]
      | false => simp [hname]
    · cases m.starting with
      | true => simp [hname]
      | false => simp [hname, List.count_erase_of_ne (Ne.symm hname)]

theorem present_eq_nil_iff {past : List Move} :
    present past = [] ↔ ∀ name, instances name past = 0 := by
  simp only [List.eq_nil_iff_forall_not_mem, ← count_present, List.count_eq_zero]

/-! ## Starts that are pending -/

/-- The starts that no stop has cancelled, the earliest first. A stop cancels the earliest of its
name, or nothing if there is none. -/
inductive Pending : List Move → List Move → Prop
  | opened : Pending [] []
  | starts {past pending : List Move} {m : Move} (h : Pending past pending)
      (hm : m.starting = true) : Pending (past ++ [m]) (pending ++ [m])
  | cancels {past before after : List Move} {start m : Move}
      (h : Pending past (before ++ start :: after)) (hm : m.starting = false)
      (hname : start.activity = m.activity)
      (hearliest : ∀ other ∈ before, other.activity ≠ m.activity) :
      Pending (past ++ [m]) (before ++ after)
  | misses {past pending : List Move} {m : Move} (h : Pending past pending)
      (hm : m.starting = false) (hnone : ∀ other ∈ pending, other.activity ≠ m.activity) :
      Pending (past ++ [m]) pending

theorem exists_pending (past : List Move) : ∃ pending, Pending past pending := by
  induction past using List.reverseRecOn with
  | nil => exact ⟨[], .opened⟩
  | append_singleton past m ih =>
    obtain ⟨pending, h⟩ := ih
    cases hm : m.starting with
    | true => exact ⟨_, .starts h hm⟩
    | false =>
      cases hfind : pending.find? fun other => other.activity = m.activity with
      | none => exact ⟨_, .misses h hm (by simpa using hfind)⟩
      | some start =>
        obtain ⟨hname, before, after, rfl, hearliest⟩ := List.find?_eq_some_iff_append.1 hfind
        exact ⟨_, .cancels h hm (by simpa using hname) (by simpa using hearliest)⟩

/-- The activities in the foreground are those of the pending starts. -/
theorem Pending.map_activity {past pending : List Move} (h : Pending past pending) :
    pending.map Move.activity = present past := by
  induction h with
  | opened => rfl
  | starts h hm ih => simp [present_concat, hm, ih]
  | @cancels past before after start m h hm hname hearliest ih =>
    have hnot : m.activity ∉ before.map Move.activity := by simpa using hearliest
    rw [present_concat, hm, ← ih]
    simp [List.erase_append_right _ hnot, hname]
  | @misses past pending m h hm hnone ih =>
    have hnot : m.activity ∉ pending.map Move.activity := by simpa using hnone
    rw [present_concat, hm, ← ih, List.erase_of_not_mem hnot]
    rfl

/-! ## Entries -/

/-- With this move the app comes to the foreground: something starts, and nothing was there. -/
def Enters (earlier : List Move) (m : Move) : Prop :=
  m.starting = true ∧ ∀ name, instances name earlier = 0

/-- With this move the app came to the foreground, and with none that came after. -/
def LastEntry (past : List Move) (entry : Move) : Prop :=
  ∃ earlier later, past = earlier ++ entry :: later ∧ Enters earlier entry ∧
    ∀ between m rest, later = between ++ m :: rest → ¬Enters (earlier ++ entry :: between) m

namespace LastEntry

variable {past : List Move} {entry m : Move}

theorem enters (h : Enters past m) : LastEntry (past ++ [m]) m := by
  refine ⟨past, [], rfl, h, ?_⟩
  intro between other rest hsplit
  simp at hsplit

theorem stays (h : LastEntry past entry) (hm : ¬Enters past m) :
    LastEntry (past ++ [m]) entry := by
  obtain ⟨earlier, later, rfl, henters, hlast⟩ := h
  refine ⟨earlier, later ++ [m], by simp, henters, ?_⟩
  intro between other rest hsplit
  rcases List.eq_nil_or_concat' rest with rfl | ⟨rest, last, rfl⟩
  · obtain ⟨rfl, hother⟩ := List.append_inj' hsplit rfl
    obtain rfl := List.singleton_inj.1 hother
    exact hm
  · have hsplit : later ++ [m] = (between ++ other :: rest) ++ [last] := by simpa using hsplit
    obtain ⟨hlater, -⟩ := List.append_inj' hsplit rfl
    exact hlast between other rest hlater

theorem of_concat (h : LastEntry (past ++ [m]) entry) :
    entry = m ∧ Enters past m ∨ LastEntry past entry ∧ ¬Enters past m := by
  obtain ⟨earlier, later, hsplit, henters, hlast⟩ := h
  rcases List.eq_nil_or_concat' later with rfl | ⟨later, last, rfl⟩
  · obtain ⟨rfl, hentry⟩ := List.append_inj' hsplit rfl
    obtain rfl := List.singleton_inj.1 hentry
    exact .inl ⟨rfl, henters⟩
  · have hsplit : past ++ [m] = (earlier ++ entry :: later) ++ [last] := by simpa using hsplit
    obtain ⟨rfl, hm⟩ := List.append_inj' hsplit rfl
    obtain rfl := List.singleton_inj.1 hm
    refine .inr ⟨⟨earlier, later, rfl, henters, ?_⟩, hlast later m [] rfl⟩
    rintro between other rest rfl
    exact hlast between other (rest ++ [m]) (by simp)

end LastEntry

theorem enters_iff {past : List Move} {m : Move} :
    Enters past m ↔ m.starting = true ∧ present past = [] := by
  rw [Enters, present_eq_nil_iff]

/-- Where something is in the foreground, something came. -/
theorem exists_lastEntry {past : List Move} (h : present past ≠ []) :
    ∃ entry, LastEntry past entry := by
  induction past using List.reverseRecOn with
  | nil => exact absurd rfl h
  | append_singleton past m ih =>
    by_cases hm : Enters past m
    · exact ⟨m, .enters hm⟩
    · have hthere : present past ≠ [] := by
        intro hnothing
        rw [present_concat, hnothing] at h
        cases hstarting : m.starting with
        | true => exact hm (enters_iff.2 ⟨hstarting, hnothing⟩)
        | false => simp [hstarting] at h
      obtain ⟨entry, hentry⟩ := ih hthere
      exact ⟨entry, hentry.stays hm⟩

/-! ## The foreground -/

namespace Foreground

theorem isActive_iff (f : Foreground) : f.isActive = true ↔ f.activities ≠ [] := by
  simp [isActive]

theorem entered_move (f : Foreground) (m : Move) :
    (f.move m).entered =
      if m.starting = true ∧ f.activities = [] then some m.now else f.entered := by
  unfold move
  cases hstarting : m.starting with
  | true => cases hactivities : f.activities <;> simp [start, isActive, hactivities]
  | false => simp [stop]

/-- What the foreground says is what the moves say. -/
structure Follows (f : Foreground) (past : List Move) : Prop where
  counted : ∀ name, f.activities.count name = instances name past
  active_iff : f.isActive = true ↔ ∃ name, 0 < instances name past
  pending : ∃ pending, Pending past pending
  latest : ∀ pending, Pending past pending → f.activity? = pending.getLast?.map Move.activity
  entry : f.isActive = true → ∃ entry, LastEntry past entry
  duration : f.isActive = true → ∀ entry, LastEntry past entry → ∀ now,
    (f.duration now : Int) = max 0 (now.since entry.now)
  background : f.isActive = false → ∀ now, f.duration now = 0

theorem follows {f : Foreground} {past : List Move} (hthere : f.activities = present past)
    (hentered : ∀ entry, LastEntry past entry → f.entered = some entry.now) : f.Follows past := by
  refine ⟨?_, ?_, exists_pending past, ?_, ?_, ?_, ?_⟩
  · intro name
    rw [hthere, count_present]
  · rw [isActive_iff, hthere, Ne, present_eq_nil_iff, not_forall]
    simp only [Nat.pos_iff_ne_zero]
  · intro pending h
    rw [activity?, hthere, ← h.map_activity, List.getLast?_map]
  · intro hactive
    rw [isActive_iff, hthere] at hactive
    exact exists_lastEntry hactive
  · intro hactive entry h now
    rw [Foreground.duration, if_pos hactive, hentered entry h]
    simp only [Option.map_some, Option.getD_some, Instant.elapsed]
    omega
  · intro hactive now
    rw [Foreground.duration, if_neg (Bool.eq_false_iff.1 hactive)]

end Foreground

/-! ## The law -/

namespace Tracking

variable {past : List Move} {d : Tracking}

/-- The tracker keeps the time when the app last came to the foreground. -/
theorem Moved.entered (h : Moved past d) {entry : Move} (hentry : LastEntry past entry) :
    d.tracker.foreground.entered = some entry.now := by
  induction h with
  | opened hnew =>
    obtain ⟨earlier, later, hsplit, -⟩ := hentry
    simp at hsplit
  | @step past d h call ih =>
    rw [foreground_carryOut]
    cases hmove : call.move? with
    | none =>
      rw [hmove, Option.toList_none, List.append_nil] at hentry
      exact ih hentry
    | some m =>
      rw [hmove, Option.toList_some] at hentry
      rw [Option.elim_some, Foreground.entered_move, h.foreground.1]
      rcases hentry.of_concat with ⟨rfl, henters⟩ | ⟨hentry, hnot⟩
      · rw [if_pos (enters_iff.1 henters)]
      · rw [if_neg fun both => hnot (enters_iff.2 both), ih hentry]

theorem Moved.follows (h : Moved past d) : d.tracker.foreground.Follows past :=
  Foreground.follows h.foreground.1 fun _ hentry => h.entered hentry

/-- A move tells of the session that it starts, if it does, and then of the foreground as it has
become. -/
theorem told_move (d : Tracking) (m : Move) :
    let reply := d.carryOut (.moveActivity m.activity m.starting m.now m.id)
    let foreground := reply.after.tracker.foreground
    ∃ started : List Session, started.length ≤ 1 ∧
      reply.after.tracker.sessions = d.tracker.sessions ++ started ∧
      reply.told = started.map .ofSession ++
        [.foregroundChanged foreground.isActive foreground.activity?] := by
  simp only [carryOut, follow, SessionTracker.moveActivity]
  split
  · exact ⟨[d.tracker.comingSession m], Nat.le_refl 1, rfl, rfl⟩
  · exact ⟨[], Nat.zero_le 1, (List.append_nil _).symm, rfl⟩

/-- The foreground is what the starts and stops make it, whenever they come and whatever else is
asked of the tracker: how often each activity is there, whether any is, which one started last of
those that are, and for how long the app has been there. After each move this is told once, after
the session that the move started, if it started one. -/
theorem the_foreground_follows_starts_and_stops (h : Moved past d) :
    d.tracker.foreground.Follows past ∧
    ∀ m : Move,
      let reply := d.carryOut (.moveActivity m.activity m.starting m.now m.id)
      let foreground := reply.after.tracker.foreground
      foreground.Follows (past ++ [m]) ∧
      ∃ started : List Session, started.length ≤ 1 ∧
        reply.after.tracker.sessions = d.tracker.sessions ++ started ∧
        reply.told = started.map .ofSession ++
          [.foregroundChanged foreground.isActive foreground.activity?] := by
  refine ⟨h.follows, ?_⟩
  intro m
  have hmoved : Moved (past ++ [m])
      (d.carryOut (.moveActivity m.activity m.starting m.now m.id)).after :=
    h.step (.moveActivity m.activity m.starting m.now m.id)
  exact ⟨hmoved.follows, d.told_move m⟩

/-- The first of two instances leaves, and so does one that was never there. The other is left
with the activity that started in between, and the app is there since the first came. -/
theorem the_first_of_two_instances_leaves :
    ∃ past d, Moved past d ∧
      past = [moveAt "A" true 10, moveAt "B" true 20, moveAt "A" true 30, moveAt "A" false 40,
        moveAt "C" false 45] ∧
      Pending past [moveAt "B" true 20, moveAt "A" true 30] ∧
      LastEntry past (moveAt "A" true 10) ∧
      d.tracker.foreground.activity? = some "A" ∧
      d.tracker.foreground.duration ⟨0, 50, 0⟩ = 40000000000 ∧
      d.tracker.foreground.duration ⟨0, 5, 0⟩ = 0 := by
  have hopened : Moved [] newTracking := .opened rfl
  have hmoved := ((((hopened.move (moveAt "A" true 10)).move (moveAt "B" true 20)).move
    (moveAt "A" true 30)).move (moveAt "A" false 40)).move (moveAt "C" false 45)
  have hstarted : Pending ([] ++ [moveAt "A" true 10] ++ [moveAt "B" true 20] ++
      [moveAt "A" true 30]) ([] ++ moveAt "A" true 10 ::
        [moveAt "B" true 20, moveAt "A" true 30]) :=
    ((Pending.opened.starts rfl).starts rfl).starts rfl
  have hpending := (hstarted.cancels (m := moveAt "A" false 40) rfl rfl
    fun _ hother => nomatch hother).misses (m := moveAt "C" false 45) rfl (by simp [moveAt])
  have hentered : LastEntry ([] ++ [moveAt "A" true 10]) (moveAt "A" true 10) :=
    .enters ⟨rfl, fun _ => rfl⟩
  have hentry := (((hentered.stays (m := moveAt "B" true 20)
    fun henters => absurd (henters.2 "A") (by decide)).stays (m := moveAt "A" true 30)
    fun henters => absurd (henters.2 "A") (by decide)).stays (m := moveAt "A" false 40)
    fun henters => nomatch henters.1).stays (m := moveAt "C" false 45)
    fun henters => nomatch henters.1
  obtain ⟨hfollows, -⟩ := the_foreground_follows_starts_and_stops hmoved
  have hactive := hfollows.active_iff.2 ⟨"B", by decide⟩
  refine ⟨_, _, hmoved, rfl, hpending, hentry, hfollows.latest _ hpending, ?_, ?_⟩
  · exact Int.ofNat_inj.1 (hfollows.duration hactive _ hentry ⟨0, 50, 0⟩)
  · exact Int.ofNat_inj.1 (hfollows.duration hactive _ hentry ⟨0, 5, 0⟩)

end Tracking

end CrashReporter
