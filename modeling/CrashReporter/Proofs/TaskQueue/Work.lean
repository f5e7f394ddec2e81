import CrashReporter.Proofs.Pipeline.SingleFlight
import CrashReporter.Proofs.TaskQueue

-- What becomes of the tasks that are submitted. In whatever order the parties go on, every task
-- is run once or kept, and the count of tasks is right whenever someone looks at it.

namespace CrashReporter

/-- How many turns it takes at most until a call has its answer and its task is done with. -/
def Stage.weight : Stage → Nat
  | .counted => 5
  | .refused => 2
  | .uncounted => 1

@[simp] theorem Stage.weight_counted : Stage.counted.weight = 5 := rfl

@[simp] theorem Stage.weight_refused : Stage.refused.weight = 2 := rfl

@[simp] theorem Stage.weight_uncounted : Stage.uncounted.weight = 1 := rfl

open scoped List

namespace Background

variable {capacity concurrency : Nat} {past : List Note} {s t : Background} {note : Note}

/-! ## What became of the tasks -/

/-- Each task that was submitted was sent or kept, or its call has no answer yet. -/
theorem History.answered (h : History capacity concurrency past s) :
    tasks .call past ~ tasks .send past ++ tasks .keep past ++ s.calls.map Prod.fst := by
  induction h with
  | started => exact List.Perm.refl _
  | @step past s t note _ hstep ih =>
    simp only [tasks_concat]
    have hmoved := hstep.calls
    generalize (note.task? .send).toList = sent at hmoved ⊢
    generalize (note.task? .keep).toList = kept at hmoved ⊢
    calc tasks .call past ++ (note.task? .call).toList
      _ ~ tasks .send past ++ tasks .keep past ++ s.calls.map Prod.fst ++
            (note.task? .call).toList := ih.append_right _
      _ ~ tasks .send past ++ tasks .keep past ++ (sent ++ kept ++ t.calls.map Prod.fst) := by
          rw [List.append_assoc]
          exact hmoved.append_left _
      _ ~ tasks .send past ++ sent ++ (tasks .keep past ++ kept) ++ t.calls.map Prod.fst := by
          simp only [List.append_assoc]
          exact (List.perm_append_comm_assoc _ _ _).append_left _

/-- The tasks that were sent were started in their order, but for the last ones. -/
theorem History.in_order (h : History capacity concurrency past s) :
    tasks .send past = tasks .start past ++ s.queue.inHand.toList ++ s.queue.waiting := by
  induction h with
  | started => rfl
  | step _ hstep ih =>
    have horder := hstep.order
    simp only [List.append_assoc] at horder
    simp only [tasks_concat, ih, List.append_assoc, horder]

/-- Each task that was started has ended or runs. -/
theorem History.begun (h : History capacity concurrency past s) :
    tasks .start past ~ tasks .finish past ++ s.unfinished := by
  induction h with
  | started => exact List.Perm.refl _
  | @step past s t note _ hstep ih =>
    simp only [tasks_concat]
    have hgrown := ih.append_right (note.task? .start).toList
    rw [List.append_assoc] at hgrown ⊢
    exact hgrown.trans (hstep.unfinished.append_left _)

theorem History.isClosed_iff (h : History capacity concurrency past s) :
    s.queue.isClosed = true ↔ .closed ∈ past := by
  induction h with
  | started => simp [TaskQueue.new]
  | step _ hstep ih => rw [hstep.isClosed_iff, ih, List.mem_append, List.mem_singleton, eq_comm]

/-- The queue refuses a task only if it was closed or is full. -/
theorem History.refuses_iff (h : History capacity concurrency past s) (task : Task) :
    s.queue.submit? task = none ↔
      .closed ∈ past ∨ max capacity 1 ≤ s.queue.waiting.length := by
  rw [TaskQueue.submit?_eq_none_iff, h.isClosed_iff, h.sound.room]

/-- Once nothing waits and nothing that was received goes on, all that was sent has ended. -/
theorem History.all_ended (h : History capacity concurrency past s) (hwaits : s.queue.waiting = [])
    (hreceived : s.received = []) : tasks .send past ~ tasks .finish past := by
  obtain ⟨hhand, hruns⟩ := List.append_eq_nil_iff.1 hreceived
  have hbegun := h.begun
  rw [hruns, List.append_nil] at hbegun
  rw [h.in_order, hhand, hwaits, List.append_nil, List.append_nil]
  exact hbegun

/-- When the count is down, all that was sent has ended. -/
theorem History.ended_of_counted (h : History capacity concurrency past s) (hzero : s.counted = 0) :
    tasks .send past ~ tasks .finish past := by
  have hcounted := h.sound.counted
  have hwaits : s.queue.waiting.length = 0 := by omega
  have hreceived : s.received.length = 0 := by omega
  exact h.all_ended (List.length_eq_zero_iff.1 hwaits) (List.length_eq_zero_iff.1 hreceived)

/-- Tasks that have not ended have their places. -/
theorem Sound.unfinished_le (h : Sound capacity concurrency s) :
    s.unfinished.length ≤ s.queue.running.length := by
  rw [← h.placed, Background.unfinished, List.length_map, List.length_map]
  exact List.length_filter_le _ _

/-- While nobody is about to change it, the count is what the queue has. -/
theorem Sound.counted_eq_pending (h : Sound capacity concurrency s) (hcalls : s.calls = [])
    (hplaces : ∀ place ∈ s.places, place.2 = false) : s.counted = s.queue.pending := by
  have hruns : s.unfinished = s.queue.running := by
    have hall : (s.places.filter fun place => !place.2) = s.places :=
      List.filter_eq_self.2 fun place hplace => by simp [hplaces place hplace]
    rw [Background.unfinished, hall, h.placed]
  rw [h.counted, received, undecided, hcalls, hruns, List.length_append, TaskQueue.pending,
    List.countP_nil]
  omega

/-- When the dispatcher has all places, all that was sent has ended. -/
theorem History.ended_of_drained (h : History capacity concurrency past s)
    (hmax : concurrency < UInt32.size) (hdrained : s.drained = true)
    (hplaces : s.queue.running.length + s.queue.lastPlaces ≤ s.queue.concurrency) :
    tasks .send past ~ tasks .finish past := by
  obtain ⟨-, hwaits, hhand⟩ := h.sound.left hdrained
  have hlimit := h.sound.limit
  have hsize : 1 < UInt32.size := by decide
  have hall : s.queue.lastPlaces = s.queue.concurrency := by
    unfold TaskQueue.lastPlaces
    omega
  have hruns : s.unfinished.length = 0 := by
    have hle := h.sound.unfinished_le
    omega
  refine h.all_ended hwaits ?_
  rw [received, hhand, List.length_eq_zero_iff.1 hruns]
  rfl

/-! ## What is left to do -/

section
variable {β : Type} {l : List β} {i : Nat} {x : β}

theorem sum_eq_add_eraseIdx (h : l[i]? = some x) (weight : β → Nat) :
    (l.map weight).sum = weight x + ((l.eraseIdx i).map weight).sum :=
  ((perm_cons_eraseIdx h).map weight).sum_nat

theorem sum_set (h : l[i]? = some x) (weight : β → Nat) (y : β) :
    ((l.set i y).map weight).sum = weight y + ((l.eraseIdx i).map weight).sum :=
  ((set_perm h y).map weight).sum_nat

theorem eq_nil_of_sum {weight : β → Nat} (hpositive : ∀ x, 0 < weight x)
    (hsum : (l.map weight).sum = 0) : l = [] := by
  cases l with
  | nil => rfl
  | cons x rest =>
    have hfirst := hpositive x
    rw [List.map_cons, List.sum_cons] at hsum
    omega

end

/-- How much is left to do, for the calls, for the dispatcher and for the tasks. -/
def remaining (s : Background) : Nat :=
  (s.calls.map fun call => call.2.weight).sum + 4 * s.queue.waiting.length +
    3 * s.queue.inHand.toList.length + (s.places.map fun place => if place.2 then 1 else 2).sum

/-- What a call does after it came, what the dispatcher does with a task and what a task does. -/
def Note.isWork : Note → Bool
  | .of .call _ => false
  | .of _ _ => true
  | _ => false

/-- Work brings the end nearer. -/
theorem Step.remaining_lt (h : Step s note t) (hwork : note.isWork = true) :
    t.remaining < s.remaining := by
  unfold remaining
  cases h with
  | send hcall htaken =>
    obtain ⟨-, rfl⟩ := TaskQueue.submit?_eq_some htaken
    rw [sum_eq_add_eraseIdx hcall]
    simp
    omega
  | refuse hcall _ =>
    rw [sum_eq_add_eraseIdx hcall, sum_set hcall]
    simp
  | uncount hcall =>
    rw [sum_eq_add_eraseIdx hcall, sum_set hcall]
    simp
  | keep hcall =>
    rw [sum_eq_add_eraseIdx hcall]
    simp
  | receive hfree hwaits =>
    simp [TaskQueue.receive_of_waiting hfree hwaits, hfree, hwaits]
    omega
  | start hhand hroom _ =>
    simp [TaskQueue.start_of_room hhand hroom, hhand]
    omega
  | finish hplace =>
    rw [sum_eq_add_eraseIdx hplace, sum_set hplace]
    simp
  | release hplace =>
    rw [sum_eq_add_eraseIdx hplace]
    simp [TaskQueue.finish]
  | _ => cases hwork

/-- There is work that can be done now. -/
def GoesOn (s : Background) : Prop := ∃ note t, note.isWork = true ∧ Step s note t

/-- A call never waits for anyone. -/
theorem goesOn_of_call {call : Task × Stage} {rest : List (Task × Stage)}
    (hcalls : s.calls = call :: rest) : s.GoesOn := by
  obtain ⟨task, stage⟩ := call
  have hfirst : s.calls[0]? = some (task, stage) := by simp [hcalls]
  cases stage with
  | counted =>
    cases hsubmit : s.queue.submit? task with
    | some q => exact ⟨_, _, rfl, .send hfirst hsubmit⟩
    | none => exact ⟨_, _, rfl, .refuse hfirst hsubmit⟩
  | refused => exact ⟨_, _, rfl, .uncount hfirst⟩
  | uncounted => exact ⟨_, _, rfl, .keep hfirst⟩

/-- A place that is taken will be free again. -/
theorem goesOn_of_place {place : Task × Bool} {rest : List (Task × Bool)}
    (hplaces : s.places = place :: rest) : s.GoesOn := by
  obtain ⟨task, hasEnded⟩ := place
  have hfirst : s.places[0]? = some (task, hasEnded) := by simp [hplaces]
  cases hasEnded with
  | false => exact ⟨_, _, rfl, .finish hfirst⟩
  | true => exact ⟨_, _, rfl, .release hfirst⟩

/-- As long as something is left to do, there is work that can be done now: what waits for a place
waits for a task that can end. -/
theorem Sound.work_goes_on (hs : Sound capacity concurrency s) (hleft : 0 < s.remaining) :
    s.GoesOn := by
  cases hcalls : s.calls with
  | cons call rest => exact goesOn_of_call hcalls
  | nil =>
    cases hplaces : s.places with
    | cons place rest => exact goesOn_of_place hplaces
    | nil =>
      cases hhand : s.queue.inHand with
      | some task =>
        have hroom : s.queue.running.length < s.queue.concurrency := by
          have hlimit := hs.limit
          rw [← hs.placed, hplaces]
          simp only [List.map_nil, List.length_nil]
          omega
        exact ⟨_, _, rfl, .start hhand hroom {}⟩
      | none =>
        cases hwaits : s.queue.waiting with
        | cons task rest => exact ⟨_, _, rfl, .receive hhand hwaits⟩
        | nil => simp [remaining, hcalls, hhand, hwaits, hplaces] at hleft

/-- When nothing is left to do, each task that was submitted has ended or was kept. -/
theorem History.all_done (h : History capacity concurrency past s) (hdone : s.remaining = 0) :
    tasks .call past ~ tasks .finish past ++ tasks .keep past := by
  unfold remaining at hdone
  have hnocalls : (s.calls.map fun call => call.2.weight).sum = 0 := by omega
  have hnoplaces : (s.places.map fun place => if place.2 then 1 else 2).sum = 0 := by omega
  have hcalls : s.calls = [] := by
    refine eq_nil_of_sum (fun call => ?_) hnocalls
    cases call.2 <;> decide
  have hplaces : s.places = [] := by
    refine eq_nil_of_sum (fun place => ?_) hnoplaces
    cases place.2 <;> decide
  have hwaits : s.queue.waiting = [] := List.length_eq_zero_iff.1 (by omega)
  have hhand : s.queue.inHand.toList = [] := List.length_eq_zero_iff.1 (by omega)
  have hreceived : s.received = [] := by
    rw [received, hhand, Background.unfinished, hplaces]
    rfl
  have hanswered := h.answered
  rw [hcalls, List.map_nil, List.append_nil] at hanswered
  exact hanswered.trans ((h.all_ended hwaits hreceived).append_right _)

/-! ## Without interruption -/

/-- A call that nobody interrupts submits its task. -/
theorem History.submitTask (h : History capacity concurrency past s) {task : Task}
    {q : TaskQueue} {p : Pipeline} {taken : Bool}
    (hsubmit : submitTask s.queue s.pipeline task = (q, p, taken)) :
    History capacity concurrency
      (past ++ if taken then [.of .call task, .of .send task]
        else [.of .call task, .of .refuse task, .of .uncount task, .of .keep task])
      { s with
        queue := q
        pipeline := p
        counted := if taken then s.counted + 1 else s.counted } := by
  have hlast : ∀ stage, (s.calls ++ [(task, stage)])[s.calls.length]? = some (task, stage) := by
    simp
  have herased : ∀ stage, (s.calls ++ [(task, stage)]).eraseIdx s.calls.length = s.calls := by
    simp [List.eraseIdx_append_of_length_le]
  have hmoved : ∀ stage other, (s.calls ++ [(task, stage)]).set s.calls.length (task, other) =
      s.calls ++ [(task, other)] := by
    simp
  have hcalled := h.step (.call task)
  unfold CrashReporter.submitTask at hsubmit
  split at hsubmit
  · next hsend =>
    obtain ⟨rfl, rfl, rfl⟩ := hsubmit
    have hsent := hcalled.step (.send (hlast _) hsend)
    simp only [herased, List.append_assoc] at hsent
    exact hsent
  · next hrefuse =>
    obtain ⟨rfl, rfl, rfl⟩ := hsubmit
    have hrefused := hcalled.step (.refuse (hlast _) hrefuse)
    simp only [hmoved] at hrefused
    have hback := hrefused.step (.uncount (hlast _))
    simp only [hmoved] at hback
    have hkept := hback.step (.keep (hlast _))
    simp only [herased, List.append_assoc] at hkept
    exact hkept

/-- A history that goes on until the queue is like this. -/
def Leads (capacity concurrency : Nat) (past : List Note) (q : TaskQueue) : Prop :=
  ∃ more t, History capacity concurrency (past ++ more) t ∧ t.queue = q

theorem History.leads (h : History capacity concurrency past s) :
    Leads capacity concurrency past s.queue :=
  ⟨[], s, by simpa using h, rfl⟩

theorem History.leads_receive (h : History capacity concurrency past s) :
    Leads capacity concurrency past s.queue.receive := by
  cases hhand : s.queue.inHand with
  | some task =>
    have hsame : s.queue.receive = s.queue := by simp [TaskQueue.receive, hhand]
    rw [hsame]
    exact h.leads
  | none =>
    cases hwaits : s.queue.waiting with
    | nil =>
      have hsame : s.queue.receive = s.queue := by simp [TaskQueue.receive, hwaits]
      rw [hsame]
      exact h.leads
    | cons task rest => exact ⟨_, _, h.step (.receive hhand hwaits), rfl⟩

theorem History.leads_start (h : History capacity concurrency past s) :
    Leads capacity concurrency past s.queue.start := by
  cases hhand : s.queue.inHand with
  | none =>
    have hsame : s.queue.start = s.queue := by simp [TaskQueue.start, hhand]
    rw [hsame]
    exact h.leads
  | some task =>
    by_cases hroom : s.queue.running.length < s.queue.concurrency
    · exact ⟨_, _, h.step (.start hhand hroom {}), rfl⟩
    · have hsame : s.queue.start = s.queue := by simp [TaskQueue.start, hhand, hroom]
      rw [hsame]
      exact h.leads

theorem Leads.trans {q r : TaskQueue} (h : Leads capacity concurrency past q)
    (hnext : ∀ {later s}, History capacity concurrency later s → s.queue = q →
      Leads capacity concurrency later r) : Leads capacity concurrency past r := by
  obtain ⟨more, s, hs, hq⟩ := h
  obtain ⟨rest, t, ht, hr⟩ := hnext hs hq
  exact ⟨more ++ rest, t, by simpa using ht, hr⟩

/-- The dispatcher's turn is made of single steps. -/
theorem History.leads_dispatch (h : History capacity concurrency past s) :
    Leads capacity concurrency past s.queue.dispatch := by
  have hturns : ∀ (waits : List Task) (q : TaskQueue), Leads capacity concurrency past q →
      Leads capacity concurrency past (waits.foldl (fun q _ => q.receive.start) q) := by
    intro waits
    induction waits with
    | nil => exact fun q hq => hq
    | cons _ rest ih =>
      intro q hq
      have hreceived : Leads capacity concurrency past q.receive :=
        hq.trans fun hs hsame => hsame ▸ hs.leads_receive
      have hstarted : Leads capacity concurrency past q.receive.start :=
        hreceived.trans fun hs hsame => hsame ▸ hs.leads_start
      exact ih _ hstarted
  exact hturns _ _ h.leads_start

/-! ## The law -/

/-- Every task is run once or kept. What is submitted is sent to the queue or kept, unless its call
has no answer yet; what is sent is started in its order, each task once, unless it still waits; and
what is started has ended or runs. No more tasks run than there are places. The count is that of
the tasks which wait or were received and have not ended, and of those being submitted; while
nobody is about to change it, it is what the queue has. Whoever waits for an idle queue is answered
only when all that was sent has ended, and so is the call that closes the queue. The queue refuses
a task only if it is full or was closed, and what a refused task carries is written to the stores
by the call itself, where these have their directories. As long as something is left to do,
someone can do it, and then less is left; when nothing is left, each task that was submitted has
ended or was kept. -/
theorem every_task_is_run_once_or_kept (h : History capacity concurrency past s)
    (hone : 1 ≤ concurrency) (hmax : concurrency < UInt32.size) :
    tasks .call past ~ tasks .send past ++ tasks .keep past ++ s.calls.map Prod.fst ∧
    tasks .send past = tasks .start past ++ s.queue.inHand.toList ++ s.queue.waiting ∧
    tasks .start past ~ tasks .finish past ++ s.unfinished ∧
    s.unfinished.length ≤ s.queue.running.length ∧ s.queue.running.length ≤ concurrency ∧
    s.counted = s.queue.waiting.length + s.received.length + s.undecided ∧
    (s.calls = [] → (∀ place ∈ s.places, place.2 = false) → s.counted = s.queue.pending) ∧
    (∀ t, Step s .idle t → tasks .send past ~ tasks .finish past) ∧
    (∀ t, Step s .returned t → tasks .send past ~ tasks .finish past) ∧
    (∀ task, s.queue.submit? task = none ↔
      .closed ∈ past ∨ max capacity 1 ≤ s.queue.waiting.length) ∧
    (∀ task t f g, Step s (.of .keep task) t → s.pipeline.events.place = .folder f →
      s.pipeline.sessions.place = .folder g → task.IsKept s.pipeline t.pipeline) ∧
    (0 < s.remaining → s.GoesOn) ∧
    (∀ note t, note.isWork = true → Step s note t → t.remaining < s.remaining) ∧
    (s.remaining = 0 → tasks .call past ~ tasks .finish past ++ tasks .keep past) := by
  have hsound := h.sound
  refine ⟨h.answered, h.in_order, h.begun, hsound.unfinished_le, ?_, hsound.counted,
    hsound.counted_eq_pending, ?_, ?_, h.refuses_iff, ?_, hsound.work_goes_on, ?_, h.all_done⟩
  · have hfew := hsound.few
    have hlimit := hsound.limit
    omega
  · intro t hidle
    cases hidle with
    | idle hzero => exact h.ended_of_counted hzero
  · intro t hreturns
    cases hreturns with
    | returned hdrained hplaces => exact h.ended_of_drained hmax hdrained hplaces
  · intro task t f g hkeep hevents hsessions
    cases hkeep with
    | keep _ => exact Pipeline.isKept_keep hevents hsessions task
  · intro note t hwork hstep
    exact hstep.remaining_lt hwork

/-- A task runs and another waits when the queue is closed; then a third is submitted. The two are
run before the call that closed the queue is answered, and the event of the third is stored. -/
theorem what_comes_after_closing_is_kept :
    ∃ past s t, History 1 1 past s ∧ Step s .returned t ∧
      tasks .send past = [.deliverEvent (planned "first"), .flushSessions] ∧
      tasks .send past ~ tasks .finish past ∧
      tasks .keep past = [.deliverEvent (planned "late")] ∧
      s.pipeline.events.names = [RecordName.ofStamp 1 0] := by
  have hopened : History 1 1 [] _ := .started .owned freshPipeline
  have hfirst := hopened.submitTask
    (show submitTask _ _ (.deliverEvent (planned "first")) = (_, _, true) from rfl)
  have hruns := (hfirst.step (.receive rfl rfl)).step (.start rfl (by decide) {})
  have hsecond := hruns.submitTask (show submitTask _ _ .flushSessions = (_, _, true) from rfl)
  have hclosed := hsecond.step (.closed rfl)
  have hlate := hclosed.submitTask
    (show submitTask _ _ (.deliverEvent (planned "late")) = (_, _, false) from rfl)
  have hends := (hlate.step (@Step.finish _ 0 _ rfl)).step (@Step.release _ 0 _ rfl)
  have hnext := (hends.step (.receive rfl rfl)).step (.start rfl (by decide) {})
  have hdone := (hnext.step (@Step.finish _ 0 _ rfl)).step (@Step.release _ 0 _ rfl)
  have hdrained := hdone.step (.drained rfl rfl rfl)
  obtain ⟨-, -, -, -, -, -, -, -, hanswered, -⟩ :=
    every_task_is_run_once_or_kept hdrained (Nat.le_refl _) (by decide)
  exact ⟨_, _, _, hdrained, .returned rfl (by decide), rfl,
    hanswered _ (.returned rfl (by decide)), rfl, rfl⟩

end Background

end CrashReporter
