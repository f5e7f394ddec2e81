import CrashReporter.TaskQueue
import CrashReporter.Proofs.Store.Operations
import Mathlib.Data.List.Perm.Basic

-- The queue at work. Calls that submit, the dispatcher, the tasks that run and whoever shuts the
-- queue down go on side by side, one small step at a time and in any order. What one step does
-- to the tasks, to their count and to the places they take is said here once.

namespace CrashReporter

/-! ## What the queue does -/

namespace TaskQueue

variable {q r : TaskQueue} {task : Task} {rest : List Task}

theorem submit?_eq_some (h : q.submit? task = some r) :
    q.isClosed = false ∧ r = { q with waiting := q.waiting ++ [task] } := by
  unfold submit? at h
  split at h
  · cases h
  · next hroom =>
    simp only [Bool.or_eq_true, decide_eq_true_eq, not_or, Bool.not_eq_true] at hroom
    exact ⟨hroom.1, (Option.some.inj h).symm⟩

/-- The queue refuses a task only if it is closed or full. -/
theorem submit?_eq_none_iff :
    q.submit? task = none ↔ q.isClosed = true ∨ q.capacity ≤ q.waiting.length := by
  cases hclosed : q.isClosed <;> simp [submit?, hclosed]

theorem receive_of_waiting (hfree : q.inHand = none) (hwaits : q.waiting = task :: rest) :
    q.receive = { q with inHand := some task, waiting := rest } := by
  simp [receive, hfree, hwaits]

theorem start_of_room (hhand : q.inHand = some task) (hroom : q.running.length < q.concurrency) :
    q.start = { q with inHand := none, running := q.running ++ [task] } := by
  simp [start, hhand, hroom]

/-- How many places the dispatcher takes to see that no task runs: all of them, as far as they
can be counted. -/
def lastPlaces (q : TaskQueue) : Nat := min q.concurrency (UInt32.size - 1)

end TaskQueue

/-! ## What is kept -/

/-- Everything that a task carries was written to the stores; for a flush nothing was done. -/
def Task.IsKept (p q : Pipeline) : Task → Prop
  | .deliverEvent event => p.persistEvent event = (q, true)
  | .deliverSessions payload =>
    p.persistSessions payload.sessions = (q, payload.sessions.length)
  | .flushEvents | .flushSessions => q = p

namespace Pipeline

variable {p : Pipeline} {f : Folder}

theorem persistEvent_of_folder (h : p.events.place = .folder f) (event : Event) :
    (p.persistEvent event).2 = true := by
  simp only [persistEvent, RecordStore.write_of_folder h]
  rfl

theorem persistSessions_of_folder (h : p.sessions.place = .folder f)
    (sessions : List SessionSnapshot) : (p.persistSessions sessions).2 = sessions.length := by
  induction sessions generalizing p f with
  | nil => rfl
  | cons session rest ih =>
    obtain ⟨g, hg⟩ := RecordStore.folder_write h session p.micros p.tags
    have hwritten : (p.persistSession session).2 = true := by
      simp only [persistSession, RecordStore.write_of_folder h]
      rfl
    simp only [persistSessions, hwritten, if_true, List.length_cons]
    rw [ih (show (p.persistSession session).1.sessions.place = .folder g from hg)]

/-- Whatever the queue does not take is kept where the stores have their directories. -/
theorem isKept_keep {g : Folder} (hevents : p.events.place = .folder f)
    (hsessions : p.sessions.place = .folder g) (task : Task) : task.IsKept p (p.keep task) := by
  cases task with
  | deliverEvent event => exact Prod.ext rfl (persistEvent_of_folder hevents event)
  | deliverSessions payload =>
    exact Prod.ext rfl (persistSessions_of_folder hsessions payload.sessions)
  | flushEvents => rfl
  | flushSessions => rfl

end Pipeline

/-! ## The parties -/

/-- Where a call that submits a task stands once it was counted. -/
inductive Stage
  | counted
  /-- The queue did not take the task. -/
  | refused
  /-- The count was given back. -/
  | uncounted
deriving DecidableEq

/-- A queue, and all that goes on around it. -/
structure Background where
  queue : TaskQueue
  pipeline : Pipeline
  /-- The count of tasks, which each party changes in a step of its own. -/
  counted : Nat := 0
  /-- The calls that have no answer yet. -/
  calls : List (Task × Stage) := []
  /-- The places that are taken. The flag says that the task has ended, so that its place is about
  to be free. -/
  places : List (Task × Bool) := []
  /-- The dispatcher found the queue closed and empty. -/
  drained : Bool := false

open scoped List

namespace Background

/-- The tasks that run and have not ended. -/
def unfinished (s : Background) : List Task :=
  (s.places.filter fun place => !place.2).map Prod.fst

/-- The tasks that the dispatcher received and that have not ended. -/
def received (s : Background) : List Task := s.queue.inHand.toList ++ s.unfinished

/-- How many calls are in the count for a task that the queue does not have. -/
def undecided (s : Background) : Nat := s.calls.countP fun call => call.2 != .uncounted

/-! ## Steps -/

/-- What may happen to a task. -/
inductive Act
  | call
  /-- The queue takes the task, and the call answers so. -/
  | send
  | refuse
  | uncount
  /-- What the task carries is kept, and the call answers that the queue did not take it. -/
  | keep
  | receive
  | start
  /-- The task has ended, and its count is given back. -/
  | finish
  /-- Its place is free again. -/
  | release
deriving DecidableEq

/-- What may happen. -/
inductive Note
  | of (act : Act) (task : Task)
  /-- The first call that shuts down closes the queue. -/
  | closed
  /-- A later one finds it closed, and answers at once. -/
  | leftClosed
  /-- The dispatcher finds nothing to do any more. -/
  | drained
  /-- The call that closed the queue answers. -/
  | returned
  /-- Someone waited for the queue to be idle, and is answered. -/
  | idle
  /-- Something else uses the stores. -/
  | elsewhere

/-- A call counts its task and then tries to send it. If the queue does not take it, the count is
given back, and then what the task carries is kept. The dispatcher takes the tasks that wait, one
after the other, and starts each as soon as there is a place for it. A task that ends, in whatever
way, gives back its count and then its place. The call that closes the queue answers when the
dispatcher has all places to itself; a call that finds it closed does not wait for anything. -/
inductive Step (s : Background) : Note → Background → Prop
  | call (task : Task) :
      Step s (.of .call task)
        { s with counted := s.counted + 1, calls := s.calls ++ [(task, .counted)] }
  | send {i : Nat} {task : Task} {q : TaskQueue} (hcall : s.calls[i]? = some (task, .counted))
      (htaken : s.queue.submit? task = some q) :
      Step s (.of .send task) { s with queue := q, calls := s.calls.eraseIdx i }
  | refuse {i : Nat} {task : Task} (hcall : s.calls[i]? = some (task, .counted))
      (hrefused : s.queue.submit? task = none) :
      Step s (.of .refuse task) { s with calls := s.calls.set i (task, .refused) }
  | uncount {i : Nat} {task : Task} (hcall : s.calls[i]? = some (task, .refused)) :
      Step s (.of .uncount task)
        { s with counted := s.counted - 1, calls := s.calls.set i (task, .uncounted) }
  | keep {i : Nat} {task : Task} (hcall : s.calls[i]? = some (task, .uncounted)) :
      Step s (.of .keep task)
        { s with pipeline := s.pipeline.keep task, calls := s.calls.eraseIdx i }
  | receive {task : Task} {rest : List Task} (hfree : s.queue.inHand = none)
      (hwaits : s.queue.waiting = task :: rest) :
      Step s (.of .receive task) { s with queue := s.queue.receive }
  | start {task : Task} (hhand : s.queue.inHand = some task)
      (hroom : s.queue.running.length < s.queue.concurrency) (around : Surroundings) :
      Step s (.of .start task)
        { s with
          queue := s.queue.start
          pipeline := (s.pipeline.begin task around).1
          places := s.places ++ [(task, false)] }
  | finish {i : Nat} {task : Task} (hplace : s.places[i]? = some (task, false)) :
      Step s (.of .finish task)
        { s with counted := s.counted - 1, places := s.places.set i (task, true) }
  | release {i : Nat} {task : Task} (hplace : s.places[i]? = some (task, true)) :
      Step s (.of .release task)
        { s with queue := s.queue.finish i, places := s.places.eraseIdx i }
  | closed (hopen : s.queue.isClosed = false) : Step s .closed { s with queue := s.queue.close }
  | leftClosed (hclosed : s.queue.isClosed = true) : Step s .leftClosed s
  | drained (hclosed : s.queue.isClosed = true) (hempty : s.queue.waiting = [])
      (hfree : s.queue.inHand = none) : Step s .drained { s with drained := true }
  | returned (hdrained : s.drained = true)
      (hplaces : s.queue.running.length + s.queue.lastPlaces ≤ s.queue.concurrency) :
      Step s .returned s
  | idle (hzero : s.counted = 0) : Step s .idle s
  | elsewhere (p : Pipeline) : Step s .elsewhere { s with pipeline := p }

/-- What happened since a queue was started, oldest first, and what became of it. -/
inductive History (capacity concurrency : Nat) : List Note → Background → Prop
  | started (executor : Executor) (pipeline : Pipeline) :
      History capacity concurrency []
        { queue := .new capacity concurrency executor, pipeline }
  | step {past : List Note} {s t : Background} {note : Note}
      (h : History capacity concurrency past s) (hstep : Step s note t) :
      History capacity concurrency (past ++ [note]) t

/-- The task to which a note says this happened. -/
def Note.task? (act : Act) : Note → Option Task
  | .of other task => if other = act then some task else none
  | _ => none

/-- The tasks to which this happened, in order. -/
def tasks (act : Act) (past : List Note) : List Task := past.filterMap (Note.task? act)

@[simp] theorem tasks_concat (act : Act) (past : List Note) (note : Note) :
    tasks act (past ++ [note]) = tasks act past ++ (note.task? act).toList := by
  cases h : note.task? act <;> simp [tasks, h]

variable {capacity concurrency : Nat} {past : List Note} {s t : Background} {note : Note}

/-! ## Where the tasks are -/

section
variable {β : Type} {l : List β} {i : Nat} {x : β}

theorem perm_cons_eraseIdx (h : l[i]? = some x) : l.Perm (x :: l.eraseIdx i) := by
  obtain ⟨hi, rfl⟩ := List.getElem?_eq_some_iff.1 h
  exact (List.getElem_cons_eraseIdx_perm hi).symm

theorem set_perm (h : l[i]? = some x) (y : β) : (l.set i y).Perm (y :: l.eraseIdx i) :=
  List.set_perm_cons_eraseIdx (List.getElem?_eq_some_iff.1 h).1 y

theorem map_set_of_same {γ : Type} (f : β → γ) (h : l[i]? = some x) (y : β) (hsame : f y = f x) :
    (l.set i y).map f = l.map f := by
  have hthere : (l.map f)[i]? = some (f y) := by simp [h, hsame]
  obtain ⟨hi, hget⟩ := List.getElem?_eq_some_iff.1 hthere
  rw [List.map_set, ← hget, List.set_getElem_self]

theorem countP_eq_eraseIdx_add (h : l[i]? = some x) (p : β → Bool) :
    l.countP p = (l.eraseIdx i).countP p + if p x then 1 else 0 := by
  rw [(perm_cons_eraseIdx h).countP_eq, List.countP_cons]

theorem countP_set (h : l[i]? = some x) (p : β → Bool) (y : β) :
    (l.set i y).countP p = (l.eraseIdx i).countP p + if p y then 1 else 0 := by
  rw [(set_perm h y).countP_eq, List.countP_cons]

end

/-- A call ends when its task is sent or kept. -/
theorem Step.calls (h : Step s note t) :
    (s.calls.map Prod.fst ++ (note.task? .call).toList).Perm
      ((note.task? .send).toList ++ (note.task? .keep).toList ++ t.calls.map Prod.fst) := by
  cases h with
  | call task => simp [Note.task?]
  | send hcall _ => simpa [Note.task?] using (perm_cons_eraseIdx hcall).map Prod.fst
  | keep hcall => simpa [Note.task?] using (perm_cons_eraseIdx hcall).map Prod.fst
  | @refuse i task hcall _ =>
    simp [Note.task?, map_set_of_same Prod.fst hcall (task, .refused) rfl]
  | @uncount i task hcall =>
    simp [Note.task?, map_set_of_same Prod.fst hcall (task, .uncounted) rfl]
  | _ => simp [Note.task?]

/-- Tasks pass through the queue and through the hands of the dispatcher in order. -/
theorem Step.order (h : Step s note t) :
    s.queue.inHand.toList ++ s.queue.waiting ++ (note.task? .send).toList =
      (note.task? .start).toList ++ t.queue.inHand.toList ++ t.queue.waiting := by
  cases h with
  | send _ htaken =>
    obtain ⟨-, rfl⟩ := TaskQueue.submit?_eq_some htaken
    simp [Note.task?]
  | receive hfree hwaits =>
    simp [Note.task?, TaskQueue.receive_of_waiting hfree hwaits, hfree, hwaits]
  | start hhand hroom _ => simp [Note.task?, TaskQueue.start_of_room hhand hroom, hhand]
  | _ => simp [Note.task?, TaskQueue.finish, TaskQueue.close]

/-- A task that was started runs until it ends. -/
theorem Step.unfinished (h : Step s note t) :
    (s.unfinished ++ (note.task? .start).toList).Perm
      ((note.task? .finish).toList ++ t.unfinished) := by
  unfold Background.unfinished
  cases h with
  | start hhand hroom _ => simp [Note.task?]
  | @finish i task hplace =>
    have hsame := ((perm_cons_eraseIdx hplace).filter fun place => !place.2).map Prod.fst
    have hends := ((set_perm hplace (task, true)).filter fun place => !place.2).map Prod.fst
    simp only [List.filter_cons, Bool.not_false, Bool.not_true, Bool.false_eq_true, if_true,
      if_false, List.map_cons] at hsame hends
    simpa [Note.task?] using hsame.trans (hends.symm.cons task)
  | release hplace =>
    simpa [Note.task?] using ((perm_cons_eraseIdx hplace).filter fun place => !place.2).map Prod.fst
  | _ => simp [Note.task?]

/-! ## The count and the places -/

/-- The count is that of the tasks that wait or were received and have not ended, and of those
that are being submitted; no more tasks run than there are places; and the dispatcher leaves
nothing behind. -/
structure Sound (capacity concurrency : Nat) (s : Background) : Prop where
  counted : s.counted = s.queue.waiting.length + s.received.length + s.undecided
  placed : s.places.map Prod.fst = s.queue.running
  room : s.queue.capacity = max capacity 1
  limit : s.queue.concurrency = max concurrency 1
  few : s.queue.running.length ≤ s.queue.concurrency
  left : s.drained = true →
    s.queue.isClosed = true ∧ s.queue.waiting = [] ∧ s.queue.inHand = none

theorem sound_started (capacity concurrency : Nat) (executor : Executor) (pipeline : Pipeline) :
    Sound capacity concurrency { queue := .new capacity concurrency executor, pipeline } where
  counted := rfl
  placed := rfl
  room := rfl
  limit := rfl
  few := Nat.zero_le _
  left := fun h => nomatch h

/-- A call is in the count for its task until the queue has it or the count is given back. -/
theorem Step.undecided (h : Step s note t) :
    s.undecided + (note.task? .call).toList.length =
      (note.task? .send).toList.length + (note.task? .uncount).toList.length + t.undecided := by
  unfold Background.undecided
  cases h with
  | call task => simp [Note.task?]
  | send hcall _ =>
    rw [countP_eq_eraseIdx_add hcall]
    simp [Note.task?, Nat.add_comm]
  | refuse hcall _ =>
    rw [countP_eq_eraseIdx_add hcall, countP_set hcall]
    simp [Note.task?]
  | uncount hcall =>
    rw [countP_eq_eraseIdx_add hcall, countP_set hcall]
    simp [Note.task?, Nat.add_comm]
  | keep hcall =>
    rw [countP_eq_eraseIdx_add hcall]
    simp [Note.task?]
  | _ => simp [Note.task?]

/-- The count goes up with a call, and down when a call or a task gives its count back. -/
theorem Step.counter (h : Step s note t) :
    t.counted = s.counted + (note.task? .call).toList.length -
      (note.task? .uncount).toList.length - (note.task? .finish).toList.length := by
  cases h <;> simp [Note.task?]

/-- The places that are taken are those of the tasks that run. -/
theorem Step.placed (h : Step s note t) (hs : s.places.map Prod.fst = s.queue.running) :
    t.places.map Prod.fst = t.queue.running := by
  cases h with
  | send _ htaken =>
    obtain ⟨-, rfl⟩ := TaskQueue.submit?_eq_some htaken
    exact hs
  | receive hfree hwaits => simpa [TaskQueue.receive_of_waiting hfree hwaits] using hs
  | start hhand hroom _ => simp [TaskQueue.start_of_room hhand hroom, hs]
  | @finish i task hplace =>
    exact (map_set_of_same Prod.fst hplace (task, true) rfl).trans hs
  | release _ =>
    show (s.places.eraseIdx _).map Prod.fst = s.queue.running.eraseIdx _
    rw [← hs, List.eraseIdx_map]
  | _ => exact hs

/-- What was settled when the queue was started stays. -/
theorem Step.bounds (h : Step s note t) :
    t.queue.capacity = s.queue.capacity ∧ t.queue.concurrency = s.queue.concurrency := by
  cases h with
  | send _ htaken =>
    obtain ⟨-, rfl⟩ := TaskQueue.submit?_eq_some htaken
    exact ⟨rfl, rfl⟩
  | receive hfree hwaits => simp [TaskQueue.receive_of_waiting hfree hwaits]
  | start hhand hroom _ => simp [TaskQueue.start_of_room hhand hroom]
  | _ => exact ⟨rfl, rfl⟩

/-- A task starts only where there is a place for it. -/
theorem Step.few (h : Step s note t) (hs : s.queue.running.length ≤ s.queue.concurrency) :
    t.queue.running.length ≤ t.queue.concurrency := by
  cases h with
  | send _ htaken =>
    obtain ⟨-, rfl⟩ := TaskQueue.submit?_eq_some htaken
    exact hs
  | receive hfree hwaits => simpa [TaskQueue.receive_of_waiting hfree hwaits] using hs
  | start hhand hroom _ => simpa [TaskQueue.start_of_room hhand hroom] using Nat.succ_le_of_lt hroom
  | release _ => exact Nat.le_trans (List.length_eraseIdx_le _ _) hs
  | _ => exact hs

/-- The queue is closed once, and for good. -/
theorem Step.isClosed_iff (h : Step s note t) :
    t.queue.isClosed = true ↔ s.queue.isClosed = true ∨ note = .closed := by
  cases h with
  | send _ htaken =>
    obtain ⟨-, rfl⟩ := TaskQueue.submit?_eq_some htaken
    simp
  | receive hfree hwaits => simp [TaskQueue.receive_of_waiting hfree hwaits]
  | start hhand hroom _ => simp [TaskQueue.start_of_room hhand hroom]
  | closed hopen => simp [TaskQueue.close]
  | _ => simp [TaskQueue.finish]

theorem Step.sends_nothing (h : Step s note t) (hclosed : s.queue.isClosed = true) :
    (note.task? .send).toList = [] := by
  cases h with
  | send _ htaken =>
    rw [TaskQueue.submit?_eq_none_iff.2 (.inl hclosed)] at htaken
    cases htaken
  | _ => rfl

theorem Sound.step (hs : Sound capacity concurrency s) (h : Step s note t) :
    Sound capacity concurrency t := by
  obtain ⟨hroom, hlimit⟩ := h.bounds
  refine ⟨?_, h.placed hs.placed, hroom.trans hs.room, hlimit.trans hs.limit, h.few hs.few, ?_⟩
  · have hcounted := hs.counted
    have horder := congrArg List.length h.order
    have hruns := h.unfinished.length_eq
    have hundecided := h.undecided
    have hcounter := h.counter
    simp only [received, List.length_append] at hcounted horder hruns ⊢
    omega
  · intro hleft
    by_cases hbefore : s.drained = true
    · -- Nothing is sent any more, so what was empty stays empty.
      obtain ⟨hclosed, hwaits, hhand⟩ := hs.left hbefore
      have hstays := h.isClosed_iff.2 (.inl hclosed)
      have horder := h.order
      rw [hwaits, hhand, h.sends_nothing hclosed] at horder
      have hempty := List.append_eq_nil_iff.1 horder.symm
      have hfirst := List.append_eq_nil_iff.1 hempty.1
      exact ⟨hstays, hempty.2, by simpa using hfirst.2⟩
    · cases h with
      | drained hclosed hempty hfree => exact ⟨hclosed, hempty, hfree⟩
      | _ => exact absurd hleft hbefore

theorem History.sound (h : History capacity concurrency past s) :
    Sound capacity concurrency s := by
  induction h with
  | started executor pipeline => exact sound_started capacity concurrency executor pipeline
  | step _ hstep ih => exact ih.step hstep

end Background

end CrashReporter
