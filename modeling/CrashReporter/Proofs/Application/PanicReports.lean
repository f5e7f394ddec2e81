import CrashReporter.Proofs.Application.Life
import CrashReporter.Proofs.TaskQueue
import Mathlib.Algebra.GroupWithZero.Nat

-- What reports of panics leave to the background. Each hook that reports one hands the queue at
-- most one more task; the queue is otherwise as it was, and so are the hooks and the observers.
-- And what the queue makes of its tasks loses none of them.

namespace CrashReporter

open Application

/-! ## More tasks -/

/-- The queue has at most so many more tasks that wait, and is otherwise as it was; and so are the
hooks and the observers. -/
structure Burdens (n : Nat) (a b : Application) : Prop where
  hooks : b.hooks = a.hooks
  observers : b.client.bus.observers = a.client.bus.observers
  queue : ∃ new : List Task, new.length ≤ n ∧
    b.client.queue = { a.client.queue with waiting := a.client.queue.waiting ++ new }

namespace Burdens

variable {m n : Nat} {a b c : Application} {alarm : Alarm}

theorem of_same (hhooks : b.hooks = a.hooks)
    (hobservers : b.client.bus.observers = a.client.bus.observers)
    (hqueue : b.client.queue = a.client.queue) : Burdens 0 a b :=
  ⟨hhooks, hobservers, [], Nat.le_refl 0, by rw [List.append_nil, hqueue]⟩

theorem refl (a : Application) : Burdens 0 a a := of_same rfl rfl rfl

theorem trans (h : Burdens m a b) (hnext : Burdens n b c) : Burdens (m + n) a c := by
  obtain ⟨hhooks, hobservers, new, hnew, hqueue⟩ := h
  obtain ⟨hhooks', hobservers', more, hmore, hqueue'⟩ := hnext
  refine ⟨hhooks'.trans hhooks, hobservers'.trans hobservers, new ++ more, ?_, ?_⟩
  · rw [List.length_append]
    exact Nat.add_le_add hnew hmore
  · rw [hqueue', hqueue, List.append_assoc]

theorem mono (h : Burdens m a b) (hle : m ≤ n) : Burdens n a b := by
  obtain ⟨hhooks, hobservers, new, hnew, hqueue⟩ := h
  exact ⟨hhooks, hobservers, new, hnew.trans hle, hqueue⟩

/-- What changes neither the hooks nor the observers nor the queue leaves no task. -/
theorem congr_right (h : Burdens n a b) (hhooks : c.hooks = b.hooks)
    (hobservers : c.client.bus.observers = b.client.bus.observers)
    (hqueue : c.client.queue = b.client.queue) : Burdens n a c :=
  h.trans (of_same hhooks hobservers hqueue)

/-- What is done with one panic leaves at most so many tasks, under these hooks. -/
def Each (n : Nat) (hooks : List Hook) (alarm : Alarm) : Prop :=
  ∀ panic b, b.hooks = hooks → Burdens n b (alarm panic b)

theorem each_silent (hooks : List Hook) : Each 0 hooks silent := fun _ b _ => refl b

/-- A list of steps that each leave at most as many tasks as they count for. -/
theorem foldl {β : Type} {step : Application → β → Application} {count : β → Nat}
    {hooks : List Hook}
    (hstep : ∀ (b : Application) (x : β), b.hooks = hooks → Burdens (count x) b (step b x))
    (hhooks : a.hooks = hooks) (xs : List β) :
    Burdens (xs.map count).sum a (xs.foldl step a) := by
  induction xs generalizing a with
  | nil => exact refl a
  | cons x rest ih =>
    have hfirst := hstep a x hhooks
    exact hfirst.trans (ih (hfirst.hooks.trans hhooks))

/-- Steps that leave no task leave none together. -/
theorem foldl_none {β : Type} {step : Application → β → Application}
    (hstep : ∀ (b : Application) (x : β), Burdens 0 b (step b x)) (xs : List β) :
    Burdens 0 a (xs.foldl step a) := by
  have heach : ∀ (b : Application) (x : β), b.hooks = a.hooks →
      Burdens ((fun _ => 0) x) b (step b x) := fun b x _ => hstep b x
  have hall := foldl heach rfl xs
  simpa using hall

/-! ### Telling -/

theorem note (a : Application) (entry : JournalEntry) : Burdens 0 a (a.note entry) :=
  of_same rfl rfl rfl

theorem observe (heach : Each n a.hooks alarm) (event : StateEvent) (o : Observer) :
    Burdens (if (o.panics event).isSome then n else 0) a (a.observe alarm event o) := by
  have hnoted := note a (.sighting ⟨o.label, event⟩)
  unfold Application.observe
  cases hpanics : o.panics event with
  | none => exact hnoted
  | some panic => simpa using hnoted.trans (heach panic (a.note _) rfl)

theorem tell (heach : Each n a.hooks alarm) (event : StateEvent) :
    Burdens (n * a.client.bus.observers.countP fun o => (o.2.panics event).isSome) a
      (a.tell alarm event) := by
  have hsum : ∀ observers : List (ObserverId × Observer),
      (observers.map fun o => if (o.2.panics event).isSome then n else 0).sum =
        n * observers.countP fun o => (o.2.panics event).isSome := by
    intro observers
    induction observers with
    | nil => rfl
    | cons o rest ih =>
      rw [List.map_cons, List.sum_cons, ih, List.countP_cons]
      split <;> simp_all [Nat.mul_add, Nat.add_comm]
  have hnoted := note a (.told a.client.queue.executor event)
  have hobserved := foldl
    (fun b (o : ObserverId × Observer) (hb : b.hooks = a.hooks) =>
      observe (hb ▸ heach) event o.2) hnoted.hooks a.client.bus.observers
  have hbroadcast : ∀ b : Application, Burdens 0 b
      (b.changeClient fun c => { c with bus := c.bus.broadcast event }) :=
    fun _ => of_same rfl rfl rfl
  have hall := (hnoted.trans hobserved).trans (hbroadcast _)
  rw [Nat.zero_add, Nat.add_zero, hsum] at hall
  exact hall

theorem heed_silent (a : Application) (incidents : List Incident) :
    Burdens 0 a (a.heed silent incidents) := by
  refine foldl_none ?_ incidents
  intro b incident
  cases incident with
  | remark text => exact note b _
  | panic panic => exact refl b

theorem tellAll_silent (a : Application) (events : List StateEvent) :
    Burdens 0 a (a.tellAll silent events) := by
  refine foldl_none ?_ events
  intro b event
  have htold := tell (each_silent b.hooks) event
  rwa [Nat.zero_mul] at htold

/-! ### Reports -/

theorem addBreadcrumb_silent (a : Application) (b : Breadcrumb) :
    Burdens 0 a (a.addBreadcrumb silent b) := by
  have hcalled : Burdens 0 a (a.changeClient fun c =>
      { c with onBreadcrumb := (a.client.onBreadcrumb.run b).chain }) := of_same rfl rfl rfl
  have hheeded := hcalled.trans (heed_silent _ (a.client.onBreadcrumb.run b).incidents)
  unfold Application.addBreadcrumb
  simp only
  split
  · have hkept : ∀ (x : Application) (ring : BreadcrumbRing),
        Burdens 0 x (x.changeClient fun c => { c with ring }) := fun _ _ => of_same rfl rfl rfl
    exact (hheeded.trans (hkept _ _)).trans (tellAll_silent _ _)
  · exact hheeded

theorem leaveErrorBreadcrumb_silent (a : Application) (event : Event) :
    Burdens 0 a (a.leaveErrorBreadcrumb silent event) := by
  unfold Application.leaveErrorBreadcrumb
  cases event.errors.head? with
  | none => exact refl a
  | some error => exact addBreadcrumb_silent a _

theorem countEvent (a : Application) (event : Event) (session : Option Nat) :
    Burdens 0 a (a.countEvent event session).1 := by
  unfold Application.countEvent
  cases event.session.isNone with
  | true => exact refl a
  | false =>
    cases session with
    | none => exact refl a
    | some number => exact of_same rfl rfl rfl

theorem submit (a : Application) (task : Task) : Burdens 1 a (a.submit task) := by
  cases hsubmit : a.client.queue.submit? task with
  | none =>
    rw [submit_of_full hsubmit]
    exact mono (of_same rfl rfl rfl) (Nat.zero_le 1)
  | some q =>
    rw [submit_of_room hsubmit]
    exact ⟨rfl, rfl, [task], Nat.le_refl 1, (TaskQueue.submit?_eq_some hsubmit).2⟩

theorem dispatchEvent (a : Application) (event : Event) : Burdens 1 a (a.dispatchEvent event) := by
  unfold Application.dispatchEvent
  split
  · have hstored : Burdens 0 a (a.persistEvent event) := of_same rfl rfl rfl
    exact hstored.trans (submit _ _)
  · exact submit a _

theorem runErrorCallbacks_silent (a : Application) (event : Event)
    (lastly : Option (Callback Event)) :
    Burdens 0 a (a.runErrorCallbacks silent event lastly).1 := by
  have hcalled : ∀ onError, Burdens 0 a (a.changeClient fun c => { c with onError }) :=
    fun _ => of_same rfl rfl rfl
  unfold Application.runErrorCallbacks
  exact (hcalled _).trans (heed_silent _ _)

/-- A report leaves one task at most. -/
theorem report_silent (a : Application) (event : Event) (extra : Metadata)
    (lastly : Option (Callback Event)) : Burdens 1 a (a.report silent event extra lastly) := by
  unfold Application.report
  split
  · exact (refl a).mono (Nat.zero_le 1)
  · have hrun := runErrorCallbacks_silent a (a.client.describe a.now event extra) lastly
    generalize a.runErrorCallbacks silent (a.client.describe a.now event extra) lastly = run at hrun
    obtain ⟨b, left, proceed⟩ := run
    cases proceed with
    | false => exact hrun.mono (Nat.zero_le 1)
    | true =>
      have hcounted := hrun.trans (countEvent b left a.client.attachedSession?)
      exact (hcounted.trans (dispatchEvent _ _)).trans (leaveErrorBreadcrumb_silent _ _)

theorem callHook (a : Application) (panic : Panic) (hook : Hook) :
    Burdens 1 a (a.callHook panic hook) := by
  cases hook with
  | current =>
    unfold Application.callHook Application.reportPanic reportUnhandled
    exact report_silent a _ _ _
  | earlier index =>
    unfold Application.callHook withEarlier
    cases hearlier : a.earlier[index]? with
    | none =>
      simp only [hearlier]
      exact (refl a).mono (Nat.zero_le 1)
    | some earlier =>
      -- An earlier client has a queue of its own.
      simp only [hearlier]
      refine mono (of_same ?_ rfl rfl) (Nat.zero_le 1)
      unfold Application.reportPanic reportUnhandled
      exact (report_silent _ _ _ _).hooks.trans rfl

/-- Each hook leaves one task at most. -/
theorem each_loud (hooks : List Hook) : Each hooks.length hooks loud := by
  intro panic b hb
  have hall := foldl (fun c hook _ => callHook c panic hook) hb hooks
  unfold loud
  rw [hb]
  simpa using hall

end Burdens

/-! ## The next task -/

namespace TaskQueue

variable (q : TaskQueue)

theorem pending_receive : q.receive.pending = q.pending := by
  unfold receive
  split
  · next hhand hwaits =>
    simp [pending, hhand, hwaits]
  · rfl

theorem pending_start : q.start.pending = q.pending := by
  unfold start
  split
  · next hhand =>
    split
    · simp [pending, hhand]
      omega
    · rfl
  · rfl

/-- Dispatching loses no task. -/
theorem pending_dispatch : q.dispatch.pending = q.pending := by
  have hall : ∀ (tasks : List Task) (r : TaskQueue),
      (tasks.foldl (fun q _ => q.receive.start) r).pending = r.pending := by
    intro tasks
    induction tasks with
    | nil => exact fun _ => rfl
    | cons task rest ih =>
      intro r
      rw [List.foldl_cons, ih, pending_start, pending_receive]
  exact (hall _ _).trans q.pending_start

theorem pending_next : q.next.1.pending = q.pending := by
  unfold next
  split
  · exact q.pending_dispatch
  · rfl

theorem concurrency_receive : q.receive.concurrency = q.concurrency := by
  unfold receive
  split <;> rfl

theorem concurrency_start : q.start.concurrency = q.concurrency := by
  unfold start
  split
  · split <;> rfl
  · rfl

theorem concurrency_next : q.next.1.concurrency = q.concurrency := by
  have hall : ∀ (tasks : List Task) (r : TaskQueue),
      (tasks.foldl (fun q _ => q.receive.start) r).concurrency = r.concurrency := by
    intro tasks
    induction tasks with
    | nil => exact fun _ => rfl
    | cons task rest ih =>
      intro r
      rw [List.foldl_cons, ih, concurrency_start, concurrency_receive]
  unfold next
  split
  · exact (hall _ _).trans q.concurrency_start
  · rfl

variable {q}

theorem running_receive : q.receive.running = q.running := by
  unfold receive
  split <;> rfl

/-- What was started goes on. -/
theorem running_start_ne_nil (h : q.running ≠ []) : q.start.running ≠ [] := by
  unfold start
  split
  · split
    · simp
    · exact h
  · exact h

/-- Where there is a place, the dispatcher starts what it holds. -/
theorem running_start_of_inHand (hplace : 0 < q.concurrency) {task : Task}
    (hhand : q.inHand = some task) : q.start.running ≠ [] := by
  cases hrunning : q.running with
  | nil => simp [start_of_room hhand (by simpa [hrunning] using hplace)]
  | cons first rest => exact running_start_ne_nil (by simp [hrunning])

/-- Once something runs, dispatching more leaves something running. -/
theorem running_foldl_ne_nil (tasks : List Task) (h : q.running ≠ []) :
    (tasks.foldl (fun q _ => q.receive.start) q).running ≠ [] := by
  induction tasks generalizing q with
  | nil => exact h
  | cons task rest ih => exact ih (running_start_ne_nil (by rwa [running_receive]))

/-- Where there is a place, a queue with tasks has a next one. -/
theorem next_eq_none (hplace : 0 < q.concurrency) (h : q.next.2 = none) : q.pending = 0 := by
  have hrunning : q.running = [] := by
    cases hrunning : q.running with
    | nil => rfl
    | cons first rest => simp [next, hrunning] at h
  have hdispatch : q.dispatch.running = [] := by
    simpa [next, hrunning, List.head?_eq_none_iff] using h
  unfold dispatch at hdispatch
  have hhand : q.inHand = none := by
    cases hhand : q.inHand with
    | none => rfl
    | some task =>
      exact absurd hdispatch (running_foldl_ne_nil _ (running_start_of_inHand hplace hhand))
  have hwaiting : q.waiting = [] := by
    cases hwaits : q.waiting with
    | nil => rfl
    | cons task rest =>
      have hstart : q.start = q := by simp [start, hhand]
      rw [hwaits, hstart, List.foldl_cons, receive_of_waiting hhand hwaits] at hdispatch
      have htaken := running_start_of_inHand (q := { q with waiting := rest, inHand := some task })
        hplace rfl
      exact absurd hdispatch (running_foldl_ne_nil rest htaken)
  simp [pending, hrunning, hhand, hwaiting]

end TaskQueue

end CrashReporter
