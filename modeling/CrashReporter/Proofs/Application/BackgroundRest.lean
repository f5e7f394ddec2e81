import CrashReporter.Proofs.Application.Course
import CrashReporter.Proofs.Application.PanicReports
import CrashReporter.Proofs.Pipeline.SessionTraffic
import CrashReporter.Proofs.Store.Decoding
import CrashReporter.Proofs.Store.Contents

-- The background at work while the host rests. It does one task after the other, and each task
-- beyond those that were there is owed to a hook that reported a panic. So it comes to rest if the
-- panics do; while sending panics each time it does not, since every report is sent in its turn.

namespace CrashReporter

open Application

/-! ## Work -/

/-- The background does so many tasks one after the other, on one thread. -/
inductive Work : Nat → Application → List (Flight × Answer) → Application → Prop
  | rest (a : Application) : Work 0 a [] a
  | task {n : Nat} {a b c d : Application} {task : Task} {sent more : List (Flight × Answer)}
      {outcome : Outcome} (hnext : a.nextTask = (b, some task))
      (hcourse : Course (b.begin task) sent c outcome) (hrest : Work n c.finishTask more d) :
      Work (n + 1) a (sent ++ more) d

def Answer.isPanic : Answer → Bool
  | .panic _ => true
  | .status _ => false

/-- How many panics an answer comes with: that of the transport, and those of the observers that
are told of it. -/
def Application.panicsAt (a : Application) (e : Flight × Answer) : Nat :=
  e.2.isPanic.toNat + a.client.bus.observers.countP fun o =>
    (o.2.panics (Pipeline.report e.1 e.2.outcome)).isSome

/-- How many panics all answers come with. -/
def Application.panicsOf (a : Application) (sent : List (Flight × Answer)) : Nat :=
  (sent.map a.panicsAt).sum

namespace Burdens

variable {n : Nat} {a b : Application} {sent : List (Flight × Answer)}

theorem panicsOf (h : Burdens n a b) (sent : List (Flight × Answer)) :
    b.panicsOf sent = a.panicsOf sent := by
  unfold Application.panicsOf Application.panicsAt
  rw [h.observers]

/-- An answer leaves as many tasks as there are hooks for each panic that it comes with. -/
theorem answer (a : Application) (flight : Flight) (reply : Answer) :
    Burdens (a.hooks.length * a.panicsAt (flight, reply)) a
      (a.answer loud flight reply).1 := by
  have halarmed : Burdens (a.hooks.length * reply.isPanic.toNat) a (a.alarmed loud reply) := by
    cases reply with
    | status status => exact refl a
    | panic panic => exact (each_loud a.hooks panic a rfl).mono (by simp [Answer.isPanic])
  have htold := tell (a := a.alarmed loud reply)
    (halarmed.hooks ▸ each_loud a.hooks) (Pipeline.report flight reply.outcome)
  have hboth := halarmed.trans htold
  rw [halarmed.hooks, halarmed.observers, ← Nat.mul_add] at hboth
  rw [answer_eq]
  exact hboth.congr_right rfl rfl rfl

theorem course {step : Application × Progress} {outcome : Outcome}
    (h : Course step sent b outcome) :
    Burdens (step.1.hooks.length * step.1.panicsOf sent) step.1 b := by
  induction h with
  | arrived a outcome => exact refl a
  | @answered a b flight reply rest outcome _ ih =>
    have hanswer := answer a flight reply
    rw [hanswer.hooks, hanswer.panicsOf] at ih
    have hall := hanswer.trans ih
    rw [← Nat.mul_add] at hall
    exact hall

end Burdens

/-- The task that is next was started. -/
theorem Application.nextTask_eq_some {a b : Application} {task : Task}
    (h : a.nextTask = (b, some task)) :
    b.hooks = a.hooks ∧ b.client.bus = a.client.bus ∧
      b.client.queue = a.client.queue.next.1 ∧ b.client.queue.running ≠ [] := by
  unfold nextTask at h
  obtain ⟨rfl, htask⟩ := Prod.mk.inj h
  refine ⟨rfl, rfl, rfl, ?_⟩
  intro hnone
  have hhead : a.client.queue.next.1.running.head? = some task := htask
  rw [show a.client.queue.next.1.running = [] from hnone] at hhead
  cases hhead

namespace Work

variable {n : Nat} {a b c : Application} {task : Task} {sent more : List (Flight × Answer)}
  {outcome : Outcome}

/-- One task: the queue has one task less, and those that panics led to. -/
theorem once (hnext : a.nextTask = (b, some task))
    (hcourse : Course (b.begin task) sent c outcome) :
    c.finishTask.hooks = a.hooks ∧
      c.finishTask.client.bus.observers = a.client.bus.observers ∧
      c.finishTask.client.queue.concurrency = a.client.queue.concurrency ∧
      1 + c.finishTask.client.queue.pending ≤
        a.client.queue.pending + a.hooks.length * a.panicsOf sent := by
  obtain ⟨hhooks, hbus, hqueue, hrunning⟩ := nextTask_eq_some hnext
  have hcount : b.panicsOf sent = a.panicsOf sent := by
    unfold panicsOf panicsAt
    rw [hbus]
  obtain ⟨hhooks', hobservers', new, hnew, hqueue'⟩ := Burdens.course hcourse
  change new.length ≤ b.hooks.length * b.panicsOf sent at hnew
  change c.client.queue =
    { b.client.queue with waiting := b.client.queue.waiting ++ new } at hqueue'
  rw [hhooks, hcount] at hnew
  have hbefore := a.client.queue.pending_next
  rw [← hqueue] at hbefore
  have hfinished : 1 + c.finishTask.client.queue.pending = b.client.queue.pending + new.length := by
    obtain ⟨first, others, hfirst⟩ := List.exists_cons_of_ne_nil hrunning
    simp only [finishTask, changeClient, TaskQueue.finish, TaskQueue.pending, hqueue', hfirst,
      List.eraseIdx_cons_zero, List.length_append, List.length_cons]
    omega
  refine ⟨hhooks'.trans hhooks, hobservers'.trans (congrArg _ hbus), ?_, by omega⟩
  show c.client.queue.concurrency = _
  rw [hqueue']
  exact (congrArg _ hqueue).trans a.client.queue.concurrency_next

/-- However long the background works, it does no more than the tasks that it had, and one for
each hook and each panic. -/
theorem bounded (h : Work n a sent b) :
    n + b.client.queue.pending ≤ a.client.queue.pending + a.hooks.length * a.panicsOf sent := by
  induction h with
  | rest a => simp
  | @task n a b c d task sent more outcome hnext hcourse _ ih =>
    obtain ⟨hhooks, hobservers, -, honce⟩ := once hnext hcourse
    have hcount : c.finishTask.panicsOf more = a.panicsOf more := by
      unfold panicsOf panicsAt
      rw [hobservers]
    have hsum : a.panicsOf (sent ++ more) = a.panicsOf sent + a.panicsOf more := by
      simp [panicsOf]
    rw [hhooks, hcount] at ih
    rw [hsum, Nat.mul_add]
    omega

/-- However it is answered, the background goes on until it has done so many tasks or none is
left. -/
theorem goes_on (hplace : 0 < a.client.queue.concurrency) (replies : Nat → Answer) (most : Nat) :
    ∃ n sent b, Work n a sent b ∧ sent.map (·.2) = (List.range sent.length).map replies ∧
      (n = most ∨ b.client.queue.pending = 0) := by
  induction most generalizing a replies with
  | zero => exact ⟨0, [], a, .rest a, rfl, .inl rfl⟩
  | succ most ih =>
    cases hnext : a.nextTask with
    | mk b next =>
      cases next with
      | none =>
        exact ⟨0, [], a, .rest a, rfl,
          .inr (TaskQueue.next_eq_none hplace (congrArg Prod.snd hnext))⟩
      | some task =>
        obtain ⟨sent, c, outcome, hcourse, hreplies⟩ := Ends.begin b task replies
        obtain ⟨_, _, hsame, _⟩ := once hnext hcourse
        obtain ⟨n, more, d, hwork, hmore, hend⟩ :=
          ih (a := c.finishTask) (hsame ▸ hplace) fun i => replies (sent.length + i)
        refine ⟨n + 1, sent ++ more, d, .task hnext hcourse hwork, ?_, ?_⟩
        · rw [List.map_append, hreplies, hmore, List.length_append, List.range_add,
            List.map_append, List.map_map]
          rfl
        · rcases hend with rfl | hrests
          · exact .inl rfl
          · exact .inr hrests

end Work

/-- Where no observer panics at an outcome, only the collector's answers come with panics. -/
theorem Application.panicsOf_of_calm {a : Application}
    (hcalm : ∀ o ∈ a.client.bus.observers, ∀ kind status,
      o.2.panics (.deliveryOutcome kind status) = none) (sent : List (Flight × Answer)) :
    a.panicsOf sent = (sent.map (·.2)).countP Answer.isPanic := by
  have hone : ∀ e : Flight × Answer, a.panicsAt e = e.2.isPanic.toNat := by
    intro e
    unfold panicsAt
    rw [List.countP_eq_zero.2, Nat.add_zero]
    intro o ho
    simp [Pipeline.report, hcalm o ho]
  induction sent with
  | nil => rfl
  | cons e rest ih =>
    have hsum : a.panicsOf (e :: rest) = a.panicsAt e + a.panicsOf rest := List.sum_cons
    rw [hsum, ih, hone, List.map_cons, List.countP_cons]
    cases e.2.isPanic <;> simp [Nat.add_comm]

/-! ## The law -/

/-- The background comes to rest if the panics do. Each task beyond those that were there is owed
to a hook that reported a panic. So where the collector's answers hold no more than so many panics
and no observer panics at an outcome, no task is left after finitely many, however the collector
answers otherwise. -/
theorem the_background_rests_if_panics_do {a : Application} {replies : Nat → Answer} {most : Nat}
    (hplace : 0 < a.client.queue.concurrency)
    (hcalm : ∀ o ∈ a.client.bus.observers, ∀ kind status,
      o.2.panics (.deliveryOutcome kind status) = none)
    (hfew : ∀ n, (List.range n).countP (fun i => (replies i).isPanic) ≤ most) :
    (∀ n sent b, Work n a sent b →
      n + b.client.queue.pending ≤ a.client.queue.pending + a.hooks.length * a.panicsOf sent) ∧
    ∃ n sent b, Work n a sent b ∧ sent.map (·.2) = (List.range sent.length).map replies ∧
      b.client.queue.pending = 0 ∧ n ≤ a.client.queue.pending + a.hooks.length * most := by
  refine ⟨fun _ _ _ => Work.bounded, ?_⟩
  have hpanics : ∀ sent : List (Flight × Answer),
      sent.map (·.2) = (List.range sent.length).map replies → a.panicsOf sent ≤ most := by
    intro sent hreplies
    rw [panicsOf_of_calm hcalm, hreplies, List.countP_map]
    exact hfew _
  obtain ⟨n, sent, b, hwork, hreplies, hend⟩ := Work.goes_on hplace replies
    (a.client.queue.pending + a.hooks.length * most + 1)
  have hbound := hwork.bounded
  have hmost := Nat.mul_le_mul_left a.hooks.length (hpanics sent hreplies)
  refine ⟨n, sent, b, hwork, hreplies, ?_, by omega⟩
  rcases hend with rfl | hrests
  · omega
  · exact hrests

/-- A launch with one thread for the background, and no breadcrumbs. -/
def loneLaunch : Launch :=
  { config := { plainLaunch.config with workerThreads := 1, enabledBreadcrumbTypes := some [] } }

/-- The client that it builds on an empty disk, with events and tasks. -/
def loneClient (events : RecordStore Event) (micros tags : Nat) (flushing : Bool)
    (queue : TaskQueue) : Client :=
  { plainClient with
    config := loneLaunch.config
    onBreadcrumb :=
      (({ name := "on_breadcrumb" } : CallbackChain Breadcrumb).add
        (Client.typeFilter loneLaunch.config)).2
    pipeline := { plainClient.pipeline with
      events
      flushingEvents := flushing
      micros
      tags }
    queue }

/-- A queue with room for two tasks, and one place. -/
def loneQueue (inHand : Option Task) (waiting running : List Task) : TaskQueue :=
  { TaskQueue.new 2 1 .owned with inHand, waiting, running }

/-- The lone client that was just launched. -/
def loneApplication : Application :=
  { plainApplication with
    client := loneClient { kind := .event, limit := 32, place := .folder Dict.empty } 0 0 false
      (loneQueue none [] []) }.greet loud

theorem launch_loneLaunch : launch loneLaunch {} ⟨0⟩ (fun n => ⟨n⟩) = .ok loneApplication := by
  rfl

def boom : Panic := ⟨.text "boom", none⟩

/-- The event that a panic of the host is reported as. -/
def boomEvent : Event :=
  loneApplication.client.describe plainApplication.now
    (.new ⟨panicClass, "boom", {}⟩ (.ofReason .unhandledPanic) plainApplication.now)
    (Metadata.empty.add "panic" "thread" (.str mainThread))

/-- The events of the client once the host has panicked. -/
def boomEvents : RecordStore Event :=
  { kind := .event
    limit := 32
    lastStamp := 1
    place := .folder (Dict.empty.insert (RecordName.ofStamp 1 0)
      (.file (.text (loneApplication.client.pipeline.events.recordText boomEvent)))) }

/-- The hook is there, and the host has panicked. -/
def boomApplication : Application :=
  (loneApplication.carryOut .installHook).carryOut (.raise boom)

theorem client_boomApplication :
    boomApplication.client = loneClient boomEvents 1 1 false
      (loneQueue none [.flushEvents, .flushSessions] []) := by
  rfl

/-- Where the transport panics twice and then takes what it is given, the background comes to rest
after four tasks at most. -/
theorem two_panics_lead_to_two_tasks :
    boomApplication.client.bus.observers = [] ∧
      ∃ n sent b, Work n boomApplication sent b ∧
        sent.map (·.2) = (List.range sent.length).map
          (fun i => if i < 2 then .panic boom else .status .delivered) ∧
        b.client.queue.pending = 0 ∧ n ≤ 4 := by
  have hplace : 0 < boomApplication.client.queue.concurrency := by
    rw [client_boomApplication]
    exact Nat.one_pos
  have hfew : ∀ n, (List.range n).countP (fun i =>
      Answer.isPanic (if i < 2 then .panic boom else .status .delivered)) ≤ 2 := by
    intro n
    have hcount : (List.range n).countP (fun i =>
        Answer.isPanic (if i < 2 then .panic boom else .status .delivered)) = min n 2 := by
      induction n with
      | zero => rfl
      | succ n ih =>
        rw [List.range_succ, List.countP_append, ih, List.countP_singleton]
        by_cases hlt : n < 2
        · simp [hlt, Answer.isPanic]
          omega
        · simp [hlt, Answer.isPanic]
          omega
    omega
  obtain ⟨-, n, sent, b, hwork, hreplies, hrests, hmost⟩ :=
    the_background_rests_if_panics_do hplace (fun o ho => nomatch ho) hfew
  exact ⟨rfl, n, sent, b, hwork, hreplies, hrests, hmost⟩

/-! ### Round and round -/

section

variable {a b c : Application} {events : RecordStore Event} {micros tags : Nat} {flushing : Bool}
  {queue : TaskQueue} {sent : List (Flight × Answer)} {outcome : Outcome}

/-- The hook stores a panic, and leaves a flush to the background. -/
theorem loud_loneClient (hclient : a.client = loneClient events micros tags flushing queue)
    (hhooks : a.hooks = [.current]) (panic : Panic) :
    ∃ event, loud panic a = (a.persistEvent event).submit .flushEvents := by
  obtain ⟨clock, thread, journal, ids, idsGiven, client, earlier, hooks⟩ := a
  obtain rfl : client = _ := hclient
  obtain rfl : hooks = _ := hhooks
  exact ⟨_, rfl⟩

/-- The first record is an event that can be read, and nothing is claimed. -/
structure Holds (events : RecordStore Event) : Prop where
  leads : events.Leads (RecordName.ofStamp 1 0)
  legible : ∃ event, events.read (RecordName.ofStamp 1 0) = .ok event
  reserved : events.reserved = []

/-- While the first record is claimed, whatever is written leaves this as it is. -/
theorem Holds.write (h : Holds events) (event : Event) (now tag : Nat) :
    Holds (({ events with reserved := events.names }.write event now tag).1.cancel
      events.names) := by
  have hleads : ({ events with reserved := events.names } : RecordStore Event).Leads
      (RecordName.ofStamp 1 0) :=
    ⟨h.leads.folder, h.leads.mem, h.leads.first, h.leads.stamp⟩
  obtain ⟨hwritten, hfound⟩ := hleads.write h.leads.mem event now tag
  obtain ⟨stored, hread⟩ := h.legible
  refine ⟨⟨hwritten.folder, hwritten.mem, hwritten.first, hwritten.stamp⟩, ⟨stored, ?_⟩, ?_⟩
  · rw [← hread]
    exact RecordStore.read_congr (RecordStore.kind_write _ _ _ _) hfound
  · simp [RecordStore.cancel]

/-- The answer to a stored event is a panic: its report is stored, another flush is left to the
background, and this one is over. -/
theorem answer_loneClient (hclient : a.client = loneClient events micros tags flushing queue)
    (hhooks : a.hooks = [.current])
    (hroom : queue.isClosed = false ∧ queue.waiting.length < queue.capacity)
    (payload : EventPayload) (flush : EventFlush) (panic : Panic) :
    ∃ event b outcome, a.answer loud (.storedEvent payload flush) (.panic panic) =
        (b, .finished outcome) ∧ b.hooks = [.current] ∧
      b.client = loneClient ((events.write event micros tags).1.cancel
          (flush.record :: flush.rest)) (micros + 1) (tags + 1) false
        { queue with waiting := queue.waiting ++ [.flushEvents] } := by
  obtain ⟨event, hreported⟩ := loud_loneClient hclient hhooks panic
  have hsubmit : (a.persistEvent event).client.queue.submit? .flushEvents =
      some { queue with waiting := queue.waiting ++ [.flushEvents] } := by
    show a.client.queue.submit? _ = _
    rw [hclient]
    simp [loneClient, TaskQueue.submit?, hroom.1, Nat.not_le.2 hroom.2]
  rw [submit_of_room hsubmit] at hreported
  rw [answer_eq, show a.alarmed loud (.panic panic) = loud panic a from rfl, hreported]
  obtain ⟨clock, thread, journal, ids, idsGiven, client, earlier, hooks⟩ := a
  obtain rfl : client = _ := hclient
  obtain rfl : hooks = _ := hhooks
  exact ⟨event, _, _, rfl, rfl, rfl⟩

/-- A flush of events whose only answer is a panic keeps the first record, and leaves another flush
to the background. -/
theorem course_flushEvents (hclient : a.client = loneClient events micros tags false queue)
    (hhooks : a.hooks = [.current]) (hholds : Holds events)
    (hroom : queue.isClosed = false ∧ queue.waiting.length < queue.capacity)
    (hcourse : Course (a.begin .flushEvents) sent c outcome)
    (hpanics : ∀ e ∈ sent, e.2.isPanic = true) :
    ∃ later micros tags, Holds later ∧ c.hooks = [.current] ∧
      c.client = loneClient later micros tags false
        { queue with waiting := queue.waiting ++ [.flushEvents] } := by
  obtain ⟨rest, hnames⟩ := hholds.leads.names_eq
  obtain ⟨f, hplace⟩ := hholds.leads.folder
  obtain ⟨event, hread⟩ := hholds.legible
  have hclaim := RecordStore.claim_of_unreserved hholds.reserved
    (RecordStore.enumerate_of_folder hplace)
  have hreads : ({ events with reserved := events.names } : RecordStore Event).read
      (RecordName.ofStamp 1 0) = .ok event := hread ▸ RecordStore.read_congr rfl rfl
  have hwrites := fun reported => hholds.write reported micros tags
  generalize ({ events with reserved := events.names } : RecordStore Event) = claimed at *
  have hflush := Pipeline.startEventFlush_of_claim
    (p := (loneClient events micros tags false queue).pipeline) rfl hclaim false
  rw [hnames, Pipeline.sendStoredEvent_of_read hreads, ← hclient] at hflush
  obtain ⟨b, flight, hbegin, hflight, hb⟩ : ∃ b payload,
      a.begin .flushEvents =
        (b, .waiting (.storedEvent payload ⟨RecordName.ofStamp 1 0, rest, {}, false⟩)) ∧
      b.hooks = [.current] ∧ b.client = loneClient claimed micros tags true queue := by
    refine ⟨_, _, congrArg a.changePipeline hflush, hhooks, ?_⟩
    show ({ a.client with pipeline := _ } : Client) = _
    rw [hclient]
    rfl
  rw [hbegin] at hcourse
  obtain _ | @⟨_, _, _, reply, more, _, hafter⟩ := hcourse
  obtain ⟨panic, rfl⟩ : ∃ panic, reply = .panic panic := by
    have hpanic := hpanics _ List.mem_cons_self
    cases reply with
    | status status => cases hpanic
    | panic panic => exact ⟨panic, rfl⟩
  obtain ⟨reported, d, outcome, hanswer, hsame, hleft⟩ := answer_loneClient hb hflight hroom flight
    ⟨RecordName.ofStamp 1 0, rest, {}, false⟩ panic
  rw [hanswer] at hafter
  cases hafter
  rw [← hnames] at hleft
  exact ⟨_, _, _, hwrites reported, hsame, hleft⟩

/-- A flush of sessions finds none. -/
theorem course_flushSessions (hclient : a.client = loneClient events micros tags flushing queue)
    (hcourse : Course (a.begin .flushSessions) sent c outcome) :
    c.hooks = a.hooks ∧ c.client = a.client := by
  obtain ⟨clock, thread, journal, ids, idsGiven, client, earlier, hooks⟩ := a
  obtain rfl : client = _ := hclient
  cases hcourse
  exact ⟨rfl, rfl⟩

/-- Where the queue stands between two tasks, from the launch on: there is always another flush of
events. -/
def roundabout : List (Option Task × List Task) :=
  [(none, [.flushEvents, .flushSessions]), (some .flushSessions, [.flushEvents]),
    (some .flushEvents, []), (none, [.flushEvents])]

/-- The hook is there, an event is stored, and another flush of events is to come. -/
def Looping (a : Application) : Prop :=
  a.hooks = [.current] ∧ ∃ events micros tags, ∃ place ∈ roundabout, Holds events ∧
    a.client = loneClient events micros tags false (loneQueue place.1 place.2 [])

/-- One task leaves the client where it was. -/
theorem Looping.task (h : Looping a) {task : Task} (hnext : a.nextTask = (b, some task))
    (hcourse : Course (b.begin task) sent c outcome) (hpanics : ∀ e ∈ sent, e.2.isPanic = true) :
    Looping c.finishTask := by
  obtain ⟨hhooks, events, micros, tags, place, hplace, hholds, hclient⟩ := h
  have hflush : ∀ inHand waiting, waiting.length < 2 → b.hooks = [.current] →
      b.client = loneClient events micros tags false (loneQueue inHand waiting [.flushEvents]) →
      task = .flushEvents → (inHand, waiting ++ [.flushEvents]) ∈ roundabout →
      Looping c.finishTask := by
    rintro inHand waiting hroom hhooks hbegun rfl hnew
    obtain ⟨later, micros, tags, hlater, hsame, hleft⟩ :=
      course_flushEvents hbegun hhooks hholds ⟨rfl, hroom⟩ hcourse hpanics
    refine ⟨hsame, later, micros, tags, _, hnew, hlater, ?_⟩
    unfold finishTask changeClient
    simp only [hleft]
    rfl
  obtain ⟨clock, thread, journal, ids, idsGiven, client, earlier, hooks⟩ := a
  obtain rfl : client = _ := hclient
  simp only [roundabout, List.mem_cons, List.not_mem_nil, or_false] at hplace
  rcases hplace with rfl | rfl | rfl | rfl
  · obtain ⟨rfl, htask⟩ := Prod.mk.inj hnext
    exact hflush (some .flushSessions) [] (by decide) hhooks rfl (Option.some.inj htask).symm
      (by simp [roundabout])
  · obtain ⟨rfl, htask⟩ := Prod.mk.inj hnext
    obtain rfl := Option.some.inj htask
    obtain ⟨hsame, hleft⟩ := course_flushSessions rfl hcourse
    refine ⟨hsame.trans hhooks, events, micros, tags, (some .flushEvents, []), by simp [roundabout],
      hholds, ?_⟩
    unfold finishTask changeClient
    simp only [hleft]
    rfl
  · obtain ⟨rfl, htask⟩ := Prod.mk.inj hnext
    exact hflush none [] (by decide) hhooks rfl (Option.some.inj htask).symm
      (by simp [roundabout])
  · obtain ⟨rfl, htask⟩ := Prod.mk.inj hnext
    exact hflush none [] (by decide) hhooks rfl (Option.some.inj htask).symm
      (by simp [roundabout])

theorem Looping.work {n : Nat} (h : Looping a) (hwork : Work n a sent b)
    (hpanics : ∀ e ∈ sent, e.2.isPanic = true) : Looping b := by
  induction hwork with
  | rest a => exact h
  | task hnext hcourse _ ih =>
    exact ih (h.task hnext hcourse fun e he => hpanics e (List.mem_append_left _ he))
      fun e he => hpanics e (List.mem_append_right _ he)

theorem Looping.pending_ne_zero (h : Looping a) : a.client.queue.pending ≠ 0 := by
  obtain ⟨_, events, micros, tags, place, hplace, _, hclient⟩ := h
  rw [hclient]
  simp only [roundabout, List.mem_cons, List.not_mem_nil, or_false] at hplace
  rcases hplace with rfl | rfl | rfl | rfl <;> exact Nat.succ_ne_zero _

end

theorem legible_boomEvent : loneApplication.client.pipeline.events.Legible boomEvent := by
  have hplain : boomEvent.Plain := by
    refine ⟨?_, ?_, ?_, ?_⟩
    · intro e he
      cases he
    · intro e he
      cases he
    · intro b hb
      cases hb
    · intro section' hsection e he
      obtain rfl := List.mem_singleton.1 hsection
      obtain rfl := List.mem_singleton.1 he
      exact ⟨trivial, trivial⟩
  have htimes : boomEvent.TimesReadBack := by
    refine ⟨?_, ?_, ?_⟩
    · show Instant.ofText? (Instant.text plainApplication.now) = some plainApplication.now
      decide
    · intro b hb
      cases hb
    · intro s hs
      cases hs
  have hdepth : (loneApplication.client.pipeline.events.envelope boomEvent).depth ≤
      Tree.depthLimit := Nat.le_of_ble_eq_true rfl
  refine (RecordStore.legible_iff (boomEvent.recovers hplain htimes) _).2 ⟨⟨?_, ?_⟩, hdepth⟩
  · show ∀ key ∈ [], key ∉ AppState.fieldNames
    decide
  · show ∀ key ∈ [], key ∉ DeviceState.fieldNames
    decide

theorem looping_boomApplication : Looping boomApplication := by
  have hnames : boomEvents.names = [RecordName.ofStamp 1 0] := by rfl
  have hfound : boomEvents.found? (RecordName.ofStamp 1 0) =
      some (.file (.text (loneApplication.client.pipeline.events.recordText boomEvent))) := by rfl
  have hread : boomEvents.read (RecordName.ofStamp 1 0) = .ok boomEvent :=
    legible_boomEvent.read_eq (t := boomEvents) rfl hfound
  refine ⟨rfl, boomEvents, 1, 1, _, List.mem_cons_self, ⟨⟨⟨_, rfl⟩, ?_, ?_, ?_⟩, ⟨_, hread⟩, rfl⟩,
    client_boomApplication⟩
  · rw [hnames]
    exact List.mem_singleton_self _
  · rw [hnames]
    exact fun other hother => .inl (List.mem_singleton.1 hother)
  · exact ⟨1, RecordName.hasStamp_ofStamp 1 0, Nat.le_refl 1, by decide⟩

/-- On one thread, and with a transport that panics each time, the background never comes to rest
once the host has panicked: however many tasks it has done, there is another one. -/
theorem panics_of_the_transport_keep_the_background_at_work :
    ∃ (l : Launch) (clock : Clock) (ids : Nat → SessionId) (a b : Application) (panic : Panic),
      l.config.workerThreads = 1 ∧ launch l {} clock ids = .ok a ∧
        b = (a.carryOut .installHook).carryOut (.raise panic) ∧
        (∀ n, ∃ sent c, Work n b sent c ∧ ∀ e ∈ sent, e.2 = .panic panic) ∧
        ∀ n sent c, Work n b sent c → (∀ e ∈ sent, e.2 = .panic panic) →
          c.client.queue.pending ≠ 0 := by
  have hbusy : ∀ n sent c, Work n boomApplication sent c → (∀ e ∈ sent, e.2 = .panic boom) →
      c.client.queue.pending ≠ 0 := by
    intro n sent c hwork hpanics
    refine (looping_boomApplication.work hwork ?_).pending_ne_zero
    intro e he
    rw [hpanics e he]
    rfl
  refine ⟨loneLaunch, _, _, loneApplication, boomApplication, boom, rfl, launch_loneLaunch, rfl, ?_,
    hbusy⟩
  intro n
  have hplace : 0 < boomApplication.client.queue.concurrency := by
    rw [client_boomApplication]
    exact Nat.one_pos
  obtain ⟨done, sent, c, hwork, hreplies, hend⟩ := Work.goes_on hplace (fun _ => .panic boom) n
  have hpanics : ∀ e ∈ sent, e.2 = .panic boom := by
    intro e he
    have hreply := List.mem_map_of_mem (f := (·.2)) he
    rw [hreplies] at hreply
    obtain ⟨_, _, hsame⟩ := List.mem_map.1 hreply
    exact hsame.symm
  rcases hend with rfl | hrests
  · exact ⟨sent, c, hwork, hpanics⟩
  · exact absurd hrests (hbusy done sent c hwork hpanics)

end CrashReporter
