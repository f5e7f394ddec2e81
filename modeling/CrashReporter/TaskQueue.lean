import CrashReporter.Pipeline

-- Background work. Submitting never waits: what finds no room is left to the
-- caller. A dispatcher takes tasks in the order of submission and lets at most so
-- many run at once; it holds one task in hand while it waits for a free place.

namespace CrashReporter

/-- A piece of background work. -/
inductive Task
  | deliverEvent (event : Event)
  | deliverSessions (payload : SessionPayload)
  | flushEvents
  | flushSessions
deriving Inhabited

/-- Where background work is done. -/
inductive Executor
  /-- On threads of the client's own. -/
  | owned
  /-- On a thread of the host. -/
  | borrowed
deriving DecidableEq, Repr, Inhabited

structure TaskQueue where
  /-- How many tasks may wait. -/
  capacity : Nat
  /-- How many tasks may run at once. -/
  concurrency : Nat
  executor : Executor
  waiting : List Task := []
  /-- The task that the dispatcher holds. -/
  inHand : Option Task := none
  /-- The tasks that were started and have not ended, in the order of their start. -/
  running : List Task := []
  /-- No task is taken any more. -/
  isClosed : Bool := false

namespace TaskQueue

/-- A queue has room for one task and runs one, whatever it is asked for. -/
def new (capacity concurrency : Nat) (executor : Executor) : TaskQueue :=
  { capacity := max capacity 1, concurrency := max concurrency 1, executor }

/-- The queue with one more task, if there is room. -/
def submit? (q : TaskQueue) (task : Task) : Option TaskQueue :=
  if q.isClosed || q.capacity ≤ q.waiting.length then none
  else some { q with waiting := q.waiting ++ [task] }

/-- How many tasks wait or run. -/
def pending (q : TaskQueue) : Nat :=
  q.waiting.length + q.inHand.toList.length + q.running.length

def close (q : TaskQueue) : TaskQueue := { q with isClosed := true }

/-- The queue is closed, and its tasks are lost. -/
def abandon (q : TaskQueue) : TaskQueue :=
  { q.close with waiting := [], inHand := none, running := [] }

/-! ## The dispatcher -/

/-- The dispatcher takes the first task in hand. -/
def receive (q : TaskQueue) : TaskQueue :=
  match q.inHand, q.waiting with
  | none, task :: rest => { q with inHand := some task, waiting := rest }
  | _, _ => q

/-- The dispatcher starts the task in hand if there is a free place. -/
def start (q : TaskQueue) : TaskQueue :=
  match q.inHand with
  | some task =>
    if q.running.length < q.concurrency then
      { q with inHand := none, running := q.running ++ [task] }
    else q
  | none => q

/-- The dispatcher goes on until nothing waits or no place is free. -/
def dispatch (q : TaskQueue) : TaskQueue :=
  q.waiting.foldl (fun q _ => q.receive.start) q.start

/-- The task that was started first. The dispatcher's turn comes once all tasks
that it started have ended. -/
def next (q : TaskQueue) : TaskQueue × Option Task :=
  let q := if q.running.isEmpty then q.dispatch else q
  (q, q.running.head?)

/-- A running task ends. -/
def finish (q : TaskQueue) (index : Nat) : TaskQueue :=
  { q with running := q.running.eraseIdx index }

/-- The queue as diagnostics show it. -/
def shown (q : TaskQueue) : String :=
  let executor := match q.executor with
    | .owned => "Executor::Owned"
    | .borrowed => "Executor::Borrowed"
  Text.record "BackgroundQueue" [("pending", toString q.pending), ("executor", executor)]

end TaskQueue

/-! ## Tasks -/

namespace Pipeline

/-- Begins a task. -/
def begin (p : Pipeline) (task : Task) (around : Surroundings) : Pipeline × Progress :=
  match task with
  | .deliverEvent event => p.deliverEvent event
  | .deliverSessions payload => p.deliverSessions payload around
  | .flushEvents => p.flushEvents
  | .flushSessions => p.flushSessions around

/-- Keeps what a task would deliver, where there is no room for it. A flush is left
to the next one. -/
def keep (p : Pipeline) : Task → Pipeline
  | .deliverEvent event => (p.persistEvent event).1
  | .deliverSessions payload => (p.persistSessions payload.sessions).1
  | .flushEvents | .flushSessions => p

end Pipeline

/-- Hands a task to the queue, or keeps what it carries; the flag says whether the
queue took it. -/
def submitTask (q : TaskQueue) (p : Pipeline) (task : Task) : TaskQueue × Pipeline × Bool :=
  match q.submit? task with
  | some q => (q, p, true)
  | none => (q, p.keep task, false)

end CrashReporter
