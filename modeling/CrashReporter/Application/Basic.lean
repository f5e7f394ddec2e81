import CrashReporter.Client

-- The application that a client lives in: its clock and its disk, the thread that is
-- at work, and a journal of all that the outside world gets to see. A panic is
-- reported by every installed hook before it ends; what is done with one is given
-- to each step as its `Alarm`.

namespace CrashReporter

/-- What the outside world gets to see. -/
inductive JournalEntry
  /-- A callback left a remark. -/
  | remark (text : Json)
  /-- A client told of a state change. It comes with where that client's background work
  is done, since only a borrowed thread tells in step with the host. -/
  | told (background : Executor) (event : StateEvent)
  /-- An observer took note of one. -/
  | sighting (sighting : Sighting)

def JournalEntry.toJson : JournalEntry → Json
  | remark text => text
  | told _ event => event.toJson
  | sighting s => s.toJson

/-- A panic hook reports to the client it was installed for: the current one, or
one of an earlier time. -/
inductive Hook
  | current
  | earlier (index : Nat)
deriving DecidableEq, Repr, Inhabited

/-- The name of the thread that the host calls from. -/
def mainThread : String := "main"

structure Application where
  clock : Clock
  /-- The thread that is at work. -/
  thread : String := mainThread
  journal : List JournalEntry := []
  /-- The ids that sessions get, and how many were given. -/
  ids : Nat → SessionId
  idsGiven : Nat := 0
  /-- The client that is at work. -/
  client : Client
  /-- Earlier clients, which hooks may still report to. -/
  earlier : List Client := []
  /-- The installed hooks, the latest first. -/
  hooks : List Hook := []

/-- What is done with a panic before it ends. -/
abbrev Alarm := Panic → Application → Application

namespace Application

/-- Nothing is done, as for panics that are raised while one is reported. -/
def silent : Alarm := fun _ a => a

def now (a : Application) : Instant := a.clock.now

def note (a : Application) (entry : JournalEntry) : Application :=
  { a with journal := a.journal ++ [entry] }

def changeClient (a : Application) (f : Client → Client) : Application :=
  { a with client := f a.client }

/-! ## Telling -/

/-- An observer takes note of an event. -/
def observe (a : Application) (alarm : Alarm) (event : StateEvent) (o : Observer) : Application :=
  let a := a.note (.sighting ⟨o.label, event⟩)
  match o.panics event with
  | some panic => alarm panic a
  | none => a

/-- Tells the observers of an event one after the other, then the channels. -/
def tell (a : Application) (alarm : Alarm) (event : StateEvent) : Application :=
  let a := a.note (.told a.client.queue.executor event)
  let a := a.client.bus.observers.foldl (fun a o => a.observe alarm event o.2) a
  a.changeClient fun c => { c with bus := c.bus.broadcast event }

def tellAll (a : Application) (alarm : Alarm) (events : List StateEvent) : Application :=
  events.foldl (fun a event => a.tell alarm event) a

/-- Takes note of what happened in a run of callbacks. -/
def heed (a : Application) (alarm : Alarm) (incidents : List Incident) : Application :=
  incidents.foldl
    (fun a incident =>
      match incident with
      | .remark text => a.note (.remark text)
      | .panic panic => alarm panic a)
    a

/-! ## Tasks and session ids -/

/-- Leaves a task to the background, or keeps what it carries. -/
def submit (a : Application) (task : Task) : Application :=
  a.changeClient fun c =>
    let (queue, pipeline, _) := submitTask c.queue c.pipeline task
    { c with queue, pipeline }

/-- The id that the next session gets. -/
def nextId (a : Application) : SessionId := a.ids a.idsGiven

def changeTracker (a : Application) (tracker : SessionTracker) : Application :=
  a.changeClient fun c => { c with tracker }

end Application

end CrashReporter
