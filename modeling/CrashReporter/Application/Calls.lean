import CrashReporter.Application.Panics
import CrashReporter.Application.Sessions

-- Delivery as the application sees it, and the life of a client: its launch, the work
-- of its background, its end, and its restart on the same disk.

namespace CrashReporter.Application

def changePipeline (a : Application) (step : Pipeline × Progress) : Application × Progress :=
  (a.changeClient fun c => { c with pipeline := step.1 }, step.2)

/-! ## Delivery -/

/-- Begins a task. -/
def begin (a : Application) (task : Task) : Application × Progress :=
  a.changePipeline (a.client.pipeline.begin task (a.client.surroundings a.now))

/-- Takes the answer that a call waits for. A panic of the transport is reported
first; then the outcome is told. -/
def answer (a : Application) (alarm : Alarm) (flight : Flight) (answer : Answer) :
    Application × Progress :=
  let a := match answer with
    | .panic panic => alarm panic a
    | .status _ => a
  let a := a.tell alarm (Pipeline.report flight answer.outcome)
  a.changePipeline (a.client.pipeline.settle flight answer.outcome)

/-! ## Background -/

/-- The name of the thread that background work is done on. -/
def threadOf : Executor → String
  | .owned => "loom-report"
  | .borrowed => mainThread

/-- The task that the background is to run now, if there is one. Its thread goes to
work. -/
def nextTask (a : Application) : Application × Option Task :=
  let (queue, task) := a.client.queue.next
  let thread := if task.isSome then threadOf queue.executor else mainThread
  ({ a with thread }.changeClient fun c => { c with queue }, task)

/-- The task that was started first has ended, and the main thread is at work
again. -/
def finishTask (a : Application) : Application :=
  { a with thread := mainThread }.changeClient fun c => { c with queue := c.queue.finish 0 }

/-! ## Life -/

/-- What a client does first: it tries what is stored, and leaves a breadcrumb. -/
def greet (a : Application) (alarm : Alarm) : Application :=
  ((a.submit .flushEvents).submit .flushSessions).leaveBreadcrumb alarm "Loom loaded" .state
    Dict.empty

/-- Launches the first client of an application. -/
def launch (l : Launch) (disk : Disk) (clock : Clock) (ids : Nat → SessionId) :
    Except ReportError Application :=
  (Client.build l disk).map fun client => ({ clock, ids, client } : Application).greet loud

/-- The client takes no more work for the background. What it is told from now on
is stored. -/
def close (a : Application) : Application :=
  a.changeClient fun c => { c with isClosed := true, queue := c.queue.close }

/-- The hooks of the client at work report to it as an earlier one from now on. -/
def retireHooks (a : Application) : List Hook :=
  a.hooks.map fun hook => if hook = .current then .earlier a.earlier.length else hook

/-- The application dies, and a new client is launched on its disk. Tasks that waited
are lost; hooks stay with the client they were installed for. -/
def restart (a : Application) (l : Launch) : Except ReportError Application :=
  (Client.build l a.client.pipeline.disk).map fun client =>
    let old := { a.client with queue := a.client.queue.abandon }
    { a with client, earlier := a.earlier ++ [old], hooks := a.retireHooks }.greet loud

end CrashReporter.Application
