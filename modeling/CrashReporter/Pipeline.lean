import CrashReporter.StateEvent
import CrashReporter.Store.RecordStore

-- The way of events and sessions to the collector. What cannot be delivered now
-- is stored, and what is stored is tried again. A call goes on until it has to
-- wait for an answer; settling the answer takes it further. Of each kind at most
-- one flush is under way, and the records it holds are reserved meanwhile.

namespace CrashReporter

/-! ## Settings -/

structure PipelineSettings where
  apiKey : String
  notifier : Notifier
  eventParams : DeliveryParams
  sessionParams : DeliveryParams
  maxEvents : Nat
  maxSessions : Nat

/-- The settings as diagnostics show them. -/
def PipelineSettings.shown (s : PipelineSettings) : String :=
  let notifier := Text.record "Notifier"
    [("name", Text.quoted s.notifier.name), ("version", Text.quoted s.notifier.version),
      ("url", Text.quoted s.notifier.url)]
  Text.record "PipelineSettings"
    [("api_key", Text.quoted s.apiKey), ("notifier", notifier),
      ("event_params", s.eventParams.shown), ("session_params", s.sessionParams.shown),
      ("max_persisted_events", toString s.maxEvents),
      ("max_persisted_sessions", toString s.maxSessions)]

/-! ## The disk -/

/-- What the pipeline keeps on disk, and what names new records. -/
structure Disk where
  events : Place := .nothing
  sessions : Place := .nothing
  /-- The present time in microseconds since 1970. -/
  micros : Nat := 0
  /-- How many tags were given to records. -/
  tags : Nat := 0
deriving Inhabited

/-- Changes what is at the place of one store. -/
def Disk.change (d : Disk) (f : Place → Place) : PayloadKind → Disk
  | .event => { d with events := f d.events }
  | .session => { d with sessions := f d.sessions }

/-! ## Flushes -/

/-- What became of the records of a flush. -/
structure FlushSummary where
  delivered : Nat := 0
  /-- Still in the store. -/
  retained : Nat := 0
  /-- Refused by the collector, or not readable. -/
  dropped : Nat := 0
deriving DecidableEq, Repr, Inhabited

namespace FlushSummary

def deliver (s : FlushSummary) (n : Nat) : FlushSummary := { s with delivered := s.delivered + n }

def retain (s : FlushSummary) (n : Nat) : FlushSummary := { s with retained := s.retained + n }

def drop (s : FlushSummary) (n : Nat) : FlushSummary := { s with dropped := s.dropped + n }

end FlushSummary

inductive FlushOutcome
  /-- Another flush was under way. -/
  | skipped
  | completed (summary : FlushSummary)
deriving DecidableEq, Repr, Inhabited

def FlushOutcome.toJson : FlushOutcome → Json
  | skipped => .str "skipped"
  | completed s =>
    .obj [("delivered", .nat s.delivered), ("retained", .nat s.retained),
      ("dropped", .nat s.dropped)]

/-- A flush of events while one of its records is sent. -/
structure EventFlush where
  record : String
  /-- The records that come after it. -/
  rest : List String
  summary : FlushSummary
  /-- The flush follows a new event that was delivered. -/
  followsEvent : Bool

/-- A flush of sessions while they are sent. -/
structure SessionFlush where
  records : List String
  summary : FlushSummary
  /-- The new sessions that are sent after the flush. -/
  next : Option SessionPayload

/-! ## Calls -/

/-- A call that waits for the answer to what it sent. -/
inductive Flight
  | newEvent (payload : EventPayload)
  | storedEvent (payload : EventPayload) (flush : EventFlush)
  | newSessions (payload : SessionPayload)
  | storedSessions (payload : SessionPayload) (flush : SessionFlush)

/-- What is sent to the collector. -/
inductive Request
  | events (payload : EventPayload)
  | sessions (payload : SessionPayload)

namespace Request

def kind : Request → PayloadKind
  | events _ => .event
  | sessions _ => .session

def toJson : Request → Json
  | events payload => payload.toJson
  | sessions payload => payload.toJson

end Request

def Flight.request : Flight → Request
  | newEvent payload => .events payload
  | storedEvent payload _ => .events payload
  | newSessions payload => .sessions payload
  | storedSessions payload _ => .sessions payload

/-- What a finished call answers. -/
inductive Outcome
  | status (status : DeliveryStatus)
  | flush (outcome : FlushOutcome)
deriving DecidableEq, Repr, Inhabited

def Outcome.toJson : Outcome → Json
  | status s => .str s.text
  | flush o => o.toJson

/-- Where a call stands. -/
inductive Progress
  | waiting (flight : Flight)
  | finished (outcome : Outcome)

/-- The app and the device as they are when a payload is made. -/
structure Surroundings where
  app : AppState := {}
  device : DeviceState := {}
deriving Inhabited

/-- An app and a device that the host describes. -/
def Surroundings.ofJson (v : Json) : Except ReportError Surroundings := do
  return ⟨← v.readOr "app" AppState.reader {}, ← v.readOr "device" DeviceState.reader {}⟩

structure Pipeline where
  settings : PipelineSettings
  events : RecordStore Event
  sessions : RecordStore SessionSnapshot
  /-- A flush of events is under way. -/
  flushingEvents : Bool := false
  /-- A flush of sessions is under way. -/
  flushingSessions : Bool := false
  micros : Nat := 0
  tags : Nat := 0

namespace Pipeline

/-! ## Opening -/

/-- Opens both stores. -/
def openOn (settings : PipelineSettings) (disk : Disk) : Except ReportError Pipeline := do
  let events ← RecordStore.openAt .event settings.maxEvents disk.events
  let sessions ← RecordStore.openAt .session settings.maxSessions disk.sessions
  return { settings, events, sessions, micros := disk.micros, tags := disk.tags }

/-- The disk that the pipeline leaves. -/
def disk (p : Pipeline) : Disk := ⟨p.events.place, p.sessions.place, p.micros, p.tags⟩

/-- The pipeline on a disk that something else has written to. -/
def onDisk (p : Pipeline) (disk : Disk) : Pipeline :=
  { p with
    events := { p.events with place := disk.events }
    sessions := { p.sessions with place := disk.sessions }
    micros := disk.micros
    tags := disk.tags }

/-- Where a request goes. -/
def params (p : Pipeline) : Request → DeliveryParams
  | .events _ => p.settings.eventParams
  | .sessions _ => p.settings.sessionParams

/-! ## Records -/

/-- How many records each store holds. -/
def counts (p : Pipeline) : Nat × Nat := (p.events.length, p.sessions.length)

/-- Reserves the records of a store for the caller. -/
def claim (p : Pipeline) : PayloadKind → Except ReportError (Pipeline × List String)
  | .event => p.events.claim.map fun (names, events) => ({ p with events }, names)
  | .session => p.sessions.claim.map fun (names, sessions) => ({ p with sessions }, names)

/-- Gives up what the caller had reserved. -/
def cancel (p : Pipeline) (names : List String) : PayloadKind → Pipeline
  | .event => { p with events := p.events.cancel names }
  | .session => { p with sessions := p.sessions.cancel names }

/-- Writing a record takes a microsecond and a tag. -/
def tick (p : Pipeline) : Pipeline := { p with micros := p.micros + 1, tags := p.tags + 1 }

/-- Stores an event; the flag says whether that worked. -/
def persistEvent (p : Pipeline) (event : Event) : Pipeline × Bool :=
  let (events, written) := p.events.write event p.micros p.tags
  ({ p with events }.tick, written.isOk)

def persistSession (p : Pipeline) (session : SessionSnapshot) : Pipeline × Bool :=
  let (sessions, written) := p.sessions.write session p.micros p.tags
  ({ p with sessions }.tick, written.isOk)

/-- Stores sessions, each in a record of its own, and counts those that worked. -/
def persistSessions (p : Pipeline) : List SessionSnapshot → Pipeline × Nat
  | [] => (p, 0)
  | session :: rest =>
    let (p, written) := p.persistSession session
    let (p, count) := p.persistSessions rest
    (p, count + if written then 1 else 0)

/-! ## Events -/

def eventPayload (p : Pipeline) (event : Event) : EventPayload :=
  ⟨p.settings.apiKey, p.settings.notifier, [event]⟩

/-- Sends a new event. -/
def deliverEvent (p : Pipeline) (event : Event) : Pipeline × Progress :=
  (p, .waiting (.newEvent (p.eventPayload event)))

/-- Ends a flush of events. A new event that it followed was delivered. -/
def endEventFlush (p : Pipeline) (outcome : FlushOutcome) (followsEvent : Bool) :
    Pipeline × Progress :=
  (p, .finished (if followsEvent then .status .delivered else .flush outcome))

/-- Sends the first record that can be read. Those before it are deleted. -/
def sendStoredEvent (p : Pipeline) (summary : FlushSummary) (followsEvent : Bool) :
    List String → Pipeline × Progress
  | [] => { p with flushingEvents := false }.endEventFlush (.completed summary) followsEvent
  | record :: rest =>
    match p.events.read record with
    | .ok event =>
      (p, .waiting (.storedEvent (p.eventPayload event) ⟨record, rest, summary, followsEvent⟩))
    | .error _ =>
      { p with events := p.events.delete [record] }.sendStoredEvent (summary.drop 1) followsEvent
        rest

/-- Sends stored events one by one, oldest first. -/
def startEventFlush (p : Pipeline) (followsEvent : Bool) : Pipeline × Progress :=
  if p.flushingEvents then p.endEventFlush .skipped followsEvent
  else
    match p.events.claim with
    | .ok (records, events) =>
      { p with events, flushingEvents := true }.sendStoredEvent {} followsEvent records
    | .error _ => p.endEventFlush (.completed {}) followsEvent

def flushEvents (p : Pipeline) : Pipeline × Progress := p.startEventFlush false

/-- Takes the answer for a stored event. Where it may be delivered later, the flush
stops and leaves the rest in the store. -/
def settleStoredEvent (p : Pipeline) (f : EventFlush) : DeliveryStatus → Pipeline × Progress
  | .delivered =>
    { p with events := p.events.delete [f.record] }.sendStoredEvent (f.summary.deliver 1)
      f.followsEvent f.rest
  | .failure =>
    { p with events := p.events.delete [f.record] }.sendStoredEvent (f.summary.drop 1)
      f.followsEvent f.rest
  | .undelivered =>
    { p with events := p.events.cancel (f.record :: f.rest), flushingEvents := false }.endEventFlush
      (.completed (f.summary.retain (f.rest.length + 1))) f.followsEvent

/-! ## Sessions -/

/-- Ends a flush of sessions, and sends the new sessions that waited for it. -/
def endSessionFlush (p : Pipeline) (outcome : FlushOutcome) :
    Option SessionPayload → Pipeline × Progress
  | some payload => (p, .waiting (.newSessions payload))
  | none => (p, .finished (.flush outcome))

/-- Reads records, deletes those that cannot be read and counts them. -/
def readSessions (p : Pipeline) :
    List String → Pipeline × List (String × SessionSnapshot) × Nat
  | [] => (p, [], 0)
  | record :: rest =>
    match p.sessions.read record with
    | .ok session =>
      let (p, found, lost) := p.readSessions rest
      (p, (record, session) :: found, lost)
    | .error _ =>
      let (p, found, lost) := { p with sessions := p.sessions.delete [record] }.readSessions rest
      (p, found, lost + 1)

/-- Sends all stored sessions at once, then `next` if there is one. -/
def startSessionFlush (p : Pipeline) (around : Surroundings) (next : Option SessionPayload) :
    Pipeline × Progress :=
  if p.flushingSessions then p.endSessionFlush .skipped next
  else
    match p.sessions.claim with
    | .error _ => p.endSessionFlush (.completed {}) next
    | .ok (records, sessions) =>
      let (p, found, lost) := { p with sessions }.readSessions records
      let summary : FlushSummary := { dropped := lost }
      if found.isEmpty then p.endSessionFlush (.completed summary) next
      else
        let payload := ⟨p.settings.notifier, around.app, around.device, found.map (·.2)⟩
        ({ p with flushingSessions := true },
          .waiting (.storedSessions payload ⟨found.map (·.1), summary, next⟩))

def flushSessions (p : Pipeline) (around : Surroundings) : Pipeline × Progress :=
  p.startSessionFlush around none

/-- Sends new sessions, after those that are stored. -/
def deliverSessions (p : Pipeline) (payload : SessionPayload) (around : Surroundings) :
    Pipeline × Progress :=
  p.startSessionFlush around (some payload)

def settleStoredSessions (p : Pipeline) (f : SessionFlush) (status : DeliveryStatus) :
    Pipeline × Progress :=
  let p := { p with flushingSessions := false }
  let n := f.records.length
  match status with
  | .delivered =>
    { p with sessions := p.sessions.delete f.records }.endSessionFlush
      (.completed (f.summary.deliver n)) f.next
  | .failure =>
    { p with sessions := p.sessions.delete f.records }.endSessionFlush
      (.completed (f.summary.drop n)) f.next
  | .undelivered =>
    { p with sessions := p.sessions.cancel f.records }.endSessionFlush
      (.completed (f.summary.retain n)) f.next

/-! ## Answers -/

/-- Takes the answer that a call waits for. -/
def settle (p : Pipeline) (flight : Flight) (status : DeliveryStatus) : Pipeline × Progress :=
  match flight with
  | .newEvent payload =>
    match status with
    | .delivered => p.startEventFlush true
    | .undelivered =>
      (payload.events.foldl (fun p event => (p.persistEvent event).1) p, .finished (.status status))
    | .failure => (p, .finished (.status status))
  | .storedEvent _ flush => p.settleStoredEvent flush status
  | .newSessions payload =>
    match status with
    | .undelivered => ((p.persistSessions payload.sessions).1, .finished (.status status))
    | .delivered | .failure => (p, .finished (.status status))
  | .storedSessions _ flush => p.settleStoredSessions flush status

/-- What the outside world is told of an answer. -/
def report (flight : Flight) (status : DeliveryStatus) : StateEvent :=
  .deliveryOutcome flight.request.kind status

/-- The pipeline as diagnostics show it. -/
def shown (p : Pipeline) (dir : String) : String :=
  Text.record "DeliveryPipeline"
    [("events", p.events.shown (dir ++ "/" ++ PayloadKind.event.folderName)),
      ("sessions", p.sessions.shown (dir ++ "/" ++ PayloadKind.session.folderName))]

end Pipeline

end CrashReporter
