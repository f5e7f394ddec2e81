import CrashReporter.Pipeline
import CrashReporter.Proofs.Store.Operations

-- Any number of calls on one pipeline. Each goes on until it waits for the answer to what
-- it sent; answers come in any order, and new calls come in between. What each call does
-- to the stored events is said here once, whatever the records hold.

namespace CrashReporter

/-! ## Calls that wait -/

/-- The flush that a call belongs to, if it sends a stored event. -/
def Flight.flush? : Flight → Option EventFlush
  | .storedEvent _ flush => some flush
  | _ => none

/-- The records that a flush holds: the one that is sent, and those after it. -/
def EventFlush.records (flush : EventFlush) : List String := flush.record :: flush.rest

/-- A pipeline, and the calls that wait for an answer. -/
structure Traffic where
  pipeline : Pipeline
  flights : List Flight

namespace Traffic

/-- The flushes of events that are under way. -/
def flushes (flights : List Flight) : List EventFlush := flights.filterMap Flight.flush?

/-- What a call came to: it waits with the others, or it is over. -/
def goOn (flights : List Flight) (step : Pipeline × Progress) : Traffic :=
  match step.2 with
  | .waiting flight => ⟨step.1, flight :: flights⟩
  | .finished _ => ⟨step.1, flights⟩

@[simp] theorem goOn_waiting (flights : List Flight) (p : Pipeline) (flight : Flight) :
    goOn flights (p, .waiting flight) = ⟨p, flight :: flights⟩ := rfl

@[simp] theorem goOn_finished (flights : List Flight) (p : Pipeline) (outcome : Outcome) :
    goOn flights (p, .finished outcome) = ⟨p, flights⟩ := rfl

end Traffic

/-! ## Steps -/

/-- What can happen next. -/
inductive Action
  | deliver (event : Event)
  | persist (event : Event)
  | flush
  | deliverSessions (payload : SessionPayload) (around : Surroundings)
  | flushSessions (around : Surroundings)
  /-- A call that waits is answered. -/
  | answer (flight : Flight) (answer : Answer)
  /-- Time goes by, and tags are given elsewhere. -/
  | clock (micros tags : Nat)

/-- The events that an action stores. -/
def Action.stored : Action → List Event
  | persist event => [event]
  | answer (.newEvent payload) reply =>
    if reply.outcome = .undelivered then payload.events else []
  | _ => []

inductive Traffic.Step : Traffic → Action → Traffic → Prop
  | deliver (p : Pipeline) (flights : List Flight) (event : Event) :
      Step ⟨p, flights⟩ (.deliver event) (goOn flights (p.deliverEvent event))
  | persist (p : Pipeline) (flights : List Flight) (event : Event) :
      Step ⟨p, flights⟩ (.persist event) ⟨(p.persistEvent event).1, flights⟩
  | flush (p : Pipeline) (flights : List Flight) :
      Step ⟨p, flights⟩ .flush (goOn flights p.flushEvents)
  | deliverSessions (p : Pipeline) (flights : List Flight) (payload : SessionPayload)
      (around : Surroundings) :
      Step ⟨p, flights⟩ (.deliverSessions payload around)
        (goOn flights (p.deliverSessions payload around))
  | flushSessions (p : Pipeline) (flights : List Flight) (around : Surroundings) :
      Step ⟨p, flights⟩ (.flushSessions around) (goOn flights (p.flushSessions around))
  | answer (p : Pipeline) (before after : List Flight) (flight : Flight) (answer : Answer) :
      Step ⟨p, before ++ flight :: after⟩ (.answer flight answer)
        (goOn (before ++ after) (p.settle flight answer.outcome))
  | clock (p : Pipeline) (flights : List Flight) (micros tags : Nat) :
      Step ⟨p, flights⟩ (.clock micros tags) ⟨{ p with micros, tags }, flights⟩

theorem FlushSummary.drop_drop (s : FlushSummary) (m n : Nat) :
    (s.drop m).drop n = s.drop (m + n) := by
  simp [drop, Nat.add_assoc]

namespace Pipeline

variable {p : Pipeline}

/-! ## Opening -/

theorem openOn_eq_ok {settings : PipelineSettings} {disk : Disk}
    (h : openOn settings disk = .ok p) :
    RecordStore.openAt .event settings.maxEvents disk.events = .ok p.events ∧
      p.settings = settings ∧ p.flushingEvents = false := by
  simp only [openOn, bind, Except.bind] at h
  split at h
  · cases h
  · next events hevents =>
    split at h
    · cases h
    · cases h
      exact ⟨hevents, rfl, rfl⟩

/-! ## Storing -/

/-- Stores events one after the other. -/
def persistEvents (p : Pipeline) (events : List Event) : Pipeline :=
  events.foldl (fun p event => (p.persistEvent event).1) p

theorem persistEvent_fst (p : Pipeline) (event : Event) :
    (p.persistEvent event).1 =
      { p with events := (p.events.write event p.micros p.tags).1 }.tick := rfl

/-- Storing touches no flush. -/
theorem flushingEvents_persistEvents (p : Pipeline) (events : List Event) :
    (p.persistEvents events).flushingEvents = p.flushingEvents := by
  unfold persistEvents
  induction events generalizing p with
  | nil => rfl
  | cons event rest ih =>
    rw [List.foldl_cons, ih]
    rfl

theorem reserved_persistEvents (p : Pipeline) (events : List Event) :
    (p.persistEvents events).events.reserved = p.events.reserved := by
  unfold persistEvents
  induction events generalizing p with
  | nil => rfl
  | cons event rest ih =>
    rw [List.foldl_cons, ih, persistEvent_fst]
    exact RecordStore.reserved_write _ _ _ _

/-! ## Sending the next stored event -/

/-- The pipeline after records were deleted one by one. -/
def discard (p : Pipeline) (names : List String) : Pipeline :=
  { p with events := names.foldl (fun s name => s.delete [name]) p.events }

@[simp] theorem discard_nil (p : Pipeline) : p.discard [] = p := rfl

theorem discard_cons (p : Pipeline) (name : String) (rest : List String) :
    p.discard (name :: rest) = { p with events := p.events.delete [name] }.discard rest := rfl

/-- Either no record can be read, and all are deleted and the flush is over; or those
before the first that can be read are deleted, and that one is sent. -/
theorem sendStoredEvent_cases (p : Pipeline) (summary : FlushSummary) (follows : Bool)
    (records : List String) :
    (∃ outcome, p.sendStoredEvent summary follows records =
        ({ p.discard records with flushingEvents := false }, .finished outcome)) ∨
      ∃ lost record rest event, records = lost ++ record :: rest ∧
        (p.discard lost).events.read record = .ok event ∧
        p.sendStoredEvent summary follows records =
          (p.discard lost, .waiting (.storedEvent (p.eventPayload event)
            ⟨record, rest, summary.drop lost.length, follows⟩)) := by
  induction records generalizing p summary with
  | nil => exact .inl ⟨_, rfl⟩
  | cons record rest ih =>
    unfold sendStoredEvent
    cases hread : p.events.read record with
    | ok event => exact .inr ⟨[], record, rest, event, rfl, hread, rfl⟩
    | error e =>
      rcases ih { p with events := p.events.delete [record] } (summary.drop 1) with
        ⟨outcome, h⟩ | ⟨lost, record', rest', event, rfl, hread', h⟩
      · exact .inl ⟨outcome, h⟩
      · refine .inr ⟨record :: lost, record', rest', event, rfl, hread', ?_⟩
        have hcount : (summary.drop 1).drop lost.length = summary.drop (lost.length + 1) := by
          rw [FlushSummary.drop_drop, Nat.add_comm]
        rw [hcount] at h
        exact h

theorem sendStoredEvent_of_read {record : String} {event : Event}
    (h : p.events.read record = .ok event) (summary : FlushSummary) (follows : Bool)
    (rest : List String) :
    p.sendStoredEvent summary follows (record :: rest) =
      (p, .waiting (.storedEvent (p.eventPayload event) ⟨record, rest, summary, follows⟩)) := by
  unfold sendStoredEvent
  rw [h]

theorem sendStoredEvent_of_error {record : String} {e : ReportError}
    (h : p.events.read record = .error e) (summary : FlushSummary) (follows : Bool)
    (rest : List String) :
    p.sendStoredEvent summary follows (record :: rest) =
      { p with events := p.events.delete [record] }.sendStoredEvent (summary.drop 1) follows
        rest := by
  conv => lhs; unfold sendStoredEvent
  rw [h]

/-! ## Beginning a flush -/

/-- A flush that begins while another is under way is over at once. -/
theorem startEventFlush_of_flushing (h : p.flushingEvents = true) (follows : Bool) :
    p.startEventFlush follows = p.endEventFlush .skipped follows := by
  unfold startEventFlush
  rw [if_pos h]

theorem startEventFlush_of_claim {records : List String} {claimed : RecordStore Event}
    (h : p.flushingEvents = false) (hclaim : p.events.claim = .ok (records, claimed))
    (follows : Bool) :
    p.startEventFlush follows =
      { p with events := claimed, flushingEvents := true }.sendStoredEvent {} follows records := by
  unfold startEventFlush
  rw [if_neg (by simp [h]), hclaim]

/-- A flush that begins while none is under way claims what is there, if the directory can
be listed at all. -/
theorem startEventFlush_cases (h : p.flushingEvents = false) (follows : Bool) :
    (∃ outcome, p.startEventFlush follows = (p, .finished outcome)) ∨
      ∃ f, p.events.place = .folder f ∧
        p.startEventFlush follows =
          { p with
            events := { p.events with
              reserved := p.events.reserved ++ p.events.unclaimed f.records }
            flushingEvents := true }.sendStoredEvent {} follows (p.events.unclaimed f.records) := by
  rcases p.events.claim_cases with ⟨e, hclaim⟩ | ⟨f, hplace⟩
  · unfold startEventFlush
    rw [if_neg (by simp [h]), hclaim]
    exact .inl ⟨_, rfl⟩
  · have hclaim := RecordStore.claim_of_folder hplace
    rw [RecordStore.names_of_folder hplace] at hclaim
    exact .inr ⟨f, hplace, startEventFlush_of_claim h hclaim follows⟩

theorem sendStoredEvent_not_skipped (p : Pipeline) (summary : FlushSummary)
    (records : List String) :
    (p.sendStoredEvent summary false records).2 ≠ .finished (.flush .skipped) := by
  induction records generalizing p summary with
  | nil =>
    intro h
    cases h
  | cons record rest ih =>
    unfold sendStoredEvent
    cases p.events.read record with
    | ok event =>
      intro h
      cases h
    | error e => exact ih _ _

/-- A flush is skipped exactly while another is under way. -/
theorem flushEvents_skipped_iff (p : Pipeline) :
    p.flushEvents.2 = .finished (.flush .skipped) ↔ p.flushingEvents = true := by
  unfold flushEvents
  constructor
  · intro h
    unfold startEventFlush at h
    split at h
    · next hflushing => exact hflushing
    · split at h
      · exact absurd h (sendStoredEvent_not_skipped _ _ _)
      · cases h
  · intro h
    rw [startEventFlush_of_flushing h]
    rfl

/-! ## Sessions -/

/-- Nothing of what concerns events has changed. -/
structure SameEvents (p q : Pipeline) : Prop where
  settings : q.settings = p.settings
  events : q.events = p.events
  flushing : q.flushingEvents = p.flushingEvents

/-- A step that concerns sessions alone: events are as they were, and what is sent holds
none. -/
structure SessionStep (p : Pipeline) (step : Pipeline × Progress) : Prop where
  same : SameEvents p step.1
  sends : ∀ flight, step.2 = .waiting flight → flight.request.kind = .session

theorem sessionStep_endSessionFlush {q : Pipeline} (h : SameEvents p q) (outcome : FlushOutcome)
    (next : Option SessionPayload) : SessionStep p (q.endSessionFlush outcome next) := by
  cases next with
  | none => exact ⟨h, fun _ heq => nomatch heq⟩
  | some payload =>
    refine ⟨h, ?_⟩
    intro flight heq
    obtain rfl := Progress.waiting.inj heq
    rfl

theorem sameEvents_readSessions (p : Pipeline) (records : List String) :
    SameEvents p (p.readSessions records).1 := by
  induction records generalizing p with
  | nil => exact ⟨rfl, rfl, rfl⟩
  | cons record rest ih =>
    unfold readSessions
    cases p.sessions.read record with
    | ok session => exact ih p
    | error e =>
      obtain ⟨hsettings, hevents, hflushing⟩ :=
        ih { p with sessions := p.sessions.delete [record] }
      exact ⟨hsettings, hevents, hflushing⟩

theorem sessionStep_startSessionFlush (p : Pipeline) (around : Surroundings)
    (next : Option SessionPayload) : SessionStep p (p.startSessionFlush around next) := by
  have hself : SameEvents p p := ⟨rfl, rfl, rfl⟩
  unfold startSessionFlush
  split
  · exact sessionStep_endSessionFlush hself _ _
  · cases p.sessions.claim with
    | error e => exact sessionStep_endSessionFlush hself _ _
    | ok claimed =>
      obtain ⟨records, sessions⟩ := claimed
      obtain ⟨hsettings, hevents, hflushing⟩ :=
        sameEvents_readSessions { p with sessions } records
      simp only
      split
      · apply sessionStep_endSessionFlush
        exact ⟨hsettings, hevents, hflushing⟩
      · refine ⟨⟨hsettings, hevents, hflushing⟩, ?_⟩
        intro flight heq
        obtain rfl := Progress.waiting.inj heq
        rfl

theorem sameEvents_persistSessions (p : Pipeline) (sessions : List SessionSnapshot) :
    SameEvents p (p.persistSessions sessions).1 := by
  induction sessions generalizing p with
  | nil => exact ⟨rfl, rfl, rfl⟩
  | cons session rest ih =>
    obtain ⟨hsettings, hevents, hflushing⟩ := ih (p.persistSession session).1
    exact ⟨hsettings, hevents, hflushing⟩

/-- What is sent besides holds no events. -/
theorem SessionStep.adds {step : Pipeline × Progress} (h : SessionStep p step)
    (flights : List Flight) :
    SameEvents p (Traffic.goOn flights step).pipeline ∧
      ∃ added, (Traffic.goOn flights step).flights = added ++ flights ∧
        ∀ flight ∈ added, flight.request.kind = .session := by
  obtain ⟨q, progress⟩ := step
  cases progress with
  | finished outcome => exact ⟨h.same, [], rfl, fun _ hflight => nomatch hflight⟩
  | waiting flight =>
    refine ⟨h.same, [flight], rfl, ?_⟩
    intro other hother
    obtain rfl := List.mem_singleton.1 hother
    exact h.sends other rfl

theorem flush?_eq_none {flight : Flight} (h : flight.request.kind = .session) :
    flight.flush? = none := by
  cases flight with
  | storedEvent payload flush => cases h
  | _ => rfl

theorem SessionStep.leaves {step : Pipeline × Progress} (h : SessionStep p step)
    (flights : List Flight) :
    SameEvents p (Traffic.goOn flights step).pipeline ∧
      Traffic.flushes (Traffic.goOn flights step).flights = Traffic.flushes flights := by
  obtain ⟨hsame, added, hflights, hsessions⟩ := h.adds flights
  refine ⟨hsame, ?_⟩
  have hnone : Traffic.flushes added = [] :=
    List.filterMap_eq_nil_iff.2 fun flight hflight => flush?_eq_none (hsessions flight hflight)
  unfold Traffic.flushes at hnone ⊢
  rw [hflights, List.filterMap_append, hnone, List.nil_append]

/-- The answer to sessions that were sent concerns sessions alone. -/
theorem sessionStep_settle (p : Pipeline) (flight : Flight)
    (h : flight.request.kind = .session) (status : DeliveryStatus) :
    SessionStep p (p.settle flight status) := by
  cases flight with
  | newEvent payload => cases h
  | storedEvent payload flush => cases h
  | newSessions payload =>
    cases status with
    | delivered => exact ⟨⟨rfl, rfl, rfl⟩, fun _ heq => nomatch heq⟩
    | undelivered => exact ⟨sameEvents_persistSessions p _, fun _ heq => nomatch heq⟩
    | failure => exact ⟨⟨rfl, rfl, rfl⟩, fun _ heq => nomatch heq⟩
  | storedSessions payload flush =>
    cases status <;>
    · apply sessionStep_endSessionFlush
      exact ⟨rfl, rfl, rfl⟩

end Pipeline

end CrashReporter
