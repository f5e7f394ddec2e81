import CrashReporter.Proofs.Application.Course
import CrashReporter.Proofs.Application.SessionCounts
import CrashReporter.Proofs.Observer
import CrashReporter.Proofs.Pipeline.SingleFlight
import CrashReporter.Proofs.Store.Readable

-- A flush of events from its beginning to its end. It goes through the records that nobody
-- has claimed, in their order: what cannot be read it deletes, what was taken or refused it
-- deletes too, and at the first record that may be delivered later it stops.

namespace CrashReporter

/-! ## Answers -/

/-- What the world sees of an event that a client tells of, as long as nobody reports the
panics of its observers. -/
def Application.announcement (a : Application) (event : StateEvent) : List JournalEntry :=
  .told a.client.queue.executor event ::
    a.client.bus.observers.map fun o => .sighting ⟨o.2.label, event⟩

/-- The application once a call has left it with a pipeline and was answered so, when it had
sent events. -/
def Application.afterAnswers (a : Application) (p : Pipeline) (answers : List DeliveryStatus) :
    Application :=
  let told := answers.map (StateEvent.deliveryOutcome .event)
  { a with
    client := { a.client with pipeline := p, bus := told.foldl ObserverBus.broadcast a.client.bus }
    journal := a.journal ++ told.flatMap a.announcement }

namespace Application

variable {a : Application}

/-- Without a hook, telling is all that comes of telling. -/
theorem tell_of_no_hooks (h : a.hooks = []) (event : StateEvent) :
    a.tell loud event =
      { a with
        client := { a.client with bus := a.client.bus.broadcast event }
        journal := a.journal ++ a.announcement event } := by
  have hobserved : ∀ (observers : List (ObserverId × Observer)) (b : Application), b.hooks = [] →
      observers.foldl (fun b o => b.observe loud event o.2) b =
        { b with
          journal := b.journal ++ observers.map fun o => .sighting ⟨o.2.label, event⟩ } := by
    intro observers
    induction observers with
    | nil => simp
    | cons o rest ih =>
      intro b hb
      have hone : b.observe loud event o.2 = b.note (.sighting ⟨o.2.label, event⟩) := by
        unfold observe
        cases o.2.panics event with
        | none => rfl
        | some panic => exact loud_of_no_hooks (a := b.note _) hb panic
      rw [List.foldl_cons, hone, ih (b.note _) hb]
      simp [note]
  unfold tell
  simp only
  rw [hobserved _ (a.note (.told a.client.queue.executor event)) h]
  simp [note, changeClient, announcement]

/-- Without a hook, a client tells of an event as its bus notifies it. -/
theorem tell_eq_notify (h : a.hooks = []) (event : StateEvent) :
    a.tell loud event =
      { a with
        client := { a.client with bus := (a.client.bus.notify event).2 }
        journal := a.journal ++ .told a.client.queue.executor event ::
          (a.client.bus.notify event).1.map .sighting } := by
  rw [tell_of_no_hooks h, ObserverBus.notify_eq]
  simp [announcement]

/-- The answer for a stored event is told, and takes its flush further. -/
theorem answer_storedEvent (h : a.hooks = []) (q : Pipeline) (payload : EventPayload)
    (flush : EventFlush) (reply : Answer) :
    (a.changeClient fun c => { c with pipeline := q }).answer loud (.storedEvent payload flush)
        reply =
      (a.afterAnswers q [reply.outcome]).changePipeline
        (q.settleStoredEvent flush reply.outcome) := by
  rw [answer_eq, alarmed_of_no_hooks (a := a.changeClient _) h]
  simp only
  rw [tell_of_no_hooks (a := a.changeClient _) h]
  simp [afterAnswers, changeClient, Pipeline.settle, Pipeline.report, Flight.request, Request.kind]
  rfl

/-- One answer comes after the other. -/
theorem afterAnswers_cons (a : Application) (p q : Pipeline) (first : DeliveryStatus)
    (rest : List DeliveryStatus) :
    (a.afterAnswers p [first]).afterAnswers q rest = a.afterAnswers q (first :: rest) := by
  simp [afterAnswers]
  rfl

end Application

/-! ## Passages -/

/-- How far a flush gets with the answers that it is given. It tries records in their order,
and an answer for each that can be read; it is through with all of them, or stops before the
first that may be delivered later. -/
structure Passage (s : RecordStore Event) (records : List String) (answers : List DeliveryStatus)
    (tried left : List String) : Prop where
  split : tried ++ left = records
  answered : ∃ settled, settled.length = (s.readable tried).length ∧
    DeliveryStatus.undelivered ∉ settled ∧
      (left = [] ∧ answers = settled ∨
        ∃ record rest event, left = record :: rest ∧ s.read record = .ok event ∧
          answers = settled ++ [.undelivered])

/-- What a flush counts of these answers and of the records that are lost and kept, besides
what it had counted. -/
def FlushSummary.after (summary : FlushSummary) (answers : List DeliveryStatus)
    (lost kept : Nat) : FlushSummary :=
  { delivered := summary.delivered + answers.count .delivered
    retained := summary.retained + kept
    dropped := summary.dropped + answers.count .failure + lost }

/-- What is sent in a passage. -/
def Pipeline.sendings (p : Pipeline) (tried left : List String) : List Request :=
  (p.events.readable (tried ++ left.take 1)).map fun e => .events (p.eventPayload e.2)

/-- The pipeline after a passage. -/
def Pipeline.passed (p : Pipeline) (tried left : List String) : Pipeline :=
  { p with events := (p.events.delete tried).cancel left, flushingEvents := false }

namespace Passage

variable {s : RecordStore Event} {record : String} {records tried left : List String}
  {answers : List DeliveryStatus}

/-- What a flush finds once it has deleted a record is what it would have found before. -/
theorem same (h : Passage (s.delete [record]) records answers tried left)
    (hnot : record ∉ records) :
    (∀ name ∈ left, (s.delete [record]).read name = s.read name) ∧
      (s.delete [record]).readable tried = s.readable tried ∧
      (s.delete [record]).unreadable tried = s.unreadable tried ∧
      (s.delete [record]).readable (tried ++ left.take 1) = s.readable (tried ++ left.take 1) := by
  have hread : ∀ name ∈ records, (s.delete [record]).read name = s.read name := by
    intro name hname
    apply RecordStore.read_delete
    rintro rfl
    exact hnot hname
  have htried : tried ⊆ records := h.split ▸ List.subset_append_left _ _
  have hleft : left ⊆ records := h.split ▸ List.subset_append_right _ _
  have hsent : tried ++ left.take 1 ⊆ records :=
    List.append_subset.2 ⟨htried, fun name hname => hleft (List.mem_of_mem_take hname)⟩
  exact ⟨fun name hname => hread name (hleft hname),
    RecordStore.readable_congr fun name hname => hread name (htried hname),
    RecordStore.unreadable_congr fun name hname => hread name (htried hname),
    RecordStore.readable_congr fun name hname => hread name (hsent hname)⟩

theorem unreadable {e : ReportError} (h : Passage (s.delete [record]) records answers tried left)
    (hread : s.read record = .error e) (hnot : record ∉ records) :
    Passage s (record :: records) answers (record :: tried) left := by
  obtain ⟨hleft, htried, _⟩ := h.same hnot
  obtain ⟨hsplit, settled, hlength, hfinal, hends⟩ := h
  refine ⟨by rw [List.cons_append, hsplit], settled, ?_, hfinal, ?_⟩
  · rw [RecordStore.readable_cons_of_error hread, hlength, htried]
  · rcases hends with hall | ⟨next, rest, event, rfl, hnext, hanswers⟩
    · exact .inl hall
    · exact .inr ⟨next, rest, event, rfl, hleft next List.mem_cons_self ▸ hnext, hanswers⟩

theorem settled {event : Event} {status : DeliveryStatus}
    (h : Passage (s.delete [record]) records answers tried left)
    (hread : s.read record = .ok event) (hnot : record ∉ records)
    (hstatus : status ≠ .undelivered) :
    Passage s (record :: records) (status :: answers) (record :: tried) left := by
  obtain ⟨hleft, htried, _⟩ := h.same hnot
  obtain ⟨hsplit, settled, hlength, hfinal, hends⟩ := h
  refine ⟨by rw [List.cons_append, hsplit], status :: settled, ?_, ?_, ?_⟩
  · rw [RecordStore.readable_cons_of_read hread, List.length_cons, List.length_cons, hlength,
      htried]
  · intro hmem
    rcases List.mem_cons.1 hmem with heq | hmem
    · exact hstatus heq.symm
    · exact hfinal hmem
  · rcases hends with ⟨hall, hanswers⟩ | ⟨next, rest, event', rfl, hnext, hanswers⟩
    · exact .inl ⟨hall, congrArg _ hanswers⟩
    · exact .inr ⟨next, rest, event', rfl, hleft next List.mem_cons_self ▸ hnext,
        congrArg _ hanswers⟩

/-- What was taken and what was refused is as much as could be read. -/
theorem count_answers (h : Passage s records answers tried left) :
    answers.count .delivered + answers.count .failure = (s.readable tried).length := by
  have hcount : ∀ settled : List DeliveryStatus, .undelivered ∉ settled →
      settled.count .delivered + settled.count .failure = settled.length := by
    intro settled
    induction settled with
    | nil => intro _; rfl
    | cons status rest ih =>
      intro hfinal
      have hrest := ih fun hmem => hfinal (List.mem_cons_of_mem _ hmem)
      cases status with
      | delivered => simp; omega
      | failure => simp; omega
      | undelivered => exact absurd List.mem_cons_self hfinal
  obtain ⟨-, settled, hlength, hfinal, ⟨-, rfl⟩ | ⟨_, _, _, -, -, rfl⟩⟩ := h
  · rw [hcount _ hfinal, hlength]
  · simp [← hlength, ← hcount _ hfinal]

theorem stop {event : Event} (hread : s.read record = .ok event) (records : List String) :
    Passage s (record :: records) [.undelivered] [] (record :: records) :=
  ⟨rfl, [], rfl, List.not_mem_nil, .inr ⟨record, records, event, rfl, hread, rfl⟩⟩

end Passage

namespace FlushSummary

variable (summary : FlushSummary) (answers : List DeliveryStatus) (lost kept : Nat)

theorem after_deliver :
    (summary.deliver 1).after answers lost kept =
      summary.after (.delivered :: answers) lost kept := by
  have hcount : (DeliveryStatus.delivered :: answers).count .delivered =
      answers.count .delivered + 1 := List.count_cons_self
  have hother : (DeliveryStatus.delivered :: answers).count .failure = answers.count .failure :=
    List.count_cons_of_ne (by decide)
  simp only [after, deliver, hcount, hother]
  congr 1
  omega

theorem after_refuse :
    (summary.drop 1).after answers lost kept = summary.after (.failure :: answers) lost kept := by
  have hcount : (DeliveryStatus.failure :: answers).count .failure = answers.count .failure + 1 :=
    List.count_cons_self
  have hother : (DeliveryStatus.failure :: answers).count .delivered =
      answers.count .delivered := List.count_cons_of_ne (by decide)
  simp only [after, drop, hcount, hother]
  congr 1
  omega

theorem after_lose :
    (summary.drop 1).after answers lost kept = summary.after answers (lost + 1) kept := by
  simp only [after, drop]
  congr 1
  omega

end FlushSummary

namespace Pipeline

variable {q : Pipeline} {record : String} {tried left : List String}

theorem passed_nil (q : Pipeline) (left : List String) :
    q.passed [] left = { q with events := q.events.cancel left, flushingEvents := false } := by
  simp [passed, RecordStore.delete_nil]

theorem passed_cons (q : Pipeline) (record : String) (tried left : List String) :
    ({ q with events := q.events.delete [record] } : Pipeline).passed tried left =
      q.passed (record :: tried) left := by
  simp [passed, RecordStore.delete_delete]

theorem sendings_cons_of_read {event : Event} (hread : q.events.read record = .ok event)
    (hsame : (q.events.delete [record]).readable (tried ++ left.take 1) =
      q.events.readable (tried ++ left.take 1)) :
    q.sendings (record :: tried) left = .events (q.eventPayload event) ::
      ({ q with events := q.events.delete [record] } : Pipeline).sendings tried left := by
  unfold sendings
  rw [hsame, List.cons_append, RecordStore.readable_cons_of_read hread]
  rfl

theorem sendings_cons_of_error {e : ReportError} (hread : q.events.read record = .error e)
    (hsame : (q.events.delete [record]).readable (tried ++ left.take 1) =
      q.events.readable (tried ++ left.take 1)) :
    q.sendings (record :: tried) left =
      ({ q with events := q.events.delete [record] } : Pipeline).sendings tried left := by
  unfold sendings
  rw [hsame, List.cons_append, RecordStore.readable_cons_of_error hread]
  rfl

end Pipeline

namespace Application

variable {a b : Application} {q : Pipeline} {records : List String} {summary : FlushSummary}
  {sent : List (Flight × Answer)} {outcome : Outcome}

/-- What comes of a flush under way that goes through its records in a passage. -/
structure Passes (a : Application) (q : Pipeline) (records : List String) (summary : FlushSummary)
    (sent : List (Flight × Answer)) (b : Application) (outcome : Outcome)
    (tried left : List String) : Prop where
  passage : Passage q.events records (sent.map (·.2.outcome)) tried left
  requests : sent.map (·.1.request) = q.sendings tried left
  outcome : outcome = .flush (.completed (summary.after (sent.map (·.2.outcome))
    (q.events.unreadable tried).length left.length))
  leaves : b = a.afterAnswers (q.passed tried left) (sent.map (·.2.outcome))

namespace Passes

variable {record : String} {tried left : List String}

/-- A record that cannot be read comes before the others. -/
theorem unreadable {e : ReportError}
    (h : Passes a { q with events := q.events.delete [record] } records (summary.drop 1) sent b
      outcome tried left)
    (hread : q.events.read record = .error e) (hnot : record ∉ records) :
    Passes a q (record :: records) summary sent b outcome (record :: tried) left := by
  obtain ⟨hpassage, hsent, houtcome, hb⟩ := h
  obtain ⟨_, _, hlost, hsame⟩ := hpassage.same hnot
  refine ⟨hpassage.unreadable hread hnot, ?_, ?_, ?_⟩
  · rw [hsent, Pipeline.sendings_cons_of_error hread hsame]
  · rw [houtcome, hlost, FlushSummary.after_lose, RecordStore.unreadable_cons_of_error hread,
      List.length_cons]
  · rw [hb, Pipeline.passed_cons]

/-- A record that was taken or refused comes before the others. -/
theorem settled {event : Event} {flush : EventFlush} {reply : Answer} {counted : FlushSummary}
    (h : Passes (a.afterAnswers q [reply.outcome])
      { q with events := q.events.delete [record] } records counted sent b outcome tried left)
    (hread : q.events.read record = .ok event) (hnot : record ∉ records)
    (hstatus : reply.outcome ≠ .undelivered)
    (hcounted : ∀ answers lost kept,
      counted.after answers lost kept = summary.after (reply.outcome :: answers) lost kept) :
    Passes a q (record :: records) summary
      ((.storedEvent (q.eventPayload event) flush, reply) :: sent) b outcome
      (record :: tried) left := by
  obtain ⟨hpassage, hsent, houtcome, hb⟩ := h
  obtain ⟨_, _, hlost, hsame⟩ := hpassage.same hnot
  refine ⟨hpassage.settled hread hnot hstatus, ?_, ?_, ?_⟩
  · rw [List.map_cons, hsent, Pipeline.sendings_cons_of_read hread hsame]
    rfl
  · rw [houtcome, hlost, hcounted, RecordStore.unreadable_cons_of_read hread, List.map_cons]
  · rw [hb, Pipeline.passed_cons, afterAnswers_cons, List.map_cons]

end Passes

/-- A flush under way goes through its records in a passage. -/
theorem exists_passes_of_course (hhooks : a.hooks = []) (hnodup : records.Nodup)
    (h : Course (a.changePipeline (q.sendStoredEvent summary false records)) sent b outcome) :
    ∃ tried left, Passes a q records summary sent b outcome tried left := by
  induction records generalizing a q summary sent with
  | nil =>
    cases h
    refine ⟨[], [], ⟨rfl, [], rfl, List.not_mem_nil, .inl ⟨rfl, rfl⟩⟩, rfl, rfl, ?_⟩
    have hover : (q.sendStoredEvent summary false []).1 = q.passed [] [] := by
      simp [Pipeline.passed_nil, RecordStore.cancel, Pipeline.sendStoredEvent,
        Pipeline.endEventFlush]
    simp [afterAnswers, changeClient, hover]
  | cons record rest ih =>
    obtain ⟨hnot, hnodup⟩ := List.nodup_cons.1 hnodup
    cases hread : q.events.read record with
    | error e =>
      rw [Pipeline.sendStoredEvent_of_error hread] at h
      obtain ⟨tried, left, hpasses⟩ := ih hhooks hnodup h
      exact ⟨record :: tried, left, hpasses.unreadable hread hnot⟩
    | ok event =>
      rw [Pipeline.sendStoredEvent_of_read hread] at h
      obtain _ | @⟨_, _, _, reply, sent, _, h⟩ := h
      rw [answer_storedEvent hhooks q] at h
      cases hreply : reply.outcome with
      | delivered =>
        rw [hreply] at h
        obtain ⟨tried, left, hpasses⟩ := ih (a := a.afterAnswers q [.delivered]) hhooks hnodup h
        rw [← hreply] at hpasses
        exact ⟨record :: tried, left, hpasses.settled hread hnot (by simp [hreply])
          (hreply ▸ summary.after_deliver)⟩
      | failure =>
        rw [hreply] at h
        obtain ⟨tried, left, hpasses⟩ := ih (a := a.afterAnswers q [.failure]) hhooks hnodup h
        rw [← hreply] at hpasses
        exact ⟨record :: tried, left, hpasses.settled hread hnot (by simp [hreply])
          (hreply ▸ summary.after_refuse)⟩
      | undelivered =>
        rw [hreply] at h
        cases h
        refine ⟨[], record :: rest, ?_, ?_, ?_, ?_⟩
        · simp only [List.map_cons, hreply, List.map_nil]
          exact .stop hread rest
        · simp [Pipeline.sendings, RecordStore.readable, hread, Except.toOption]
          rfl
        · simp [hreply, FlushSummary.after, RecordStore.unreadable]
          rfl
        · simp only [List.map_cons, hreply, List.map_nil, Pipeline.passed_nil]
          rfl

end Application

/-! ## The law -/

/-- The pipeline once a flush of events has passed the gate and claimed what is free. -/
def Pipeline.claimedEvents (p : Pipeline) : Pipeline :=
  { p with
    events := { p.events with
      reserved := p.events.reserved ++ p.events.unclaimed p.events.names }
    flushingEvents := true }

namespace Pipeline

variable {p : Pipeline} {tried left : List String}

/-- A flush that passes the gate goes through all that is free; where there is no directory
that is nothing. -/
theorem flushEvents_of_free (h : p.flushingEvents = false) :
    p.flushEvents =
      p.claimedEvents.sendStoredEvent {} false (p.events.unclaimed p.events.names) := by
  rcases p.events.claim_cases with ⟨e, herror⟩ | ⟨f, hplace⟩
  · have hnames := RecordStore.names_of_claim_error herror
    have hover : { p.claimedEvents with flushingEvents := false } = p := by
      simp [claimedEvents, hnames, RecordStore.unclaimed, ← h]
    rw [flushEvents, startEventFlush, h, herror, hnames]
    exact congrArg (·, _) hover.symm
  · exact startEventFlush_of_claim h (RecordStore.claim_of_folder hplace) false

/-- What a flush leaves: the records that it tried are gone, and its claims and the gate are
given up. -/
theorem passed_claimedEvents (h : p.flushingEvents = false)
    (hsplit : tried ++ left = p.events.unclaimed p.events.names) :
    p.claimedEvents.passed tried left = { p with events := p.events.withoutRecords tried } := by
  have hevents : (p.claimedEvents.events.delete tried).cancel left =
      p.events.withoutRecords tried := by
    apply RecordStore.cancel_delete_claimed
    intro name
    rw [← hsplit, List.mem_append]
  rw [passed, hevents, claimedEvents, ← h]

end Pipeline

/-- A flush of events that finds the gate open and no directories among the records ends,
however the collector answers. It goes through the records that nobody has claimed, in their
order, and sends those that can be read, one by one, until one is not delivered or all were
tried. What was tried is gone then, and all else is there as it was, with the claims of others.
Each record counts once: as delivered, as dropped if it was refused or cannot be read, or as
retained. Observers are told of each answer in turn. -/
theorem a_flush_goes_through_what_is_free_in_order {a : Application} {p : Pipeline}
    {records : List String} (hpipeline : a.client.pipeline = p)
    (hrecords : p.events.unclaimed p.events.names = records) (hhooks : a.hooks = [])
    (hfree : p.flushingEvents = false)
    (hfiles : ∀ name ∈ p.events.names, p.events.found? name ≠ some .folder) :
    Ends (a.begin .flushEvents) ∧
    ∀ sent b outcome, Course (a.begin .flushEvents) sent b outcome →
      ∃ answers tried left, answers = sent.map (·.2.outcome) ∧
        Passage p.events records answers tried left ∧
        sent.map (·.1.request) = (p.events.readable (tried ++ left.take 1)).map
          (fun e => .events (p.eventPayload e.2)) ∧
        b = a.afterAnswers { p with events := p.events.withoutRecords tried } answers ∧
        (∀ name, b.client.pipeline.events.found? name =
          if name ∈ tried then none else p.events.found? name) ∧
        ∃ summary, outcome = .flush (.completed summary) ∧
          summary.delivered = answers.count .delivered ∧
          summary.dropped = answers.count .failure + (p.events.unreadable tried).length ∧
          summary.retained = left.length ∧
          summary.delivered + summary.dropped + summary.retained = records.length := by
  subst hpipeline hrecords
  refine ⟨.begin a .flushEvents, ?_⟩
  intro sent b outcome hcourse
  have hbegin : a.begin .flushEvents = a.changePipeline
      (a.client.pipeline.claimedEvents.sendStoredEvent {} false
        (a.client.pipeline.events.unclaimed a.client.pipeline.events.names)) :=
    congrArg a.changePipeline (Pipeline.flushEvents_of_free hfree)
  rw [hbegin] at hcourse
  have hnodup := (a.client.pipeline.events.nodup_names).filter
    fun name => !a.client.pipeline.events.reserved.contains name
  obtain ⟨tried, left, ⟨hsplit, hanswered⟩, hsent, houtcome, hb⟩ :=
    Application.exists_passes_of_course hhooks hnodup hcourse
  rw [Pipeline.passed_claimedEvents hfree hsplit] at hb
  have hpassage : Passage a.client.pipeline.events
      (a.client.pipeline.events.unclaimed a.client.pipeline.events.names)
      (sent.map (·.2.outcome)) tried left := ⟨hsplit, hanswered⟩
  refine ⟨_, tried, left, rfl, hpassage, hsent, hb, ?_, _, houtcome, ?_, ?_, ?_, ?_⟩
  · intro name
    rw [hb]
    refine RecordStore.found?_withoutRecords (fun name hname => hfiles name ?_) name
    have hmem := List.mem_append_left left hname
    rw [hsplit] at hmem
    exact (RecordStore.mem_unclaimed.1 hmem).1
  · exact Nat.zero_add _
  · simp only [FlushSummary.after, Nat.zero_add]
    rfl
  · exact Nat.zero_add _
  · have hanswers := hpassage.count_answers
    have htried := a.client.pipeline.events.length_readable_add tried
    have hall := congrArg List.length hpassage.split
    rw [List.length_append] at hall
    rw [← hall, ← htried, ← hanswers]
    simp only [FlushSummary.after, Nat.zero_add]
    exact congrArg (· + left.length) (Nat.add_assoc _ _ _).symm

/-- An application with four records: one that cannot be read, two events, and one that was
claimed elsewhere. -/
def littered : Application :=
  plainApplication.changeClient fun c =>
    { c with
      pipeline := { c.pipeline with
        events := { c.pipeline.events with
          reserved := [RecordName.ofStamp 3 0]
          place :=
            let recorded (name : String) : Entry :=
              .file (.text (c.pipeline.events.recordText (planned name)))
            .folder (Dict.ofList
              [(RecordName.ofStamp 0 0, .file (.text "")), (RecordName.ofStamp 1 0, recorded "old"),
                (RecordName.ofStamp 2 0, recorded "new"),
                (RecordName.ofStamp 3 0, .file (.bytes []))]) } } }

theorem names_littered :
    littered.client.pipeline.events.names =
      [RecordName.ofStamp 0 0, RecordName.ofStamp 1 0, RecordName.ofStamp 2 0,
        RecordName.ofStamp 3 0] := by
  rfl

theorem files_littered :
    ∀ name ∈ littered.client.pipeline.events.names,
      littered.client.pipeline.events.found? name ≠ some .folder := by
  rw [names_littered]
  intro name hname hfolder
  simp only [List.mem_cons, List.not_mem_nil, or_false] at hname
  rcases hname with rfl | rfl | rfl | rfl <;> cases hfolder

/-- Where the transport panics after one event was taken, the flush still ends. Three records
count, and the one that was claimed elsewhere is there as it was. -/
theorem a_panic_ends_a_flush :
    littered.client.pipeline.events.unclaimed littered.client.pipeline.events.names =
        [RecordName.ofStamp 0 0, RecordName.ofStamp 1 0, RecordName.ofStamp 2 0] ∧
      littered.client.pipeline.events.read (RecordName.ofStamp 1 0) = .ok (planned "old") ∧
      ∃ sent b summary,
        Course (littered.begin .flushEvents) sent b (.flush (.completed summary)) ∧
          sent.map (·.2) = (List.range sent.length).map
            (fun n => if n = 0 then .status .delivered else .panic ⟨.text "no socket", none⟩) ∧
          summary.delivered + summary.dropped + summary.retained = 3 ∧
          b.client.pipeline.events.found? (RecordName.ofStamp 3 0) = some (.file (.bytes [])) := by
  have hrecords : littered.client.pipeline.events.unclaimed littered.client.pipeline.events.names =
      [RecordName.ofStamp 0 0, RecordName.ofStamp 1 0, RecordName.ofStamp 2 0] := by rfl
  have hfound : littered.client.pipeline.events.found? (RecordName.ofStamp 1 0) =
      some (.file (.text (littered.client.pipeline.events.recordText (planned "old")))) := by rfl
  obtain ⟨hends, hlaw⟩ := a_flush_goes_through_what_is_free_in_order
    (a := littered) rfl hrecords rfl rfl files_littered
  obtain ⟨sent, b, outcome, hcourse, hreplies⟩ := hends _
  obtain ⟨_, tried, left, -, hpassage, -, -, hleft, summary, rfl, -, -, -, hsum⟩ :=
    hlaw sent b outcome hcourse
  refine ⟨hrecords, (legible_planned _ "old").read_eq rfl hfound, sent, b, summary, hcourse,
    hreplies, hsum, ?_⟩
  have hother : RecordName.ofStamp 3 0 ∉ tried := by
    intro hmem
    have hfree := List.mem_append_left left hmem
    rw [hpassage.split] at hfree
    exact absurd hfree (by decide)
  rw [hleft, if_neg hother]
  rfl

end CrashReporter
