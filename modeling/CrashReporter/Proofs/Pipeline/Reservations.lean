import CrashReporter.Proofs.Pipeline.SessionTraffic
import CrashReporter.Proofs.Pipeline.SingleFlight

-- Reservations end with the calls that made them. Whatever the directories hold and become,
-- and whatever the collector answers, a record is reserved only while a flush holds it that is
-- under way. So once no call waits, the next flush finds every record there is.

namespace CrashReporter

open Traffic

/-! ## Reserved events -/

/-- Every event that is reserved is held by a flush under way. -/
def Held (t : Traffic) : Prop :=
  ∀ name ∈ t.pipeline.events.reserved, ∃ flush ∈ flushes t.flights, name ∈ flush.records

namespace Pipeline

variable {p : Pipeline} {flights : List Flight}

/-- A flush that goes on gives up what it cannot read, and holds the rest or is over. -/
theorem held_sendStoredEvent {records : List String}
    (h : ∀ name ∈ p.events.reserved, name ∈ records) (summary : FlushSummary) (follows : Bool) :
    Held (goOn flights (p.sendStoredEvent summary follows records)) := by
  rcases p.sendStoredEvent_cases summary follows records with
    ⟨outcome, hsend⟩ | ⟨lost, record, rest, event, rfl, _, hsend⟩
  · rw [hsend]
    intro name hname
    obtain ⟨hreserved, hnot⟩ := (mem_reserved_discard p records name).1 hname
    exact absurd (h name hreserved) hnot
  · rw [hsend]
    intro name hname
    obtain ⟨hreserved, hnot⟩ := (mem_reserved_discard p lost name).1 hname
    refine ⟨_, List.mem_cons_self, ?_⟩
    exact (List.mem_append.1 (h name hreserved)).resolve_left hnot

theorem held_startEventFlush (hgate : Gate p (flushes flights)) (h : Held ⟨p, flights⟩)
    (follows : Bool) : Held (goOn flights (p.startEventFlush follows)) := by
  cases hflushing : p.flushingEvents with
  | true =>
    rw [startEventFlush_of_flushing hflushing]
    exact h
  | false =>
    rcases startEventFlush_cases hflushing follows with ⟨outcome, hstart⟩ | ⟨f, _, hstart⟩
    · rw [hstart]
      exact h
    · rw [hstart]
      apply held_sendStoredEvent
      intro name hname
      rcases List.mem_append.1 hname with hold | hnew
      · obtain ⟨flush, hflush, _⟩ := h name hold
        have := hgate.flushing_iff.2 (List.ne_nil_of_mem hflush)
        simp [hflushing] at this
      · exact hnew

/-- A step that concerns sessions alone reserves no event and ends no flush of events. -/
theorem SessionStep.held {step : Pipeline × Progress} (hs : SessionStep p step)
    (h : Held ⟨p, flights⟩) : Held (goOn flights step) := by
  obtain ⟨hsame, hflushes⟩ := hs.leaves flights
  unfold Held
  rw [hsame.events, hflushes]
  exact h

theorem held_settle {before after : List Flight} {flight : Flight}
    (hgate : Gate p (flushes (before ++ flight :: after)))
    (h : Held ⟨p, before ++ flight :: after⟩) (status : DeliveryStatus) :
    Held (goOn (before ++ after) (p.settle flight status)) := by
  have hrest : flight.flush? = none →
      Gate p (flushes (before ++ after)) ∧ Held ⟨p, before ++ after⟩ := by
    intro hnone
    unfold Held at h ⊢
    simp only [flushes_answered before after hnone] at hgate h ⊢
    exact ⟨hgate, h⟩
  cases flight with
  | newSessions payload =>
    exact (sessionStep_settle p (.newSessions payload) rfl status).held (hrest rfl).2
  | storedSessions payload flush =>
    exact (sessionStep_settle p (.storedSessions payload flush) rfl status).held (hrest rfl).2
  | newEvent payload =>
    cases status with
    | delivered => exact held_startEventFlush (hrest rfl).1 (hrest rfl).2 true
    | failure => exact (hrest rfl).2
    | undelivered =>
      intro name hname
      have hold : name ∈ p.events.reserved := p.reserved_persistEvents payload.events ▸ hname
      exact (hrest rfl).2 name hold
  | storedEvent payload flush =>
    obtain ⟨_, _, _, hnone⟩ := gate_storedEvent hgate
    have hall : ∀ name ∈ p.events.reserved, name = flush.record ∨ name ∈ flush.rest := by
      intro name hname
      obtain ⟨other, hother, hmem⟩ := h name hname
      have hsplit : other = flush ∨ other ∈ flushes (before ++ after) := by
        simpa [flushes, Flight.flush?, or_left_comm] using hother
      rw [hnone] at hsplit
      obtain rfl := hsplit.resolve_right List.not_mem_nil
      exact List.mem_cons.1 hmem
    have hleft : ∀ name ∈ (p.events.delete [flush.record]).reserved, name ∈ flush.rest := by
      intro name hname
      rw [RecordStore.reserved_delete] at hname
      obtain ⟨hname, hnot⟩ := List.mem_filter.1 hname
      exact (hall name hname).resolve_left (by simpa using hnot)
    cases status with
    | delivered => exact held_sendStoredEvent hleft _ _
    | failure => exact held_sendStoredEvent hleft _ _
    | undelivered =>
      intro name hname
      obtain ⟨hname, hnot⟩ := List.mem_filter.1 hname
      have hin : name ∈ flush.record :: flush.rest := List.mem_cons.2 (hall name hname)
      simp [hin] at hnot

end Pipeline

theorem Traffic.Step.held {t u : Traffic} {a : Action} (hs : Step t a u)
    (hgate : Gate t.pipeline (flushes t.flights)) (h : Held t) : Held u := by
  cases hs with
  | deliver p flights event => exact h
  | persist p flights event =>
    intro name hname
    exact h name (p.reserved_persistEvents [event] ▸ hname)
  | flush p flights => exact Pipeline.held_startEventFlush hgate h false
  | deliverSessions p flights payload around =>
    exact (Pipeline.sessionStep_startSessionFlush p around _).held h
  | flushSessions p flights around =>
    exact (Pipeline.sessionStep_startSessionFlush p around _).held h
  | answer p before after flight reply => exact Pipeline.held_settle hgate h _
  | clock p flights micros tags => exact h

/-! ## All calls -/

/-- The pipeline on directories that something else has changed. -/
def Pipeline.withPlaces (p : Pipeline) (events sessions : Place) : Pipeline :=
  { p with
    events := { p.events with place := events }
    sessions := { p.sessions with place := sessions } }

/-- What comes of opening a pipeline on any disk and of any calls on it. Meanwhile the
directories may become anything; so a file may come back that was not to be taken away. -/
inductive Traffic.Reached : Traffic → Prop
  | opened {settings : PipelineSettings} {disk : Disk} {p : Pipeline}
      (h : Pipeline.openOn settings disk = .ok p) : Reached ⟨p, []⟩
  | step {t u : Traffic} {a : Action} (before : Reached t) (h : Step t a u) : Reached u
  | persistSessions {p : Pipeline} {flights : List Flight} (sessions : List SessionSnapshot)
      (before : Reached ⟨p, flights⟩) : Reached ⟨(p.persistSessions sessions).1, flights⟩
  | outside {p : Pipeline} {flights : List Flight} (events sessions : Place)
      (before : Reached ⟨p, flights⟩) : Reached ⟨p.withPlaces events sessions, flights⟩

/-- Nothing is reserved but by the flushes that are under way, at most one of each kind. -/
structure Guarded (t : Traffic) : Prop where
  gate : Gate t.pipeline (flushes t.flights)
  held : Held t
  sessions : SessionGate t.pipeline (sessionFlushes t.flights)

theorem guarded_opened {settings : PipelineSettings} {disk : Disk} {p : Pipeline}
    (h : Pipeline.openOn settings disk = .ok p) : Guarded ⟨p, []⟩ := by
  obtain ⟨hevents, _, hfree⟩ := Pipeline.openOn_eq_ok h
  obtain ⟨hsessions, _, hfree'⟩ := Pipeline.openOn_sessions h
  obtain ⟨_, _, hopened⟩ := RecordStore.openAt_eq_ok hevents
  obtain ⟨_, _, hopened'⟩ := RecordStore.openAt_eq_ok hsessions
  refine ⟨.free hfree, ?_, .free hfree' ?_⟩
  · intro name hname
    simp [hopened] at hname
  · rw [hopened']

theorem Traffic.Reached.guarded {t : Traffic} (h : Reached t) : Guarded t := by
  induction h with
  | opened h => exact guarded_opened h
  | step before hs ih =>
    exact ⟨hs.gate ih.gate, hs.held ih.gate ih.held, hs.sessionGate ih.sessions⟩
  | @persistSessions p flights sessions before ih =>
    have hsame := p.sameEvents_persistSessions sessions
    refine ⟨ih.gate.congr (by rw [hsame.events]) hsame.flushing, ?_, ?_⟩
    · intro name hname
      exact ih.held name (hsame.events ▸ hname)
    · exact Pipeline.gate_persistSessions ih.sessions sessions
  | outside events sessions before ih =>
    exact ⟨ih.gate.congr rfl rfl, ih.held, ih.sessions.congr rfl rfl⟩

/-! ## The next flush -/

/-- While no session is reserved, a flush that begins claims all that are listed. It deletes those
that cannot be read, and sends all others unless there are none. -/
theorem Pipeline.flushSessions_of_unreserved {p : Pipeline} (hidle : p.flushingSessions = false)
    (hfree : p.sessions.reserved = []) {records : List String}
    (hlist : p.sessions.enumerate = .ok records) (around : Surroundings) :
    p.flushSessions around =
      let found := p.sessions.readable records
      let lost := p.sessions.unreadable records
      let sessions := { p.sessions with reserved := records }.delete lost
      if found = [] then
        ({ p with sessions }, .finished (.flush (.completed { dropped := lost.length })))
      else
        ({ p with sessions, flushingSessions := true },
          .waiting (.storedSessions (p.batch around found)
            ⟨found.map (·.1), { dropped := lost.length }, none⟩)) := by
  have hnames : p.sessions.names = records := RecordStore.names_of_enumerate hlist
  have hunclaimed := RecordStore.unclaimed_of_unreserved hfree p.sessions.names
  have hclaimed : p.claimSessions.sessions = { p.sessions with reserved := records } := by
    unfold claimSessions
    rw [hunclaimed, hfree, hnames, List.nil_append]
  unfold flushSessions
  rw [startSessionFlush_of_free hidle (hunclaimed.trans hnames) around none, hclaimed]
  simp only [List.isEmpty_iff]
  rfl

/-! ## The law -/

/-- What is reserved is held by a flush under way. So when no call waits nothing is reserved and
both gates are free. The next flush of either kind claims every record that is listed: that of
events goes through all of them, and that of sessions deletes those that cannot be read and sends
all others. -/
theorem reservations_end_with_their_calls {t : Traffic} (h : Reached t) :
    (∀ name, name ∈ t.pipeline.events.reserved ↔
        ∃ flush ∈ flushes t.flights, name ∈ flush.records) ∧
      (∀ name, name ∈ t.pipeline.sessions.reserved ↔
        ∃ flush ∈ sessionFlushes t.flights, name ∈ flush.records) ∧
      (t.flights = [] →
        t.pipeline.events.reserved = [] ∧ t.pipeline.sessions.reserved = [] ∧
        t.pipeline.flushingEvents = false ∧ t.pipeline.flushingSessions = false ∧
        (∀ records, t.pipeline.events.enumerate = .ok records →
          t.pipeline.events.claim =
              .ok (records, { t.pipeline.events with reserved := records }) ∧
            t.pipeline.flushEvents =
              { t.pipeline with
                events := { t.pipeline.events with reserved := records }
                flushingEvents := true }.sendStoredEvent {} false records) ∧
        ∀ records, t.pipeline.sessions.enumerate = .ok records →
          t.pipeline.sessions.claim =
              .ok (records, { t.pipeline.sessions with reserved := records }) ∧
            ∀ around, t.pipeline.flushSessions around =
              let found := t.pipeline.sessions.readable records
              let lost := t.pipeline.sessions.unreadable records
              let sessions := { t.pipeline.sessions with reserved := records }.delete lost
              if found = [] then
                ({ t.pipeline with sessions },
                  .finished (.flush (.completed { dropped := lost.length })))
              else
                ({ t.pipeline with sessions, flushingSessions := true },
                  .waiting (.storedSessions (t.pipeline.batch around found)
                    ⟨found.map (·.1), { dropped := lost.length }, none⟩))) := by
  obtain ⟨hgate, hheld, hsessions⟩ := h.guarded
  refine ⟨?_, hsessions.reserved_iff, ?_⟩
  · intro name
    constructor
    · exact hheld name
    · rintro ⟨flush, hflush, hname⟩
      exact hgate.held_of_mem hflush name hname
  · intro hnone
    rw [hnone] at hgate hsessions
    obtain ⟨hidle, hfree⟩ := hsessions.free_of_nil
    have hreserved : t.pipeline.events.reserved = [] := by
      apply List.eq_nil_iff_forall_not_mem.2
      intro name hname
      obtain ⟨flush, hflush, _⟩ := hheld name hname
      rw [hnone] at hflush
      cases hflush
    refine ⟨hreserved, hfree, hgate.free_of_nil, hidle, ?_, ?_⟩
    · intro records hlist
      have hclaim := RecordStore.claim_of_unreserved hreserved hlist
      exact ⟨hclaim, Pipeline.startEventFlush_of_claim hgate.free_of_nil hclaim false⟩
    · intro records hlist
      exact ⟨RecordStore.claim_of_unreserved hfree hlist,
        Pipeline.flushSessions_of_unreserved hidle hfree hlist⟩

/-- A session of the first of January 1970. -/
def sessionOf (bits : BitVec 128) : SessionSnapshot := ⟨⟨bits⟩, ⟨0, 0, 0⟩, none, {}⟩

theorem proper_sessionOf {bits : BitVec 128} :
    ∀ session ∈ [sessionOf bits], session.startedAt.Proper := by
  have hproper : Instant.Proper ⟨0, 0, 0⟩ := ⟨by decide, by decide, by decide, .inl (by decide)⟩
  intro session hsession
  obtain rfl := List.mem_singleton.1 hsession
  exact hproper

/-- It is read from the record that a store of the same kind makes of it. -/
theorem read_sessionOf (writer : RecordStore SessionSnapshot) {s : RecordStore SessionSnapshot}
    {name : String} {bits : BitVec 128} (hkind : s.kind = writer.kind)
    (hfound : s.found? name = some (.file (.text (writer.recordText (sessionOf bits))))) :
    s.read name = .ok (sessionOf bits) := by
  have hproper := proper_sessionOf (sessionOf bits) List.mem_cons_self
  exact (RecordStore.legible_of_proper writer hproper).read_eq hkind hfound

/-- A pipeline with an event and a session stored. Before the event there is a directory that goes
by the name of a record: nothing reads it and nothing takes it away. Before the session there is a
record that cannot be read. -/
def obstructed : Pipeline :=
  let stored := (freshPipeline.persistEvent (planned "old")).1
  stored.withPlaces
    (.folder ((Dict.empty.insert (RecordName.ofStamp 1 0)
      (.file (.text (freshPipeline.events.recordText (planned "old"))))).insert
        (RecordName.ofStamp 0 0) .folder))
    (.folder ((Dict.empty.insert (RecordName.ofStamp 1 0)
      (.file (.text (freshPipeline.sessions.recordText (sessionOf 1))))).insert
        (RecordName.ofStamp 0 0) (.file (.text ""))))

/-- The same while the event is sent. -/
def obstructedSending : Pipeline :=
  { obstructed with
    events := { obstructed.events with reserved := [RecordName.ofStamp 1 0] }
    flushingEvents := true }

/-- The same while the session is sent, too. -/
def obstructedSendingBoth : Pipeline :=
  { obstructedSending with
    sessions := { obstructed.sessions with
      reserved := [RecordName.ofStamp 0 0, RecordName.ofStamp 1 0] }.delete
        [RecordName.ofStamp 0 0]
    flushingSessions := true }

/-- The same once neither was taken. -/
def obstructedOver : Pipeline :=
  { obstructedSendingBoth with
    events := obstructedSending.events.cancel [RecordName.ofStamp 1 0]
    sessions := obstructedSendingBoth.sessions.cancel [RecordName.ofStamp 1 0]
    flushingEvents := false
    flushingSessions := false }

def obstructedFlight : Flight :=
  .storedEvent (obstructed.eventPayload (planned "old"))
    ⟨RecordName.ofStamp 1 0, [], { dropped := 1 }, false⟩

def obstructedBatch : Flight :=
  .storedSessions (obstructedSending.batch {} [(RecordName.ofStamp 1 0, sessionOf 1)])
    ⟨[RecordName.ofStamp 1 0], { dropped := 1 }, none⟩

theorem flushEvents_obstructed :
    obstructed.flushEvents = (obstructedSending, .waiting obstructedFlight) := by
  have hclaim : obstructed.events.claim =
      .ok ([RecordName.ofStamp 0 0, RecordName.ofStamp 1 0],
        { obstructed.events with
          reserved := [RecordName.ofStamp 0 0, RecordName.ofStamp 1 0] }) := by rfl
  have hdelete : ({ obstructed.events with
        reserved := [RecordName.ofStamp 0 0, RecordName.ofStamp 1 0] } :
      RecordStore Event).delete [RecordName.ofStamp 0 0] = obstructedSending.events := by rfl
  have hfound : obstructedSending.events.found? (RecordName.ofStamp 1 0) =
      some (.file (.text (freshPipeline.events.recordText (planned "old")))) := by rfl
  have hread : obstructedSending.events.read (RecordName.ofStamp 1 0) = .ok (planned "old") :=
    (legible_planned freshPipeline.events "old").read_eq (t := obstructedSending.events) rfl hfound
  refine (Pipeline.startEventFlush_of_claim (p := obstructed) rfl hclaim false).trans ?_
  rw [Pipeline.sendStoredEvent_of_error rfl]
  simp only [hdelete]
  exact Pipeline.sendStoredEvent_of_read (p := obstructedSending) hread { dropped := 1 } false []

theorem flushSessions_obstructedSending :
    obstructedSending.flushSessions {} = (obstructedSendingBoth, .waiting obstructedBatch) := by
  have hread : obstructedSending.sessions.read (RecordName.ofStamp 1 0) = .ok (sessionOf 1) :=
    read_sessionOf freshPipeline.sessions rfl (by rfl)
  have hempty : obstructedSending.sessions.read (RecordName.ofStamp 0 0) =
      .error (.serialization "no record") := by rfl
  have hlist : obstructedSending.sessions.enumerate =
      .ok [RecordName.ofStamp 0 0, RecordName.ofStamp 1 0] := by rfl
  rw [Pipeline.flushSessions_of_unreserved rfl rfl hlist,
    RecordStore.readable_cons_of_error hempty, RecordStore.readable_cons_of_read hread,
    RecordStore.unreadable_cons_of_error hempty, RecordStore.unreadable_cons_of_read hread]
  rfl

/-- The transport panics while the event and the session are sent. Afterwards neither these nor
the directory that was not to be deleted are reserved: the next flush of events claims both that
are there, and the next flush of sessions sends the one that is left. -/
theorem nothing_stays_reserved_after_a_panic :
    ∃ t, Reached t ∧ t.flights = [] ∧ t.pipeline.events.reserved = [] ∧
      t.pipeline.sessions.reserved = [] ∧
      (∃ claimed, t.pipeline.events.claim =
        .ok ([RecordName.ofStamp 0 0, RecordName.ofStamp 1 0], claimed)) ∧
      ∃ q payload, payload.sessions = [sessionOf 1] ∧ t.pipeline.flushSessions {} =
        (q, .waiting (.storedSessions payload ⟨[RecordName.ofStamp 1 0], {}, none⟩)) := by
  have hopened : Reached ⟨freshPipeline, []⟩ := .opened openOn_freshPipeline
  have hstored := hopened.step (.persist freshPipeline [] (planned "old"))
  have hsent := (hstored.outside _ _).step (.flush obstructed [])
  rw [flushEvents_obstructed] at hsent
  have hboth := hsent.step (.flushSessions obstructedSending [obstructedFlight] {})
  rw [flushSessions_obstructedSending] at hboth
  have hfirst := hboth.step (.answer obstructedSendingBoth [obstructedBatch] [] obstructedFlight
    (.panic ⟨.text "broken", none⟩))
  have hpanicked : Reached ⟨obstructedOver, []⟩ := hfirst.step
    (.answer _ [] [] obstructedBatch (.panic ⟨.text "broken", none⟩))
  obtain ⟨_, _, hfree⟩ := reservations_end_with_their_calls hpanicked
  obtain ⟨hevents, hsessions, _, _, hclaim, hbatch⟩ := hfree rfl
  have hlist : obstructedOver.events.enumerate =
      .ok [RecordName.ofStamp 0 0, RecordName.ofStamp 1 0] := by rfl
  have hleft : obstructedOver.sessions.enumerate = .ok [RecordName.ofStamp 1 0] := by rfl
  obtain ⟨hall, _⟩ := hclaim _ hlist
  obtain ⟨_, hsend⟩ := hbatch _ hleft
  have hread : obstructedOver.sessions.read (RecordName.ofStamp 1 0) = .ok (sessionOf 1) :=
    read_sessionOf freshPipeline.sessions rfl (by rfl)
  have hnext := hsend {}
  rw [RecordStore.readable_cons_of_read hread, RecordStore.unreadable_cons_of_read hread] at hnext
  exact ⟨_, hpanicked, rfl, hevents, hsessions, ⟨_, hall⟩, _, _, rfl, hnext⟩

end CrashReporter
