import CrashReporter.Proofs.Pipeline.Traffic
import CrashReporter.Proofs.Store.Readable

-- Flushes of sessions one at a time. What each call does to the stored sessions is said here
-- once: a flush that is under way has reserved exactly the records whose sessions it sends,
-- and while none is, no record is reserved.

namespace CrashReporter

/-! ## Flushes of sessions -/

/-- The flush that a call belongs to, if it sends stored sessions. -/
def Flight.sessionFlush? : Flight → Option SessionFlush
  | .storedSessions _ flush => some flush
  | _ => none

/-- The flushes of sessions that are under way. -/
def Traffic.sessionFlushes (flights : List Flight) : List SessionFlush :=
  flights.filterMap Flight.sessionFlush?

/-- No flush of sessions is under way and no record is reserved, or one is and has reserved
exactly the records that it holds. -/
inductive SessionGate (p : Pipeline) : List SessionFlush → Prop
  | free (h : p.flushingSessions = false) (none : p.sessions.reserved = []) : SessionGate p []
  | taken (flush : SessionFlush) (h : p.flushingSessions = true) (nodup : flush.records.Nodup)
      (held : ∀ name, name ∈ p.sessions.reserved ↔ name ∈ flush.records) : SessionGate p [flush]

namespace SessionGate

variable {p q : Pipeline} {flushes : List SessionFlush}

theorem flushing_iff (h : SessionGate p flushes) : p.flushingSessions = true ↔ flushes ≠ [] := by
  cases h with
  | free h none => simp [h]
  | taken flush h nodup held => simp [h]

theorem reserved_iff (h : SessionGate p flushes) (name : String) :
    name ∈ p.sessions.reserved ↔ ∃ flush ∈ flushes, name ∈ flush.records := by
  cases h with
  | free h none => simp [none]
  | taken flush h nodup held => simp [held]

theorem free_of_nil (h : SessionGate p []) :
    p.flushingSessions = false ∧ p.sessions.reserved = [] := by
  cases h with
  | free h none => exact ⟨h, none⟩

/-- The gate stays as it is while claims and flushes do. -/
theorem congr (h : SessionGate p flushes) (hreserved : q.sessions.reserved = p.sessions.reserved)
    (hflushing : q.flushingSessions = p.flushingSessions) : SessionGate q flushes := by
  cases h with
  | free h none => exact .free (hflushing.trans h) (hreserved.trans none)
  | taken flush h nodup held =>
    exact .taken flush (hflushing.trans h) nodup fun name => hreserved ▸ held name

end SessionGate

namespace Traffic

theorem sessionFlushes_answered (before after : List Flight) {flight : Flight}
    (h : flight.sessionFlush? = none) :
    sessionFlushes (before ++ flight :: after) = sessionFlushes (before ++ after) := by
  simp [sessionFlushes, h]

theorem mem_sessionFlushes {flights : List Flight} {payload : SessionPayload}
    {flush : SessionFlush} (h : .storedSessions payload flush ∈ flights) :
    flush ∈ sessionFlushes flights := by
  unfold sessionFlushes
  exact List.mem_filterMap.2 ⟨_, h, rfl⟩

/-- A call that belongs to a flush of sessions is the only such call. -/
theorem gate_storedSessions {p : Pipeline} {before after : List Flight}
    {payload : SessionPayload} {flush : SessionFlush}
    (h : SessionGate p (sessionFlushes (before ++ .storedSessions payload flush :: after))) :
    flush.records.Nodup ∧ (∀ name, name ∈ p.sessions.reserved ↔ name ∈ flush.records) ∧
      sessionFlushes (before ++ after) = [] := by
  have hsplit : sessionFlushes (before ++ .storedSessions payload flush :: after) =
      sessionFlushes before ++ flush :: sessionFlushes after := by
    simp [sessionFlushes, Flight.sessionFlush?]
  generalize sessionFlushes (before ++ .storedSessions payload flush :: after) = all at h hsplit
  cases h with
  | free h none => simp at hsplit
  | taken other h nodup held =>
    rcases List.append_eq_singleton_iff.1 hsplit.symm with ⟨hbefore, hafter⟩ | ⟨_, hafter⟩
    · obtain ⟨rfl, hrest⟩ := List.cons.inj hafter
      refine ⟨nodup, held, ?_⟩
      unfold sessionFlushes at hbefore hrest ⊢
      rw [List.filterMap_append, hbefore, hrest]
      rfl
    · cases hafter

end Traffic

namespace Pipeline

open Traffic

variable {p : Pipeline} {flights : List Flight}

/-! ## Opening -/

theorem openOn_sessions {settings : PipelineSettings} {disk : Disk}
    (h : openOn settings disk = .ok p) :
    RecordStore.openAt .session settings.maxSessions disk.sessions = .ok p.sessions ∧
      p.settings = settings ∧ p.flushingSessions = false := by
  simp only [openOn, bind, Except.bind] at h
  split at h
  · cases h
  · split at h
    · cases h
    · next sessions hsessions =>
      cases h
      exact ⟨hsessions, rfl, rfl⟩

/-! ## Events -/

/-- Nothing of what concerns sessions has changed. -/
structure SameSessions (p q : Pipeline) : Prop where
  settings : q.settings = p.settings
  sessions : q.sessions = p.sessions
  flushing : q.flushingSessions = p.flushingSessions

/-- A step that concerns events alone: sessions are as they were, and what is sent holds
none. -/
structure EventStep (p : Pipeline) (step : Pipeline × Progress) : Prop where
  same : SameSessions p step.1
  sends : ∀ flight, step.2 = .waiting flight → flight.request.kind = .event

theorem EventStep.of_same {q : Pipeline} (h : SameSessions p q) {step : Pipeline × Progress}
    (hs : EventStep q step) : EventStep p step := by
  refine ⟨⟨?_, ?_, ?_⟩, hs.sends⟩
  · exact hs.same.settings.trans h.settings
  · exact hs.same.sessions.trans h.sessions
  · exact hs.same.flushing.trans h.flushing

theorem eventStep_endEventFlush {q : Pipeline} (h : SameSessions p q) (outcome : FlushOutcome)
    (follows : Bool) : EventStep p (q.endEventFlush outcome follows) :=
  ⟨h, fun _ heq => nomatch heq⟩

theorem eventStep_sendStoredEvent (p : Pipeline) (summary : FlushSummary) (follows : Bool)
    (records : List String) : EventStep p (p.sendStoredEvent summary follows records) := by
  induction records generalizing p summary with
  | nil =>
    apply eventStep_endEventFlush
    exact ⟨rfl, rfl, rfl⟩
  | cons record rest ih =>
    unfold sendStoredEvent
    cases p.events.read record with
    | ok event =>
      refine ⟨⟨rfl, rfl, rfl⟩, ?_⟩
      intro flight heq
      obtain rfl := Progress.waiting.inj heq
      rfl
    | error e =>
      have hdeleted : SameSessions p { p with events := p.events.delete [record] } :=
        ⟨rfl, rfl, rfl⟩
      exact .of_same hdeleted (ih _ _)

theorem eventStep_startEventFlush (p : Pipeline) (follows : Bool) :
    EventStep p (p.startEventFlush follows) := by
  have hself : SameSessions p p := ⟨rfl, rfl, rfl⟩
  unfold startEventFlush
  split
  · exact eventStep_endEventFlush hself _ _
  · cases p.events.claim with
    | error e => exact eventStep_endEventFlush hself _ _
    | ok claimed =>
      have hclaimed : SameSessions p { p with events := claimed.2, flushingEvents := true } :=
        ⟨rfl, rfl, rfl⟩
      exact .of_same hclaimed (eventStep_sendStoredEvent _ _ _ _)

theorem sameSessions_persistEvents (p : Pipeline) (events : List Event) :
    SameSessions p (p.persistEvents events) := by
  unfold persistEvents
  induction events generalizing p with
  | nil => exact ⟨rfl, rfl, rfl⟩
  | cons event rest ih =>
    obtain ⟨hsettings, hsessions, hflushing⟩ := ih (p.persistEvent event).1
    exact ⟨hsettings, hsessions, hflushing⟩

/-- The answer to an event that was sent concerns events alone. -/
theorem eventStep_settle (p : Pipeline) (flight : Flight) (h : flight.request.kind = .event)
    (status : DeliveryStatus) : EventStep p (p.settle flight status) := by
  cases flight with
  | newSessions payload => cases h
  | storedSessions payload flush => cases h
  | newEvent payload =>
    cases status with
    | delivered => exact eventStep_startEventFlush p true
    | undelivered =>
      exact ⟨sameSessions_persistEvents p payload.events, fun _ heq => nomatch heq⟩
    | failure => exact ⟨⟨rfl, rfl, rfl⟩, fun _ heq => nomatch heq⟩
  | storedEvent payload flush =>
    have hdeleted : SameSessions p { p with events := p.events.delete [flush.record] } :=
      ⟨rfl, rfl, rfl⟩
    cases status with
    | delivered => exact .of_same hdeleted (eventStep_sendStoredEvent _ _ _ _)
    | failure => exact .of_same hdeleted (eventStep_sendStoredEvent _ _ _ _)
    | undelivered =>
      apply eventStep_endEventFlush
      exact ⟨rfl, rfl, rfl⟩

/-- What is sent besides holds no sessions. -/
theorem EventStep.adds {step : Pipeline × Progress} (h : EventStep p step)
    (flights : List Flight) :
    SameSessions p (goOn flights step).pipeline ∧
      ∃ added, (goOn flights step).flights = added ++ flights ∧
        ∀ flight ∈ added, flight.request.kind = .event := by
  obtain ⟨q, progress⟩ := step
  cases progress with
  | finished outcome => exact ⟨h.same, [], rfl, fun _ hflight => nomatch hflight⟩
  | waiting flight =>
    refine ⟨h.same, [flight], rfl, ?_⟩
    intro other hother
    obtain rfl := List.mem_singleton.1 hother
    exact h.sends other rfl

theorem sessionFlush?_eq_none {flight : Flight} (h : flight.request.kind = .event) :
    flight.sessionFlush? = none := by
  cases flight with
  | storedSessions payload flush => cases h
  | _ => rfl

/-- A step that concerns events alone leaves the gate of sessions as it is. -/
theorem EventStep.gate {step : Pipeline × Progress} (hs : EventStep p step)
    (h : SessionGate p (sessionFlushes flights)) :
    let t := goOn flights step
    SessionGate t.pipeline (sessionFlushes t.flights) := by
  obtain ⟨hsame, added, hflights, hevents⟩ := hs.adds flights
  have hnone : sessionFlushes added = [] :=
    List.filterMap_eq_nil_iff.2 fun flight hflight => sessionFlush?_eq_none (hevents flight hflight)
  have hflushes : sessionFlushes (goOn flights step).flights = sessionFlushes flights := by
    unfold sessionFlushes at hnone ⊢
    rw [hflights, List.filterMap_append, hnone, List.nil_append]
  simp only [hflushes]
  exact h.congr (by rw [hsame.sessions]) hsame.flushing

/-! ## Reading stored sessions -/

/-- Each record is read, or it cannot be read and is deleted. -/
theorem readSessions_eq (p : Pipeline) {records : List String} (hnodup : records.Nodup) :
    p.readSessions records =
      ({ p with sessions := p.sessions.delete (p.sessions.unreadable records) },
        p.sessions.readable records, (p.sessions.unreadable records).length) := by
  induction records generalizing p with
  | nil =>
    show (p, [], 0) = ({ p with sessions := p.sessions.delete [] }, [], 0)
    rw [RecordStore.delete_nil]
  | cons record rest ih =>
    obtain ⟨hnot, hnodup⟩ := List.nodup_cons.1 hnodup
    unfold readSessions
    cases hread : p.sessions.read record with
    | ok session =>
      rw [RecordStore.readable_cons_of_read hread, RecordStore.unreadable_cons_of_read hread]
      simp only [ih p hnodup]
    | error reason =>
      have hsame : ∀ name ∈ rest, (p.sessions.delete [record]).read name =
          p.sessions.read name := by
        intro name hname
        apply RecordStore.read_delete
        rintro rfl
        exact hnot hname
      rw [RecordStore.readable_cons_of_error hread, RecordStore.unreadable_cons_of_error hread]
      simp only [ih { p with sessions := p.sessions.delete [record] } hnodup,
        RecordStore.readable_congr hsame, RecordStore.unreadable_congr hsame,
        RecordStore.delete_delete, List.singleton_append, List.length_cons]

/-- Records that can all be read are read, and nothing is deleted. -/
theorem readSessions_of_read {found : List (String × SessionSnapshot)}
    (h : ∀ e ∈ found, p.sessions.read e.1 = .ok e.2) :
    p.readSessions (found.map (·.1)) = (p, found, 0) := by
  induction found with
  | nil => rfl
  | cons e rest ih =>
    have hrest := ih fun other hother => h other (List.mem_cons_of_mem _ hother)
    rw [List.map_cons]
    unfold readSessions
    rw [h e List.mem_cons_self]
    simp only [hrest]

/-! ## Beginning a flush -/

/-- The pipeline with every record of sessions reserved that nobody has claimed. -/
def claimSessions (p : Pipeline) : Pipeline :=
  { p with sessions :=
      { p.sessions with
        reserved := p.sessions.reserved ++ p.sessions.unclaimed p.sessions.names } }

/-- The sessions of some records, as one payload. -/
def batch (p : Pipeline) (around : Surroundings) (found : List (String × SessionSnapshot)) :
    SessionPayload :=
  ⟨p.settings.notifier, around.app, around.device, found.map (·.2)⟩

theorem startSessionFlush_of_flushing (h : p.flushingSessions = true) (around : Surroundings)
    (next : Option SessionPayload) :
    p.startSessionFlush around next = p.endSessionFlush .skipped next := by
  unfold startSessionFlush
  rw [if_pos h]

/-- A flush that can read all that it claims sends it. -/
theorem startSessionFlush_of_claim (found : List (String × SessionSnapshot))
    {claimed : RecordStore SessionSnapshot} (h : p.flushingSessions = false)
    (hclaim : p.sessions.claim = .ok (found.map (·.1), claimed))
    (hread : ∀ e ∈ found, claimed.read e.1 = .ok e.2) (hsome : found ≠ []) (around : Surroundings)
    (next : Option SessionPayload) :
    p.startSessionFlush around next =
      ({ p with sessions := claimed, flushingSessions := true },
        .waiting (.storedSessions (p.batch around found) ⟨found.map (·.1), {}, next⟩)) := by
  have hreads := readSessions_of_read (p := { p with sessions := claimed }) hread
  unfold startSessionFlush
  rw [if_neg (by simp [h]), hclaim]
  simp only [hreads]
  rw [if_neg (by simpa using hsome)]
  rfl

/-- A flush that begins while none is under way claims what is free; where there is no directory
that is nothing. What cannot be read is deleted, and the rest is sent, if anything is left. -/
theorem startSessionFlush_of_free (h : p.flushingSessions = false) {records : List String}
    (hrecords : p.sessions.unclaimed p.sessions.names = records) (around : Surroundings)
    (next : Option SessionPayload) :
    p.startSessionFlush around next =
      let found := p.sessions.readable records
      let lost := p.sessions.unreadable records
      let sessions := p.claimSessions.sessions.delete lost
      if found.isEmpty then
        { p with sessions }.endSessionFlush (.completed { dropped := lost.length }) next
      else
        ({ p with sessions, flushingSessions := true },
          .waiting (.storedSessions (p.batch around found)
            ⟨found.map (·.1), { dropped := lost.length }, next⟩)) := by
  subst hrecords
  unfold startSessionFlush
  rw [if_neg (by simp [h])]
  rcases p.sessions.claim_cases with ⟨e, hclaim⟩ | ⟨f, hplace⟩
  · have hnames := RecordStore.names_of_claim_error hclaim
    have hover : ({ p with sessions := p.claimSessions.sessions.delete [] } : Pipeline) = p := by
      simp [RecordStore.delete_nil, claimSessions, RecordStore.unclaimed, hnames]
    rw [hclaim, hnames]
    exact (congrArg (endSessionFlush · (.completed {}) next) hover).symm
  · have hread : ∀ name ∈ p.sessions.unclaimed p.sessions.names,
        p.claimSessions.sessions.read name = p.sessions.read name :=
      fun name _ => RecordStore.read_congr rfl rfl
    have hreads := p.claimSessions.readSessions_eq (p.sessions.nodup_names.filter
      fun name => !p.sessions.reserved.contains name)
    rw [RecordStore.claim_of_folder hplace]
    unfold claimSessions at hreads hread ⊢
    simp only [RecordStore.unclaimed] at hreads hread ⊢
    simp only [hreads, RecordStore.readable_congr hread, RecordStore.unreadable_congr hread]
    rfl

/-- Either the directory cannot be listed, or some of what was claimed is sent and the rest of it
deleted. -/
theorem startSessionFlush_cases (h : p.flushingSessions = false) (around : Surroundings)
    (next : Option SessionPayload) :
    (∃ e, p.sessions.claim = .error e ∧
        p.startSessionFlush around next = p.endSessionFlush (.completed {}) next) ∨
      ∃ (f : Folder) (found : List (String × SessionSnapshot)) (lost : List String),
        p.sessions.place = .folder f ∧
        (found.map (·.1) ++ lost).Perm (p.sessions.unclaimed p.sessions.names) ∧
        (∀ e ∈ found, p.sessions.read e.1 = .ok e.2) ∧
        (∀ name ∈ lost, ∃ reason, p.sessions.read name = .error reason) ∧
        p.startSessionFlush around next =
          if found.isEmpty then
            { p with sessions := p.claimSessions.sessions.delete lost }.endSessionFlush
              (.completed { dropped := lost.length }) next
          else
            ({ p with sessions := p.claimSessions.sessions.delete lost, flushingSessions := true },
              .waiting (.storedSessions (p.batch around found)
                ⟨found.map (·.1), { dropped := lost.length }, next⟩)) := by
  rcases p.sessions.claim_cases with ⟨e, hclaim⟩ | ⟨f, hplace⟩
  · unfold startSessionFlush
    rw [if_neg (by simp [h]), hclaim]
    exact .inl ⟨e, rfl, rfl⟩
  · exact .inr ⟨f, _, _, hplace, p.sessions.perm_readable_append _,
      fun e he => RecordStore.read_of_mem_readable he,
      fun name hname => RecordStore.read_of_mem_unreadable hname,
      startSessionFlush_of_free h rfl around next⟩

/-! ## What each step keeps -/

theorem sessionFlushes_endSessionFlush (q : Pipeline) (outcome : FlushOutcome)
    (next : Option SessionPayload) (flights : List Flight) :
    (goOn flights (q.endSessionFlush outcome next)).pipeline = q ∧
      sessionFlushes (goOn flights (q.endSessionFlush outcome next)).flights =
        sessionFlushes flights := by
  cases next with
  | none => exact ⟨rfl, rfl⟩
  | some payload => exact ⟨rfl, rfl⟩

theorem gate_endSessionFlush (h : SessionGate p (sessionFlushes flights)) (outcome : FlushOutcome)
    (next : Option SessionPayload) :
    let t := goOn flights (p.endSessionFlush outcome next)
    SessionGate t.pipeline (sessionFlushes t.flights) := by
  obtain ⟨hpipeline, hflushes⟩ := sessionFlushes_endSessionFlush p outcome next flights
  simp only [hpipeline, hflushes]
  exact h

/-- A flush that begins passes the gate alone. -/
theorem gate_startSessionFlush (h : SessionGate p (sessionFlushes flights)) (around : Surroundings)
    (next : Option SessionPayload) :
    let t := goOn flights (p.startSessionFlush around next)
    SessionGate t.pipeline (sessionFlushes t.flights) := by
  intro t
  cases hflushing : p.flushingSessions with
  | true =>
    simp only [t, startSessionFlush_of_flushing hflushing]
    exact gate_endSessionFlush h _ _
  | false =>
    have hnone : sessionFlushes flights = [] := by
      by_contra hne
      have := h.flushing_iff.2 hne
      simp [hflushing] at this
    rcases startSessionFlush_cases hflushing around next with
      ⟨_, _, hstart⟩ | ⟨_, found, lost, _, hperm, _, _, hstart⟩
    · simp only [t, hstart]
      exact gate_endSessionFlush h _ _
    · have hfree : p.sessions.reserved = [] := by
        rw [hnone] at h
        exact h.free_of_nil.2
      have hnodup : (found.map (·.1) ++ lost).Nodup :=
        hperm.nodup_iff.2 (p.sessions.nodup_names.filter _)
      obtain ⟨hnodupFound, _, hdisjoint⟩ := List.nodup_append.1 hnodup
      -- What is reserved after reading is what could be read.
      have hreserved : ∀ name, name ∈ (p.claimSessions.sessions.delete lost).reserved ↔
          name ∈ found.map (·.1) := by
        intro name
        have hclaimed : p.claimSessions.sessions.reserved =
            p.sessions.unclaimed p.sessions.names := by
          show p.sessions.reserved ++ p.sessions.unclaimed p.sessions.names = _
          rw [hfree, List.nil_append]
        rw [RecordStore.reserved_delete, hclaimed, List.mem_filter, ← hperm.mem_iff,
          List.mem_append]
        simp only [List.contains_eq_mem, Bool.not_eq_true', decide_eq_false_iff_not]
        constructor
        · rintro ⟨hfound | hlost, hnot⟩
          · exact hfound
          · exact absurd hlost hnot
        · intro hfound
          exact ⟨.inl hfound, fun hlost => hdisjoint name hfound name hlost rfl⟩
      cases hempty : found.isEmpty with
      | true =>
        simp only [t, hstart, hempty, if_true]
        apply gate_endSessionFlush
        rw [hnone]
        refine .free hflushing (List.eq_nil_iff_forall_not_mem.2 ?_)
        intro name hname
        rw [hreserved, List.isEmpty_iff.1 hempty] at hname
        cases hname
      | false =>
        simp only [t, hstart, hempty, Bool.false_eq_true, if_false, goOn_waiting]
        have hflushes : ∀ payload flush, sessionFlushes (.storedSessions payload flush :: flights) =
            [flush] := by
          intro payload flush
          exact congrArg (List.cons flush) hnone
        rw [hflushes]
        exact .taken _ rfl hnodupFound hreserved

theorem reserved_persistSessions (p : Pipeline) (sessions : List SessionSnapshot) :
    (p.persistSessions sessions).1.sessions.reserved = p.sessions.reserved ∧
      (p.persistSessions sessions).1.flushingSessions = p.flushingSessions := by
  induction sessions generalizing p with
  | nil => exact ⟨rfl, rfl⟩
  | cons session rest ih =>
    obtain ⟨hreserved, hflushing⟩ := ih (p.persistSession session).1
    refine ⟨hreserved.trans ?_, hflushing⟩
    exact RecordStore.reserved_write _ _ _ _

/-- Storing sessions leaves the gate as it is. -/
theorem gate_persistSessions {flushes : List SessionFlush} (h : SessionGate p flushes)
    (sessions : List SessionSnapshot) : SessionGate (p.persistSessions sessions).1 flushes := by
  obtain ⟨hreserved, hflushing⟩ := p.reserved_persistSessions sessions
  exact h.congr hreserved hflushing

/-- An answer leaves at most one flush of sessions past the gate. -/
theorem sessionGate_settle {before after : List Flight} {flight : Flight}
    (h : SessionGate p (sessionFlushes (before ++ flight :: after))) (status : DeliveryStatus) :
    let t := goOn (before ++ after) (p.settle flight status)
    SessionGate t.pipeline (sessionFlushes t.flights) := by
  cases flight with
  | newEvent payload =>
    rw [sessionFlushes_answered before after rfl] at h
    exact (eventStep_settle p (.newEvent payload) rfl status).gate h
  | storedEvent payload flush =>
    rw [sessionFlushes_answered before after rfl] at h
    exact (eventStep_settle p (.storedEvent payload flush) rfl status).gate h
  | newSessions payload =>
    rw [sessionFlushes_answered before after rfl] at h
    cases status with
    | delivered => exact h
    | failure => exact h
    | undelivered => exact gate_persistSessions h payload.sessions
  | storedSessions payload flush =>
    obtain ⟨_, hheld, hnone⟩ := gate_storedSessions h
    -- Whether its records are deleted or given up, none stays reserved.
    have hgone : (p.sessions.reserved.filter fun name => !flush.records.contains name) = [] := by
      apply List.filter_eq_nil_iff.2
      intro name hname
      simp [(hheld name).1 hname]
    have hover : ∀ sessions : RecordStore SessionSnapshot, sessions.reserved = [] →
        SessionGate { p with sessions, flushingSessions := false }
          (sessionFlushes (before ++ after)) := by
      intro sessions hempty
      rw [hnone]
      exact .free rfl hempty
    cases status with
    | delivered =>
      exact gate_endSessionFlush (hover _ ((RecordStore.reserved_delete _ _).trans hgone)) _ _
    | failure =>
      exact gate_endSessionFlush (hover _ ((RecordStore.reserved_delete _ _).trans hgone)) _ _
    | undelivered => exact gate_endSessionFlush (hover _ hgone) _ _

end Pipeline

/-- Every step leaves at most one flush of sessions past the gate. -/
theorem Traffic.Step.sessionGate {t u : Traffic} {a : Action} (hs : Step t a u)
    (h : SessionGate t.pipeline (sessionFlushes t.flights)) :
    SessionGate u.pipeline (sessionFlushes u.flights) := by
  cases hs with
  | deliver p flights event => exact h
  | persist p flights event => exact h.congr rfl rfl
  | flush p flights => exact (Pipeline.eventStep_startEventFlush p false).gate h
  | deliverSessions p flights payload around => exact Pipeline.gate_startSessionFlush h around _
  | flushSessions p flights around => exact Pipeline.gate_startSessionFlush h around _
  | answer p before after flight reply => exact Pipeline.sessionGate_settle h _
  | clock p flights micros tags => exact h.congr rfl rfl

end CrashReporter
