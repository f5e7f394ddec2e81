import CrashReporter.Proofs.Pipeline.Traffic
import CrashReporter.Proofs.Store.Decoding

-- Flushes of events one at a time. Whatever calls come, in whatever order they are
-- answered, at most one flush is past the gate; it holds its records until it is over, and
-- then the gate is free. So no record is sent twice at once, and a record that the
-- collector took or refused is never sent again.

namespace CrashReporter

/-! ## The gate -/

/-- The gate is free, or one flush is past it and has reserved the records that it holds. -/
inductive Gate (p : Pipeline) : List EventFlush → Prop
  | free (h : p.flushingEvents = false) : Gate p []
  | taken (flush : EventFlush) (h : p.flushingEvents = true) (nodup : flush.records.Nodup)
      (held : ∀ name ∈ flush.records, name ∈ p.events.reserved) : Gate p [flush]

namespace Gate

variable {p q : Pipeline} {flushes : List EventFlush}

theorem length_le_one (h : Gate p flushes) : flushes.length ≤ 1 := by
  cases h <;> simp

theorem flushing_iff (h : Gate p flushes) : p.flushingEvents = true ↔ flushes ≠ [] := by
  cases h with
  | free h => simp [h]
  | taken flush h => simp [h]

theorem held_of_mem (h : Gate p flushes) {flush : EventFlush} (hmem : flush ∈ flushes) :
    ∀ name ∈ flush.records, name ∈ p.events.reserved := by
  cases h with
  | free h => cases hmem
  | taken other h nodup held =>
    obtain rfl := List.mem_singleton.1 hmem
    exact held

theorem free_of_nil (h : Gate p []) : p.flushingEvents = false := by
  cases h with
  | free h => exact h

/-- The gate stays as it is while claims and flushes do. -/
theorem congr (h : Gate p flushes) (hreserved : q.events.reserved = p.events.reserved)
    (hflushing : q.flushingEvents = p.flushingEvents) : Gate q flushes := by
  cases h with
  | free h => exact .free (hflushing.trans h)
  | taken flush h nodup held =>
    exact .taken flush (hflushing.trans h) nodup fun name hname => hreserved ▸ held name hname

end Gate

namespace Traffic

theorem flushes_answered (before after : List Flight) {flight : Flight}
    (h : flight.flush? = none) :
    flushes (before ++ flight :: after) = flushes (before ++ after) := by
  simp [flushes, h]

theorem mem_flushes {flights : List Flight} {payload : EventPayload} {flush : EventFlush}
    (h : .storedEvent payload flush ∈ flights) : flush ∈ flushes flights := by
  unfold flushes
  apply List.mem_filterMap.2
  exact ⟨_, h, rfl⟩

/-- A call that belongs to a flush is the only such call. -/
theorem gate_storedEvent {p : Pipeline} {before after : List Flight} {payload : EventPayload}
    {flush : EventFlush}
    (h : Gate p (flushes (before ++ .storedEvent payload flush :: after))) :
    p.flushingEvents = true ∧ flush.records.Nodup ∧
      (∀ name ∈ flush.records, name ∈ p.events.reserved) ∧ flushes (before ++ after) = [] := by
  have hsplit : flushes (before ++ .storedEvent payload flush :: after) =
      flushes before ++ flush :: flushes after := by
    simp [flushes, Flight.flush?]
  generalize flushes (before ++ .storedEvent payload flush :: after) = all at h hsplit
  cases h with
  | free h => simp at hsplit
  | taken other h nodup held =>
    rcases List.append_eq_singleton_iff.1 hsplit.symm with ⟨hbefore, hafter⟩ | ⟨_, hafter⟩
    · obtain ⟨rfl, hrest⟩ := List.cons.inj hafter
      refine ⟨h, nodup, held, ?_⟩
      unfold flushes at hbefore hrest ⊢
      rw [List.filterMap_append, hbefore, hrest]
      rfl
    · cases hafter

end Traffic

/-! ## What each step keeps -/

namespace Pipeline

open Traffic

variable {p : Pipeline} {flights : List Flight}

theorem mem_reserved_discard (p : Pipeline) (names : List String) (name : String) :
    name ∈ (p.discard names).events.reserved ↔ name ∈ p.events.reserved ∧ name ∉ names := by
  induction names generalizing p with
  | nil => simp
  | cons gone rest ih =>
    rw [discard_cons, ih]
    simp only [RecordStore.reserved_delete, List.mem_filter, List.mem_cons]
    simp [and_assoc]

/-- A flush that goes on holds fewer records, or is over and frees the gate. -/
theorem gate_sendStoredEvent {records : List String} (h : p.flushingEvents = true)
    (hnone : flushes flights = []) (hnodup : records.Nodup)
    (hheld : ∀ name ∈ records, name ∈ p.events.reserved) (summary : FlushSummary)
    (follows : Bool) :
    let t := goOn flights (p.sendStoredEvent summary follows records)
    Gate t.pipeline (flushes t.flights) := by
  intro t
  rcases p.sendStoredEvent_cases summary follows records with
    ⟨outcome, hsend⟩ | ⟨lost, record, rest, event, rfl, _, hsend⟩
  · simp only [t, hsend, goOn_finished, hnone]
    exact .free rfl
  · obtain ⟨_, hnodup', hdisjoint⟩ := List.nodup_append.1 hnodup
    have hflushes : flushes t.flights = [⟨record, rest, summary.drop lost.length, follows⟩] := by
      simp only [t, hsend, goOn_waiting]
      exact congrArg (List.cons _) hnone
    rw [hflushes]
    simp only [t, hsend, goOn_waiting]
    refine .taken _ h hnodup' ?_
    intro name hname
    refine (mem_reserved_discard p lost name).2 ⟨hheld name ?_, ?_⟩
    · exact List.mem_append_right _ hname
    · intro hlost
      exact hdisjoint name hlost name hname rfl

/-- A flush that begins passes the gate alone. -/
theorem gate_startEventFlush (h : Gate p (flushes flights)) (follows : Bool) :
    let t := goOn flights (p.startEventFlush follows)
    Gate t.pipeline (flushes t.flights) := by
  intro t
  cases hflushing : p.flushingEvents with
  | true =>
    simp only [t, startEventFlush_of_flushing hflushing, endEventFlush, goOn_finished]
    exact h
  | false =>
    have hnone : flushes flights = [] := by
      by_contra hne
      have := h.flushing_iff.2 hne
      simp [hflushing] at this
    rcases startEventFlush_cases hflushing follows with ⟨outcome, hstart⟩ | ⟨f, _, hstart⟩
    · simp only [t, hstart, goOn_finished]
      exact h
    · simp only [t, hstart]
      refine gate_sendStoredEvent rfl hnone ?_ ?_ _ _
      · exact f.nodup_records.filter _
      · intro name hname
        exact List.mem_append_right _ hname

/-- A step that concerns sessions alone leaves the gate as it is. -/
theorem SessionStep.gate {step : Pipeline × Progress} (hs : SessionStep p step)
    (h : Gate p (flushes flights)) :
    let t := goOn flights step
    Gate t.pipeline (flushes t.flights) := by
  obtain ⟨hsame, hflushes⟩ := hs.leaves flights
  simp only [hflushes]
  exact h.congr (by rw [hsame.events]) hsame.flushing

/-- An answer leaves at most one flush past the gate. -/
theorem gate_settle {before after : List Flight} {flight : Flight}
    (h : Gate p (flushes (before ++ flight :: after))) (status : DeliveryStatus) :
    let t := goOn (before ++ after) (p.settle flight status)
    Gate t.pipeline (flushes t.flights) := by
  cases hflush : flight.flush? with
  | none =>
    rw [flushes_answered before after hflush] at h
    cases flight with
    | storedEvent payload flush => cases hflush
    | newEvent payload =>
      cases status with
      | delivered => exact gate_startEventFlush h true
      | undelivered =>
        exact h.congr (p.reserved_persistEvents _) (p.flushingEvents_persistEvents _)
      | failure => exact h
    | newSessions payload => exact (sessionStep_settle p (.newSessions payload) rfl status).gate h
    | storedSessions payload flush =>
      exact (sessionStep_settle p (.storedSessions payload flush) rfl status).gate h
  | some flush =>
    cases flight with
    | storedEvent payload flush =>
      obtain ⟨hflushing, hnodup, hheld, hnone⟩ := gate_storedEvent h
      obtain ⟨hnot, hnodup'⟩ := List.nodup_cons.1 hnodup
      have hheld' : ∀ name ∈ flush.rest, name ∈ (p.events.delete [flush.record]).reserved := by
        intro name hname
        have hne : name ≠ flush.record := by
          rintro rfl
          exact hnot hname
        simp [hheld name (List.mem_cons_of_mem _ hname), hne]
      have hgoesOn := gate_sendStoredEvent
        (p := { p with events := p.events.delete [flush.record] }) hflushing hnone hnodup' hheld'
      cases status with
      | delivered => exact hgoesOn _ _
      | failure => exact hgoesOn _ _
      | undelivered =>
        intro t
        have hover : flushes t.flights = [] := hnone
        rw [hover]
        exact .free rfl
    | _ => cases hflush

end Pipeline

/-- Every step leaves at most one flush past the gate. -/
theorem Traffic.Step.gate {t u : Traffic} {a : Action} (hs : Step t a u)
    (h : Gate t.pipeline (flushes t.flights)) : Gate u.pipeline (flushes u.flights) := by
  cases hs with
  | deliver p flights event => exact h
  | persist p flights event => exact h.congr (p.reserved_persistEvents [event]) rfl
  | flush p flights => exact Pipeline.gate_startEventFlush h false
  | deliverSessions p flights payload around =>
    exact (Pipeline.sessionStep_startSessionFlush p around _).gate h
  | flushSessions p flights around =>
    exact (Pipeline.sessionStep_startSessionFlush p around _).gate h
  | answer p before after flight reply => exact Pipeline.gate_settle h _
  | clock p flights micros tags => exact h.congr rfl rfl

/-! ## Records that were answered -/

/-- The records that an action settles: their events were taken or refused. -/
def Action.settled : Action → List String
  | answer (.storedEvent _ sent) reply =>
    if reply.outcome = .undelivered then [] else [sent.record]
  | _ => []

/-- Those of the names that no new record takes when events are stored. -/
def Pipeline.namesKept (p : Pipeline) (names : List String) : List Event → List String
  | [] => names
  | event :: rest =>
    let name := (p.events.write event p.micros p.tags).2.toOption
    (p.persistEvent event).1.namesKept (names.filter fun n => name != some n) rest

/-- There is no file under any of the names. -/
def RecordStore.Lacks (s : RecordStore Event) (names : List String) : Prop :=
  ∀ name ∈ names, ∀ content, s.found? name ≠ some (.file content)

/-- What comes of opening a pipeline and of any calls on it, with the records that were
answered since they were written. Meanwhile the directory may become anything, save that
no file comes back that is gone. -/
inductive Answered : Traffic → List String → Prop
  | opened {settings : PipelineSettings} {disk : Disk} {p : Pipeline}
      (h : Pipeline.openOn settings disk = .ok p) : Answered ⟨p, []⟩ []
  | step {t u : Traffic} {a : Action} {names : List String} (before : Answered t names)
      (h : Traffic.Step t a u) :
      Answered u (a.settled ++ t.pipeline.namesKept names a.stored)
  | outside {p : Pipeline} {flights : List Flight} {names : List String} (place : Place)
      (before : Answered ⟨p, flights⟩ names)
      (h : ({ p.events with place } : RecordStore Event).Lacks names) :
      Answered ⟨{ p with events := { p.events with place } }, flights⟩ names

namespace Pipeline

variable {p : Pipeline}

theorem namesKept_subset (p : Pipeline) (names : List String) (events : List Event) :
    p.namesKept names events ⊆ names := by
  induction events generalizing p names with
  | nil => exact List.Subset.refl _
  | cons event rest ih =>
    exact List.Subset.trans (ih _ _) List.filter_sublist.subset

/-- Storing events brings back no file under a name that no new record takes. -/
theorem lacks_persistEvents {names : List String} (h : p.events.Lacks names)
    (events : List Event) : (p.persistEvents events).events.Lacks (p.namesKept names events) := by
  induction events generalizing p names with
  | nil => exact h
  | cons event rest ih =>
    refine ih (p := (p.persistEvent event).1) ?_
    intro name hname content hfound
    obtain ⟨hname, hother⟩ := List.mem_filter.1 hname
    rcases RecordStore.found?_write hfound with hwritten | hfound
    · simp [hwritten, Except.toOption] at hother
    · exact h name hname content hfound

theorem lacks_delete {s : RecordStore Event} {names : List String} (h : s.Lacks names)
    (gone : List String) : (s.delete gone).Lacks (gone ++ names) := by
  intro name hname content hfound
  rw [RecordStore.found?_delete] at hfound
  split at hfound
  · cases hfound
  · next hstays =>
    rcases List.mem_append.1 hname with hgone | hname
    · exact hstays ⟨hgone, by simp [hfound]⟩
    · exact h name hname content hfound

theorem lacks_discard {names : List String} (h : p.events.Lacks names) (gone : List String) :
    (p.discard gone).events.Lacks names := by
  induction gone generalizing p with
  | nil => exact h
  | cons name rest ih =>
    rw [discard_cons]
    refine ih (p := { p with events := p.events.delete [name] }) ?_
    intro other hother
    exact lacks_delete h [name] other (List.mem_cons_of_mem _ hother)

end Pipeline

open Traffic

/-- No record that was answered is there as a file, and none is on its way. -/
structure Clear (t : Traffic) (names : List String) : Prop where
  lacks : t.pipeline.events.Lacks names
  unsent : ∀ flush ∈ flushes t.flights, flush.record ∉ names

namespace Pipeline

variable {p : Pipeline} {flights : List Flight} {names : List String}

/-- What a flush sends next was a file a moment ago, so it was not answered. -/
theorem clear_sendStoredEvent (h : p.events.Lacks names)
    (hothers : ∀ flush ∈ flushes flights, flush.record ∉ names) (summary : FlushSummary)
    (follows : Bool) (records : List String) :
    Clear (goOn flights (p.sendStoredEvent summary follows records)) names := by
  rcases p.sendStoredEvent_cases summary follows records with
    ⟨outcome, hsend⟩ | ⟨lost, record, rest, event, _, hread, hsend⟩
  · rw [hsend]
    exact ⟨lacks_discard h records, hothers⟩
  · rw [hsend]
    refine ⟨lacks_discard h lost, ?_⟩
    intro flush hflush
    rcases List.mem_cons.1 hflush with rfl | hflush
    · intro hmem
      obtain ⟨content, hfound⟩ := RecordStore.found?_of_read hread
      exact lacks_discard h lost _ hmem content hfound
    · exact hothers flush hflush

theorem clear_startEventFlush (h : p.events.Lacks names)
    (hothers : ∀ flush ∈ flushes flights, flush.record ∉ names) (follows : Bool) :
    Clear (goOn flights (p.startEventFlush follows)) names := by
  cases hflushing : p.flushingEvents with
  | true =>
    rw [startEventFlush_of_flushing hflushing]
    exact ⟨h, hothers⟩
  | false =>
    rcases startEventFlush_cases hflushing follows with ⟨outcome, hstart⟩ | ⟨f, _, hstart⟩
    · rw [hstart]
      exact ⟨h, hothers⟩
    · rw [hstart]
      apply clear_sendStoredEvent
      · exact h
      · exact hothers

theorem SessionStep.clear {step : Pipeline × Progress} (hs : SessionStep p step)
    (h : p.events.Lacks names) (hothers : ∀ flush ∈ flushes flights, flush.record ∉ names) :
    Clear (goOn flights step) names := by
  obtain ⟨hsame, hflushes⟩ := hs.leaves flights
  refine ⟨?_, ?_⟩
  · rw [hsame.events]
    exact h
  · rw [hflushes]
    exact hothers

end Pipeline

namespace Clear

variable {p : Pipeline} {flights before after : List Flight} {names : List String}

theorem persistEvents (h : Clear ⟨p, flights⟩ names) (events : List Event) :
    Clear ⟨p.persistEvents events, flights⟩ (p.namesKept names events) := by
  refine ⟨Pipeline.lacks_persistEvents h.lacks events, ?_⟩
  intro flush hflush hmem
  exact h.unsent flush hflush (p.namesKept_subset names events hmem)

/-- An answer to a new event settles no record. -/
theorem settleNewEvent {payload : EventPayload}
    (h : Clear ⟨p, before ++ .newEvent payload :: after⟩ names) (reply : Answer) :
    let a := Action.answer (.newEvent payload) reply
    Clear (goOn (before ++ after) (p.settle (.newEvent payload) reply.outcome))
      (a.settled ++ p.namesKept names a.stored) := by
  obtain ⟨hlacks, hunsent⟩ := h
  have hnone : (Flight.newEvent payload).flush? = none := rfl
  simp only [flushes_answered before after hnone] at hunsent
  simp only [Action.settled, Action.stored, List.nil_append]
  cases reply.outcome with
  | delivered => exact Pipeline.clear_startEventFlush hlacks hunsent true
  | failure => exact ⟨hlacks, hunsent⟩
  | undelivered =>
    have hrest : Clear ⟨p, before ++ after⟩ names := ⟨hlacks, hunsent⟩
    exact hrest.persistEvents payload.events

/-- An answer to a stored event settles its record, which goes, or stays if the event was not
taken. -/
theorem settleStoredEvent {payload : EventPayload} {sent : EventFlush}
    (h : Clear ⟨p, before ++ .storedEvent payload sent :: after⟩ names)
    (hnone : flushes (before ++ after) = []) (reply : Answer) :
    let a := Action.answer (.storedEvent payload sent) reply
    Clear (goOn (before ++ after) (p.settle (.storedEvent payload sent) reply.outcome))
      (a.settled ++ p.namesKept names a.stored) := by
  have hothers : ∀ flush ∈ flushes (before ++ after), flush.record ∉ sent.record :: names := by
    simp [hnone]
  have hgoesOn := Pipeline.clear_sendStoredEvent
    (p := { p with events := p.events.delete [sent.record] })
    (Pipeline.lacks_delete h.lacks [sent.record]) hothers
  simp only [Action.settled, Action.stored, Pipeline.namesKept]
  cases reply.outcome with
  | delivered => exact hgoesOn _ _ _
  | failure => exact hgoesOn _ _ _
  | undelivered =>
    refine ⟨h.lacks, ?_⟩
    intro flush hflush hmem
    exact hothers flush hflush (List.mem_cons_of_mem _ hmem)

/-- An answer that concerns sessions settles no record. -/
theorem settleSessions {flight : Flight} (h : Clear ⟨p, before ++ flight :: after⟩ names)
    (hsession : flight.request.kind = .session) (status : DeliveryStatus) :
    Clear (goOn (before ++ after) (p.settle flight status)) names := by
  obtain ⟨hlacks, hunsent⟩ := h
  simp only [flushes_answered before after (Pipeline.flush?_eq_none hsession)] at hunsent
  exact (Pipeline.sessionStep_settle p flight hsession status).clear hlacks hunsent

end Clear

/-- Every step keeps answered records away. -/
theorem Traffic.Step.clear {t u : Traffic} {a : Action} {names : List String}
    (hs : Step t a u) (hgate : Gate t.pipeline (flushes t.flights)) (h : Clear t names) :
    Clear u (a.settled ++ t.pipeline.namesKept names a.stored) := by
  cases hs with
  | deliver p flights event => exact ⟨h.lacks, h.unsent⟩
  | persist p flights event => exact h.persistEvents [event]
  | flush p flights => exact Pipeline.clear_startEventFlush h.lacks h.unsent false
  | deliverSessions p flights payload around =>
    exact (Pipeline.sessionStep_startSessionFlush p around _).clear h.lacks h.unsent
  | flushSessions p flights around =>
    exact (Pipeline.sessionStep_startSessionFlush p around _).clear h.lacks h.unsent
  | clock p flights micros tags => exact ⟨h.lacks, h.unsent⟩
  | answer p before after flight reply =>
    cases flight with
    | newEvent payload => exact h.settleNewEvent reply
    | storedEvent payload sent =>
      obtain ⟨_, _, _, hnone⟩ := gate_storedEvent hgate
      exact h.settleStoredEvent hnone reply
    | newSessions payload => exact h.settleSessions rfl reply.outcome
    | storedSessions payload sent => exact h.settleSessions rfl reply.outcome

/-- Whatever happens, at most one flush is past the gate, and no answered record is left. -/
theorem Answered.gate_and_clear {t : Traffic} {names : List String} (h : Answered t names) :
    Gate t.pipeline (flushes t.flights) ∧ Clear t names := by
  induction h with
  | opened h =>
    obtain ⟨_, _, hfree⟩ := Pipeline.openOn_eq_ok h
    refine ⟨.free hfree, ?_, ?_⟩
    · intro name hname
      cases hname
    · intro flush hflush
      cases hflush
  | step before hs ih => exact ⟨hs.gate ih.1, hs.clear ih.1 ih.2⟩
  | outside place before hlacks ih => exact ⟨ih.1.congr rfl rfl, hlacks, ih.2.unsent⟩

/-! ## The laws -/

/-- At most one flush of events is under way. One that begins meanwhile, and no other, is
skipped: it is over at once and changes nothing. What is sent was not answered before. When a
flush is over, the next may begin. -/
theorem flushes_of_events_never_overlap {t : Traffic} {names : List String}
    (h : Answered t names) :
    (flushes t.flights).length ≤ 1 ∧
      (t.pipeline.flushingEvents = true ↔ flushes t.flights ≠ []) ∧
      (t.pipeline.flushEvents.2 = .finished (.flush .skipped) ↔ flushes t.flights ≠ []) ∧
      (∀ flush ∈ flushes t.flights, flush.record ∉ names ∧
        t.pipeline.flushEvents = (t.pipeline, .finished (.flush .skipped)) ∧
        t.pipeline.startEventFlush true = (t.pipeline, .finished (.status .delivered))) ∧
      (∀ follows outcome, t.pipeline.flushingEvents = false →
        (t.pipeline.startEventFlush follows).2 = .finished outcome →
        (t.pipeline.startEventFlush follows).1.flushingEvents = false) ∧
      ∀ payload flush status outcome, .storedEvent payload flush ∈ t.flights →
        (t.pipeline.settle (.storedEvent payload flush) status).2 = .finished outcome →
        (t.pipeline.settle (.storedEvent payload flush) status).1.flushingEvents = false := by
  obtain ⟨hgate, hclear⟩ := h.gate_and_clear
  have hskipped := t.pipeline.flushEvents_skipped_iff.trans hgate.flushing_iff
  refine ⟨hgate.length_le_one, hgate.flushing_iff, hskipped, ?_, ?_, ?_⟩
  · intro flush hflush
    have hflushing := hgate.flushing_iff.2 (List.ne_nil_of_mem hflush)
    refine ⟨hclear.unsent flush hflush, ?_, ?_⟩
    · exact Pipeline.startEventFlush_of_flushing hflushing false
    · exact Pipeline.startEventFlush_of_flushing hflushing true
  · intro follows outcome hfree hover
    have hnext := Pipeline.gate_startEventFlush hgate follows
    simp only [goOn, hover] at hnext
    have hnone : flushes t.flights = [] := by
      by_contra hne
      simp [hgate.flushing_iff.2 hne] at hfree
    rw [hnone] at hnext
    exact hnext.free_of_nil
  · intro payload flush status outcome hmem hover
    obtain ⟨before, after, hflights⟩ := List.append_of_mem hmem
    rw [hflights] at hgate
    have hnext := Pipeline.gate_settle hgate status
    obtain ⟨_, _, _, hnone⟩ := gate_storedEvent hgate
    simp only [goOn, hover, hnone] at hnext
    exact hnext.free_of_nil

/-- An event with the name of a plan. -/
def planned (name : String) : Event := RecordStore.eventWith "plan" (.str name)

theorem legible_planned (s : RecordStore Event) (name : String) : s.Legible (planned name) := by
  have hplain : (planned name).Plain := RecordStore.plain_eventWith ⟨trivial, trivial⟩
  have htimes : (planned name).TimesReadBack := RecordStore.timesReadBack_eventWith _ _
  have hdepth : (s.envelope (planned name)).depth ≤ Tree.depthLimit :=
    Nat.le_of_ble_eq_true rfl
  refine (RecordStore.legible_iff ((planned name).recovers hplain htimes) s).2 ⟨⟨?_, ?_⟩, hdepth⟩
  · show ∀ key ∈ ["plan"], key ∉ AppState.fieldNames
    decide
  · show ∀ key ∈ [], key ∉ DeviceState.fieldNames
    decide

/-- A pipeline that was opened on an empty disk and keeps two records of each kind. -/
def freshPipeline : Pipeline :=
  { settings :=
      { apiKey := "key"
        notifier := {}
        eventParams := .forEvents "events" "key"
        sessionParams := .forSessions "sessions" "key"
        maxEvents := 2
        maxSessions := 2 }
    events := { kind := .event, limit := 2, place := .folder Dict.empty }
    sessions := { kind := .session, limit := 2, place := .folder Dict.empty } }

theorem openOn_freshPipeline :
    Pipeline.openOn freshPipeline.settings {} = .ok freshPipeline := by
  rfl

/-- The same with two events stored. -/
def twoStored : Pipeline :=
  ((freshPipeline.persistEvent (planned "old")).1.persistEvent (planned "new")).1

/-- The same while the older one is sent. -/
def sendingOld : Pipeline :=
  { twoStored with
    events := { twoStored.events with
      reserved := [RecordName.ofStamp 1 0, RecordName.ofStamp 2 1] }
    flushingEvents := true }

/-- The same once that was refused and the newer one is sent. -/
def sendingNew : Pipeline :=
  { sendingOld with events := sendingOld.events.delete [RecordName.ofStamp 1 0] }

def oldFlight : Flight :=
  .storedEvent (sendingOld.eventPayload (planned "old"))
    ⟨RecordName.ofStamp 1 0, [RecordName.ofStamp 2 1], {}, false⟩

def newFlight : Flight :=
  .storedEvent (sendingNew.eventPayload (planned "new"))
    ⟨RecordName.ofStamp 2 1, [], { dropped := 1 }, false⟩

theorem flushEvents_twoStored : twoStored.flushEvents = (sendingOld, .waiting oldFlight) := by
  have hclaim : twoStored.events.claim =
      .ok ([RecordName.ofStamp 1 0, RecordName.ofStamp 2 1], sendingOld.events) := by rfl
  have hfound : sendingOld.events.found? (RecordName.ofStamp 1 0) =
      some (.file (.text (freshPipeline.events.recordText (planned "old")))) := by rfl
  have hread : sendingOld.events.read (RecordName.ofStamp 1 0) = .ok (planned "old") :=
    (legible_planned freshPipeline.events "old").read_eq (t := sendingOld.events) rfl hfound
  have hbegin := Pipeline.startEventFlush_of_claim (p := twoStored) rfl hclaim false
  exact hbegin.trans (Pipeline.sendStoredEvent_of_read (p := sendingOld) hread {} false _)

theorem settle_oldFlight :
    sendingOld.settle oldFlight .failure = (sendingNew, .waiting newFlight) := by
  have hfound : sendingNew.events.found? (RecordName.ofStamp 2 1) =
      some (.file (.text (freshPipeline.events.recordText (planned "new")))) := by rfl
  have hread : sendingNew.events.read (RecordName.ofStamp 2 1) = .ok (planned "new") :=
    (legible_planned freshPipeline.events "new").read_eq (t := sendingNew.events) rfl hfound
  exact Pipeline.sendStoredEvent_of_read (p := sendingNew) hread { dropped := 1 } false []

/-- While the newer of two events is sent, the older one that was refused is not, and no
other flush begins. -/
theorem a_refused_event_is_gone_while_the_next_is_sent :
    Answered ⟨sendingNew, [newFlight]⟩ [RecordName.ofStamp 1 0] ∧
      flushes [newFlight] = [⟨RecordName.ofStamp 2 1, [], { dropped := 1 }, false⟩] ∧
      RecordName.ofStamp 2 1 ∉ [RecordName.ofStamp 1 0] ∧
      sendingNew.flushEvents = (sendingNew, .finished (.flush .skipped)) := by
  have hopened : Answered ⟨freshPipeline, []⟩ [] := .opened openOn_freshPipeline
  have hstored : Answered ⟨twoStored, []⟩ [] :=
    (hopened.step (.persist _ [] (planned "old"))).step (.persist _ [] (planned "new"))
  have hsent := hstored.step (.flush _ [])
  rw [flushEvents_twoStored] at hsent
  have hanswered := hsent.step (.answer sendingOld [] [] oldFlight (.status .failure))
  rw [show (Answer.status .failure).outcome = .failure from rfl, settle_oldFlight] at hanswered
  obtain ⟨_, _, _, hothers, _⟩ := flushes_of_events_never_overlap hanswered
  obtain ⟨hother, hskipped, _⟩ := hothers _ List.mem_cons_self
  exact ⟨hanswered, rfl, hother, hskipped⟩

end CrashReporter
