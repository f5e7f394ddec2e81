import CrashReporter.Proofs.Pipeline.SingleFlight
import Mathlib.Algebra.Order.Group.Multiset
import Mathlib.Tactic.Abel

-- Where every event is that was handed to a pipeline: the collector took it or refused it,
-- it is stored, retention took it, or it is on its way for the first time. Nothing is lost
-- and nothing is there twice, whatever the collector answers and in whatever order.

namespace CrashReporter

open Traffic

/-! ## The ledger -/

/-- What became of the events so far. -/
structure Ledger where
  handed : Multiset Event := 0
  delivered : Multiset Event := 0
  failed : Multiset Event := 0
  /-- Retention took them. -/
  evicted : Multiset Event := 0
  /-- The payload that the event of a record was first tried with. -/
  first : String → Option EventPayload := fun _ => none

/-- The events that an action hands in. -/
def Action.handed : Action → List Event
  | deliver event => [event]
  | persist event => [event]
  | _ => []

/-- The events that are on their way for the first time. -/
def Flight.newEvents : Flight → List Event
  | newEvent payload => payload.events
  | _ => []

/-- The events that are on their way, new or stored. -/
def Flight.events (flight : Flight) : List Event :=
  match flight.request with
  | .events payload => payload.events
  | .sessions _ => []

def Traffic.onTheWay (flights : List Flight) : Multiset Event := ↑(flights.flatMap Flight.newEvents)

namespace Ledger

/-- Events of a payload were stored one after the other. -/
def store (l : Ledger) (p : Pipeline) (payload : EventPayload) : List Event → Ledger
  | [] => l
  | event :: rest =>
    let name := (p.events.write event p.micros p.tags).2.toOption
    { l with
      evicted := l.evicted + p.events.evicted event p.micros p.tags
      first := fun n => if name = some n then some payload else l.first n }.store
      (p.persistEvent event).1 payload rest

theorem first_store (l : Ledger) (p : Pipeline) (payload : EventPayload) (event : Event)
    (name : String) :
    (l.store p payload [event]).first name =
      if (p.events.write event p.micros p.tags).2.toOption = some name then some payload
      else l.first name := rfl

/-- The ledger after an action on a pipeline. -/
def after (l : Ledger) (p : Pipeline) : Action → Ledger
  | .deliver event => { l with handed := event ::ₘ l.handed }
  | .persist event => { l with handed := event ::ₘ l.handed }.store p (p.eventPayload event) [event]
  | .answer (.newEvent payload) reply =>
    match reply.outcome with
    | .delivered => { l with delivered := payload.events + l.delivered }
    | .failure => { l with failed := payload.events + l.failed }
    | .undelivered => l.store p payload payload.events
  | .answer (.storedEvent payload _) reply =>
    match reply.outcome with
    | .delivered => { l with delivered := payload.events + l.delivered }
    | .failure => { l with failed := payload.events + l.failed }
    | .undelivered => l
  | _ => l

end Ledger

/-- A record can be written: there is a stamp for the present time, and something tells the
name of the record from those that are there. -/
def Pipeline.MayWrite (p : Pipeline) : Prop :=
  p.micros ≤ RecordName.lastStamp ∧ p.events.TellsApart p.tags

/-- Any calls on a pipeline whose store held no events, with the ledger of all events. Between
calls it may be opened again where it left off. Events that are handed in read back from
their records. -/
inductive Run : Traffic → Ledger → Prop
  | opened {settings : PipelineSettings} {disk : Disk} {p : Pipeline}
      (h : Pipeline.openOn settings disk = .ok p) (empty : p.events.names = []) : Run ⟨p, []⟩ {}
  | step {t u : Traffic} {a : Action} {l : Ledger} (before : Run t l) (h : Step t a u)
      (legible : ∀ event ∈ a.handed, t.pipeline.events.Legible event)
      (mayWrite : a.stored ≠ [] → t.pipeline.MayWrite) : Run u (l.after t.pipeline a)
  | reopened {p q : Pipeline} {l : Ledger} (before : Run ⟨p, []⟩ l)
      (h : Pipeline.openOn p.settings p.disk = .ok q) : Run ⟨q, []⟩ l

/-! ## The invariant -/

/-- All events are accounted for, save those in hand: between two places. -/
structure Accounted (t : Traffic) (l : Ledger) (inHand : Multiset Event) : Prop where
  orderly : ∃ f, t.pipeline.events.Orderly f
  kind : t.pipeline.events.kind = .event
  readable : ∀ name ∈ t.pipeline.events.names, ∃ event,
    t.pipeline.events.read name = .ok event ∧
      l.first name = some (t.pipeline.eventPayload event)
  fresh : ∀ payload, .newEvent payload ∈ t.flights → ∃ event,
    payload = t.pipeline.eventPayload event ∧ t.pipeline.events.Legible event
  resent : ∀ payload flush, .storedEvent payload flush ∈ t.flights → ∃ event,
    payload = t.pipeline.eventPayload event ∧ t.pipeline.events.read flush.record = .ok event
  balance : l.handed = l.delivered + l.failed + t.pipeline.events.items + l.evicted +
    onTheWay t.flights + inHand

namespace Accounted

variable {p q : Pipeline} {flights : List Flight} {l : Ledger} {inHand : Multiset Event}

theorem eventPayload_congr (h : q.settings = p.settings) : q.eventPayload = p.eventPayload := by
  funext event
  unfold Pipeline.eventPayload
  rw [h]

/-- What matters of a pipeline is how it sends events and what its directory holds. -/
theorem congr (h : Accounted ⟨p, flights⟩ l inHand) (hsettings : q.settings = p.settings)
    (hplace : q.events.place = p.events.place) (hkind : q.events.kind = p.events.kind)
    (horderly : ∃ f, q.events.Orderly f) : Accounted ⟨q, flights⟩ l inHand := by
  have hpayload := eventPayload_congr hsettings
  have hnames : q.events.names = p.events.names := by
    unfold RecordStore.names
    rw [hplace]
  have hread : ∀ name, q.events.read name = p.events.read name := by
    intro name
    refine RecordStore.read_congr hkind ?_
    unfold RecordStore.found?
    rw [hplace]
  have hitems : q.events.items = p.events.items := by
    unfold RecordStore.items
    rw [hnames]
    exact RecordStore.itemsOf_congr fun name _ => hread name
  refine ⟨horderly, hkind.trans h.kind, ?_, ?_, ?_, ?_⟩
  · intro name hname
    simp only [hread, hpayload]
    exact h.readable name (hnames ▸ hname)
  · intro payload hmem
    obtain ⟨event, hevent, hlegible⟩ := h.fresh payload hmem
    exact ⟨event, hpayload ▸ hevent, hlegible.congr hkind⟩
  · intro payload flush hmem
    simp only [hread, hpayload]
    exact h.resent payload flush hmem
  · simp only [hitems]
    exact h.balance

/-- A call that is over takes nothing with it but its own events. -/
theorem answered {before after : List Flight} {flight : Flight}
    (h : Accounted ⟨p, before ++ flight :: after⟩ l inHand) :
    Accounted ⟨p, before ++ after⟩ l (inHand + flight.newEvents) := by
  have hsub : ∀ other ∈ before ++ after, other ∈ before ++ flight :: after := by
    intro other hother
    rcases List.mem_append.1 hother with hother | hother
    · exact List.mem_append_left _ hother
    · exact List.mem_append_right _ (List.mem_cons_of_mem _ hother)
  refine ⟨h.orderly, h.kind, h.readable, fun payload hmem => h.fresh payload (hsub _ hmem),
    fun payload flush hmem => h.resent payload flush (hsub _ hmem), ?_⟩
  have hway : onTheWay (before ++ flight :: after) =
      onTheWay (before ++ after) + (flight.newEvents : Multiset Event) := by
    unfold onTheWay
    simp only [List.flatMap_append, List.flatMap_cons, ← Multiset.coe_add]
    abel
  have hbalance := h.balance
  simp only [hway] at hbalance
  rw [hbalance]
  abel

/-! ## Flushes -/

theorem sendStoredEvent (h : Accounted ⟨p, flights⟩ l inHand) {records : List String}
    (hrecords : ∀ name ∈ records, name ∈ p.events.names) (summary : FlushSummary)
    (follows : Bool) :
    Accounted (goOn flights (p.sendStoredEvent summary follows records)) l inHand := by
  cases records with
  | nil => exact h.congr rfl rfl rfl h.orderly
  | cons record rest =>
    obtain ⟨event, hread, _⟩ := h.readable record (hrecords record List.mem_cons_self)
    rw [Pipeline.sendStoredEvent_of_read hread]
    refine ⟨h.orderly, h.kind, h.readable, ?_, ?_,
      h.balance⟩
    · intro payload hmem
      rcases List.mem_cons.1 hmem with heq | hmem
      · cases heq
      · exact h.fresh payload hmem
    · intro payload flush hmem
      rcases List.mem_cons.1 hmem with heq | hmem
      · cases heq
        exact ⟨event, rfl, hread⟩
      · exact h.resent payload flush hmem

theorem startEventFlush (h : Accounted ⟨p, flights⟩ l inHand) (follows : Bool) :
    Accounted (goOn flights (p.startEventFlush follows)) l inHand := by
  cases hflushing : p.flushingEvents with
  | true =>
    rw [Pipeline.startEventFlush_of_flushing hflushing]
    exact h
  | false =>
    rcases Pipeline.startEventFlush_cases hflushing follows with
      ⟨outcome, hstart⟩ | ⟨f, hplace, hstart⟩
    · rw [hstart]
      exact h
    · obtain ⟨g, hg⟩ : ∃ g, p.events.Orderly g := h.orderly
      have hnames := RecordStore.names_of_folder hplace
      have hclaim := RecordStore.orderly_claim hg (RecordStore.claim_of_folder hplace)
      rw [hnames] at hclaim
      rw [hstart]
      apply sendStoredEvent
      · exact h.congr rfl rfl rfl ⟨g, hclaim⟩
      · intro name hname
        have hin := (RecordStore.mem_unclaimed.1 hname).1
        rw [← hnames] at hin
        exact hin

/-- Steps that concern sessions alone move no event. -/
theorem sessions (h : Accounted ⟨p, flights⟩ l inHand) {step : Pipeline × Progress}
    (hs : Pipeline.SessionStep p step) : Accounted (goOn flights step) l inHand := by
  obtain ⟨hsame, added, hflights, hsessions⟩ := hs.adds flights
  have hold := h.congr (q := (goOn flights step).pipeline) hsame.settings
    (by rw [hsame.events]) (by rw [hsame.events]) (by rw [hsame.events]; exact h.orderly)
  have hnone : ∀ flight ∈ added, flight.newEvents = [] := by
    intro flight hmem
    have hkind := hsessions flight hmem
    cases flight with
    | newEvent payload => cases hkind
    | _ => rfl
  have hway : onTheWay (goOn flights step).flights = onTheWay flights := by
    unfold onTheWay
    rw [hflights, List.flatMap_append, List.flatMap_eq_nil_iff.2 hnone, List.nil_append]
  refine ⟨hold.orderly, hold.kind, hold.readable, ?_, ?_, ?_⟩
  · intro payload hmem
    rw [hflights] at hmem
    rcases List.mem_append.1 hmem with hmem | hmem
    · cases hsessions _ hmem
    · exact hold.fresh payload hmem
  · intro payload flush hmem
    rw [hflights] at hmem
    rcases List.mem_append.1 hmem with hmem | hmem
    · cases hsessions _ hmem
    · exact hold.resent payload flush hmem
  · rw [hway]
    exact hold.balance

/-! ## Storing -/

/-- An event in hand is stored, and retention may take some. -/
theorem persistEvent {event : Event} (h : Accounted ⟨p, flights⟩ l (inHand + [event]))
    (hgate : Gate p (flushes flights)) (hlegible : p.events.Legible event) (hmay : p.MayWrite) :
    Accounted ⟨(p.persistEvent event).1, flights⟩ (l.store p (p.eventPayload event) [event])
      inHand := by
  obtain ⟨f, hf⟩ : ∃ f, p.events.Orderly f := h.orderly
  obtain ⟨hnow, htag⟩ := hmay
  obtain ⟨g, hg⟩ := RecordStore.orderly_write hf event hnow p.tags
  have hname : (p.events.write event p.micros p.tags).2 =
      .ok (p.events.newName p.micros p.tags) := by
    rw [RecordStore.write_of_folder hf.folder]
  refine ⟨⟨g, hg⟩, (p.events.kind_write event _ _).trans h.kind, ?_, ?_, ?_, ?_⟩
  · intro name hmem
    rcases RecordStore.read_write hf hlegible hnow hmem with ⟨rfl, hread⟩ | ⟨hne, hold, hread⟩
    · refine ⟨event, hread, ?_⟩
      rw [Ledger.first_store, hname]
      exact if_pos rfl
    · obtain ⟨other, hother, hfirst⟩ := h.readable name hold
      refine ⟨other, hread.trans hother, ?_⟩
      rw [Ledger.first_store, hname]
      exact (if_neg fun heq => hne (Option.some.inj heq).symm).trans hfirst
  · intro payload hmem
    obtain ⟨other, hother, hlegible'⟩ := h.fresh payload hmem
    exact ⟨other, hother, hlegible'.congr (p.events.kind_write event _ _)⟩
  · intro payload flush hmem
    obtain ⟨other, hother, hread⟩ := h.resent payload flush hmem
    have hheld := hgate.held_of_mem (mem_flushes hmem) flush.record List.mem_cons_self
    exact ⟨other, hother, (RecordStore.read_write_reserved hf hlegible hnow htag hheld).trans hread⟩
  · have hwrite := RecordStore.items_write hf hlegible hnow htag
    have hbalance : l.handed = l.delivered + l.failed + p.events.items + l.evicted +
        onTheWay flights + (inHand + {event}) := h.balance
    rw [← Multiset.singleton_add] at hwrite
    calc l.handed
        = l.delivered + l.failed + l.evicted + onTheWay flights + inHand +
            ({event} + p.events.items) := by rw [hbalance]; abel
      _ = l.delivered + l.failed + (p.events.write event p.micros p.tags).1.items +
            (l.evicted + p.events.evicted event p.micros p.tags) + onTheWay flights + inHand := by
          rw [hwrite]; abel

/-! ## Answers -/

/-- A record that is deleted leaves its event in hand. -/
theorem delete {record : String} {event : Event} (h : Accounted ⟨p, flights⟩ l inHand)
    (hnone : flushes flights = []) (hname : record ∈ p.events.names)
    (hread : p.events.read record = .ok event) :
    Accounted ⟨{ p with events := p.events.delete [record] }, flights⟩ l (inHand + [event]) := by
  obtain ⟨f, hf⟩ : ∃ f, p.events.Orderly f := h.orderly
  have hmem := RecordStore.mem_names_delete hf record
  refine ⟨⟨_, RecordStore.orderly_delete hf [record]⟩, (p.events.kind_delete _).trans h.kind,
    ?_, ?_, ?_, ?_⟩
  · intro name hin
    obtain ⟨hold, hne⟩ := (hmem name).1 hin
    obtain ⟨other, hother, hfirst⟩ := h.readable name hold
    exact ⟨other, (RecordStore.read_delete hne).trans hother, hfirst⟩
  · intro payload hin
    obtain ⟨other, hother, hlegible⟩ := h.fresh payload hin
    exact ⟨other, hother, hlegible.congr (p.events.kind_delete _)⟩
  · intro payload flush hin
    have hflush := mem_flushes hin
    rw [hnone] at hflush
    cases hflush
  · have hitems := RecordStore.items_delete hf hname hread
    have hbalance : l.handed = l.delivered + l.failed + p.events.items + l.evicted +
        onTheWay flights + inHand := h.balance
    rw [hbalance, hitems, ← Multiset.singleton_add, ← Multiset.coe_singleton]
    abel

theorem handIn {t : Traffic} (h : Accounted t l inHand) (event : Event) :
    Accounted t { l with handed := event ::ₘ l.handed } (inHand + [event]) := by
  refine ⟨h.orderly, h.kind, h.readable, h.fresh, h.resent, ?_⟩
  have hbalance := h.balance
  rw [← Multiset.singleton_add, ← Multiset.coe_singleton]
  simp only [hbalance]
  abel

theorem deliver {t : Traffic} {events : List Event} (h : Accounted t l (inHand + events)) :
    Accounted t { l with delivered := events + l.delivered } inHand := by
  refine ⟨h.orderly, h.kind, h.readable, h.fresh, h.resent, ?_⟩
  have hbalance := h.balance
  simp only [hbalance]
  abel

theorem fail {t : Traffic} {events : List Event} (h : Accounted t l (inHand + events)) :
    Accounted t { l with failed := events + l.failed } inHand := by
  refine ⟨h.orderly, h.kind, h.readable, h.fresh, h.resent, ?_⟩
  have hbalance := h.balance
  simp only [hbalance]
  abel

end Accounted

/-- An answer to a new event moves it to where it belongs. -/
theorem Accounted.settleNewEvent {p : Pipeline} {before after : List Flight}
    {payload : EventPayload} {l : Ledger} {reply : Answer}
    (h : Accounted ⟨p, before ++ .newEvent payload :: after⟩ l 0)
    (hgate : Gate p (flushes (before ++ .newEvent payload :: after)))
    (hmay : (Action.answer (.newEvent payload) reply).stored ≠ [] → p.MayWrite) :
    Accounted (goOn (before ++ after) (p.settle (.newEvent payload) reply.outcome))
      (l.after p (.answer (.newEvent payload) reply)) 0 := by
  obtain ⟨event, rfl, hlegible⟩ : ∃ event, payload = p.eventPayload event ∧
      p.events.Legible event := h.fresh payload (by simp)
  have hrest := h.answered
  rw [flushes_answered before after rfl] at hgate
  simp only [Action.stored] at hmay
  simp only [Ledger.after]
  cases houtcome : reply.outcome with
  | delivered => exact hrest.deliver.startEventFlush true
  | failure => exact hrest.fail
  | undelivered =>
    rw [houtcome, if_pos rfl] at hmay
    exact hrest.persistEvent hgate hlegible (hmay (List.cons_ne_nil event []))

/-- An answer to a stored event settles it, and the flush goes on, or leaves it stored. -/
theorem Accounted.settleStoredEvent {p : Pipeline} {before after : List Flight}
    {payload : EventPayload} {sent : EventFlush} {l : Ledger} {reply : Answer}
    (h : Accounted ⟨p, before ++ .storedEvent payload sent :: after⟩ l 0)
    (hgate : Gate p (flushes (before ++ .storedEvent payload sent :: after))) :
    Accounted (goOn (before ++ after) (p.settle (.storedEvent payload sent) reply.outcome))
      (l.after p (.answer (.storedEvent payload sent) reply)) 0 := by
  obtain ⟨event, rfl, hread⟩ : ∃ event, payload = p.eventPayload event ∧
      p.events.read sent.record = .ok event := h.resent payload sent (by simp)
  obtain ⟨_, hnodup, hheld, hnone⟩ := gate_storedEvent hgate
  obtain ⟨f, hf⟩ : ∃ f, p.events.Orderly f := h.orderly
  have hthere : ∀ name ∈ sent.records, name ∈ p.events.names := by
    intro name hname
    exact hf.mem_names (hheld name hname)
  have hrest : Accounted ⟨p, before ++ after⟩ l 0 := h.answered
  have hinHand := hrest.delete hnone (hthere _ List.mem_cons_self) hread
  have hleft : ∀ name ∈ sent.rest, name ∈ (p.events.delete [sent.record]).names := by
    intro name hname
    refine (RecordStore.mem_names_delete hf sent.record name).2 ⟨?_, ?_⟩
    · exact hthere name (List.mem_cons_of_mem _ hname)
    · rintro rfl
      exact (List.nodup_cons.1 hnodup).1 hname
  simp only [Ledger.after]
  cases reply.outcome with
  | delivered => exact hinHand.deliver.sendStoredEvent hleft _ _
  | failure => exact hinHand.fail.sendStoredEvent hleft _ _
  | undelivered =>
    exact hrest.congr rfl rfl rfl ⟨f, RecordStore.orderly_cancel hf sent.records⟩

/-- Every step keeps all events accounted for. -/
theorem Traffic.Step.accounted {t u : Traffic} {a : Action} {l : Ledger} (hs : Step t a u)
    (hgate : Gate t.pipeline (flushes t.flights)) (h : Accounted t l 0)
    (hlegible : ∀ event ∈ a.handed, t.pipeline.events.Legible event)
    (hmay : a.stored ≠ [] → t.pipeline.MayWrite) :
    Accounted u (l.after t.pipeline a) 0 := by
  cases hs with
  | deliver p flights event =>
    have hin := h.handIn event
    refine ⟨hin.orderly, hin.kind, hin.readable, ?_, ?_, ?_⟩
    · intro payload hmem
      rcases List.mem_cons.1 hmem with heq | hmem
      · cases heq
        exact ⟨event, rfl, hlegible event List.mem_cons_self⟩
      · exact hin.fresh payload hmem
    · intro payload flush hmem
      rcases List.mem_cons.1 hmem with heq | hmem
      · cases heq
      · exact hin.resent payload flush hmem
    · have hway : onTheWay (.newEvent (p.eventPayload event) :: flights) =
          {event} + onTheWay flights := by
        unfold onTheWay
        rw [List.flatMap_cons, ← Multiset.coe_add]
        rfl
      have hbalance : event ::ₘ l.handed = l.delivered + l.failed + p.events.items + l.evicted +
          onTheWay flights + (0 + {event}) := hin.balance
      show event ::ₘ l.handed = l.delivered + l.failed + p.events.items + l.evicted +
        onTheWay (.newEvent (p.eventPayload event) :: flights) + 0
      rw [hbalance, hway]
      abel
  | persist p flights event =>
    exact (h.handIn event).persistEvent hgate (hlegible event List.mem_cons_self)
      (hmay (List.cons_ne_nil event []))
  | flush p flights => exact h.startEventFlush false
  | deliverSessions p flights payload around =>
    exact h.sessions (Pipeline.sessionStep_startSessionFlush p around _)
  | flushSessions p flights around =>
    exact h.sessions (Pipeline.sessionStep_startSessionFlush p around _)
  | clock p flights micros tags => exact h.congr rfl rfl rfl h.orderly
  | answer p before after flight reply =>
    cases flight with
    | newEvent payload => exact h.settleNewEvent hgate hmay
    | storedEvent payload sent => exact h.settleStoredEvent hgate
    | newSessions payload =>
      exact h.answered.sessions (Pipeline.sessionStep_settle p (.newSessions payload) rfl _)
    | storedSessions payload sent =>
      exact h.answered.sessions (Pipeline.sessionStep_settle p (.storedSessions payload sent) rfl _)

namespace Accounted

variable {p q : Pipeline} {l : Ledger}

/-- A pipeline that opens without stored events begins with an empty ledger. -/
theorem opened {settings : PipelineSettings} {disk : Disk}
    (h : Pipeline.openOn settings disk = .ok p) (empty : p.events.names = []) :
    Accounted ⟨p, []⟩ {} 0 := by
  obtain ⟨hevents, _, _⟩ := Pipeline.openOn_eq_ok h
  obtain ⟨horderly, hkind, hitems⟩ := RecordStore.openAt_empty hevents empty
  refine ⟨horderly, hkind, ?_, ?_, ?_, ?_⟩
  · intro name hname
    rw [empty] at hname
    cases hname
  · intro payload hmem
    cases hmem
  · intro payload flush hmem
    cases hmem
  · simp only [hitems]
    rfl

/-- A pipeline that opens where another left off goes on with its ledger. -/
theorem reopened (h : Accounted ⟨p, []⟩ l 0) (hq : Pipeline.openOn p.settings p.disk = .ok q) :
    Accounted ⟨q, []⟩ l 0 := by
  obtain ⟨hevents, hsettings, _⟩ := Pipeline.openOn_eq_ok hq
  obtain ⟨f, hf⟩ : ∃ f, p.events.Orderly f := h.orderly
  have hkind : p.events.kind = .event := h.kind
  rw [← hkind] at hevents
  obtain ⟨horderly, hsame, hnames, hread, hitems⟩ := RecordStore.openAt_again hf hevents
  have hpayload : q.eventPayload = p.eventPayload := eventPayload_congr hsettings
  refine ⟨horderly, hsame.trans hkind, ?_, ?_, ?_, ?_⟩
  · intro name hname
    obtain ⟨event, hevent, hfirst⟩ := h.readable name (hnames ▸ hname)
    exact ⟨event, (hread name hname).trans hevent, hpayload ▸ hfirst⟩
  · intro payload hmem
    cases hmem
  · intro payload flush hmem
    cases hmem
  · show l.handed = l.delivered + l.failed + q.events.items + l.evicted + onTheWay [] + 0
    rw [hitems]
    exact h.balance

variable {t : Traffic}

/-- What a flush sends is stored. -/
theorem mem_names (h : Accounted t l 0) (hgate : Gate t.pipeline (flushes t.flights))
    {payload : EventPayload} {flush : EventFlush} (hmem : .storedEvent payload flush ∈ t.flights) :
    flush.record ∈ t.pipeline.events.names := by
  obtain ⟨f, hf⟩ := h.orderly
  apply hf.mem_names
  exact hgate.held_of_mem (mem_flushes hmem) flush.record List.mem_cons_self

/-- An event that is sent is stored or on its way for the first time. -/
theorem mem_of_sent (h : Accounted t l 0) (hgate : Gate t.pipeline (flushes t.flights))
    {flight : Flight} (hmem : flight ∈ t.flights) {event : Event} (hevent : event ∈ flight.events) :
    event ∈ t.pipeline.events.items + onTheWay t.flights := by
  cases flight with
  | newEvent payload =>
    apply Multiset.mem_add.2
    exact .inr (Multiset.mem_coe.2 (List.mem_flatMap.2 ⟨_, hmem, hevent⟩))
  | storedEvent payload flush =>
    obtain ⟨other, rfl, hread⟩ := h.resent payload flush hmem
    obtain rfl := List.mem_singleton.1 hevent
    apply Multiset.mem_add.2
    exact .inl (RecordStore.mem_items (h.mem_names hgate hmem) hread)
  | newSessions payload => cases hevent
  | storedSessions payload flush => cases hevent

end Accounted

/-- At every moment all events are accounted for. -/
theorem Run.accounted {t : Traffic} {l : Ledger} (h : Run t l) :
    Gate t.pipeline (flushes t.flights) ∧ Accounted t l 0 := by
  induction h with
  | opened h empty =>
    obtain ⟨_, _, hfree⟩ := Pipeline.openOn_eq_ok h
    exact ⟨.free hfree, Accounted.opened h empty⟩
  | step before hs hlegible hmay ih =>
    obtain ⟨hgate, hacc⟩ := ih
    exact ⟨hs.gate hgate, hs.accounted hgate hacc hlegible hmay⟩
  | reopened before h ih =>
    obtain ⟨_, _, hfree⟩ := Pipeline.openOn_eq_ok h
    exact ⟨.free hfree, ih.2.reopened h⟩

/-! ## The laws -/

/-- The events that were handed in are those that were delivered, those that failed, those
that are stored, those that retention took, and those on their way for the first time; once
no call waits there are none of the last. Every stored event can be read. An event that is
sent though it was delivered or failed before was handed in twice, and a stored event is sent
with the payload that it was first tried with. -/
theorem every_event_is_accounted_for {t : Traffic} {l : Ledger} (h : Run t l) :
    l.handed = l.delivered + l.failed + t.pipeline.events.items + l.evicted +
        onTheWay t.flights ∧
      (t.flights = [] →
        l.handed = l.delivered + l.failed + t.pipeline.events.items + l.evicted) ∧
      (∀ name ∈ t.pipeline.events.names, ∃ event, t.pipeline.events.read name = .ok event) ∧
      (∀ flight ∈ t.flights, ∀ event ∈ flight.events, event ∈ l.delivered + l.failed →
        {event, event} ≤ l.handed) ∧
      ∀ payload flush, .storedEvent payload flush ∈ t.flights →
        l.first flush.record = some payload := by
  obtain ⟨hgate, hacc⟩ := h.accounted
  have hbalance : l.handed = l.delivered + l.failed + t.pipeline.events.items + l.evicted +
      onTheWay t.flights := hacc.balance.trans (add_zero _)
  refine ⟨hbalance, ?_, ?_, ?_, ?_⟩
  · intro hnone
    rw [hbalance, hnone]
    exact add_zero _
  · intro name hname
    obtain ⟨event, hread, _⟩ := hacc.readable name hname
    exact ⟨event, hread⟩
  · intro flight hmem event hevent hsettled
    have hsomewhere := hacc.mem_of_sent hgate hmem hevent
    have hboth : l.delivered + l.failed + (t.pipeline.events.items + onTheWay t.flights) +
        l.evicted = l.handed := by
      rw [hbalance]
      abel
    calc {event, event}
        ≤ l.delivered + l.failed + (t.pipeline.events.items + onTheWay t.flights) :=
          add_le_add (Multiset.singleton_le.2 hsettled) (Multiset.singleton_le.2 hsomewhere)
      _ ≤ l.handed := hboth ▸ Multiset.le_add_right _ _
  · intro payload flush hmem
    obtain ⟨event, rfl, hread⟩ := hacc.resent payload flush hmem
    obtain ⟨other, hother, hfirst⟩ := hacc.readable _ (hacc.mem_names hgate hmem)
    rw [hread] at hother
    obtain rfl := Except.ok.inj hother
    exact hfirst

/-- Nothing is asked of an action that neither hands in events nor stores any. -/
theorem Run.goesOn {t u : Traffic} {a : Action} {l : Ledger} (before : Run t l)
    (h : Traffic.Step t a u) (hhanded : a.handed = []) (hstored : a.stored = []) :
    Run u (l.after t.pipeline a) := by
  refine before.step h ?_ fun hstores => absurd hstored hstores
  intro event hevent
  rw [hhanded] at hevent
  cases hevent

/-- Of two events, one stored at once and one because it was not taken, the first is refused
on the next try and the second is taken. Retention took none. -/
theorem a_refused_and_a_delivered_event_are_accounted_for :
    ∃ p l, Run ⟨p, []⟩ l ∧ l.handed = {planned "new", planned "old"} ∧
      l.delivered = {planned "new"} ∧ l.failed = {planned "old"} ∧ p.events.items = 0 ∧
      l.evicted = 0 := by
  have hopened : Run ⟨freshPipeline, []⟩ {} := .opened openOn_freshPipeline rfl
  have hlegible : ∀ (s : RecordStore Event) (name : String), ∀ event ∈ [planned name],
      s.Legible event := by
    intro s name event hevent
    obtain rfl := List.mem_singleton.1 hevent
    exact legible_planned s name
  have hfirst := hopened.step (.persist freshPipeline [] (planned "old")) (hlegible _ "old")
    fun _ => ⟨by decide, .inl (by decide)⟩
  have htried := hfirst.step (.deliver _ [] (planned "new")) (hlegible _ "new")
    fun hstores => absurd rfl hstores
  have hstored := htried.step (.answer _ [] [] _ (.status .undelivered))
    (fun event hevent => nomatch hevent) fun _ => ⟨by decide, .inl (by decide)⟩
  have hsent := hstored.goesOn (.flush twoStored []) rfl rfl
  rw [flushEvents_twoStored] at hsent
  have hrefused := hsent.goesOn (.answer sendingOld [] [] oldFlight (.status .failure)) rfl rfl
  rw [show (Answer.status .failure).outcome = .failure from rfl, settle_oldFlight] at hrefused
  have hover := hrefused.goesOn (.answer sendingNew [] [] newFlight (.status .delivered)) rfl rfl
  obtain ⟨_, hbalance, _⟩ := every_event_is_accounted_for hover
  refine ⟨_, _, hover, rfl, rfl, rfl, rfl, ?_⟩
  have hnone := hbalance rfl
  apply add_left_cancel (a := ({planned "new", planned "old"} : Multiset Event))
  rw [add_zero]
  exact hnone.symm

end CrashReporter
