import CrashReporter.Proofs.Pipeline.Reservations
import CrashReporter.Proofs.Store.Decoding
import Mathlib.Algebra.Order.Group.Multiset
import Mathlib.Tactic.Abel

-- Where every session is that was handed to a pipeline: the collector took it or refused it,
-- it is stored, retention took it, or it is on its way for the first time. Stored sessions
-- change their place all at once, new ones are stored one by one, and none is lost.

namespace CrashReporter

open Traffic

/-! ## The ledger -/

/-- What became of the sessions so far. -/
structure SessionLedger where
  handed : Multiset SessionSnapshot := 0
  delivered : Multiset SessionSnapshot := 0
  failed : Multiset SessionSnapshot := 0
  /-- Retention took them. -/
  evicted : Multiset SessionSnapshot := 0

/-- The sessions that an action hands in. -/
def Action.handedSessions : Action → List SessionSnapshot
  | deliverSessions payload _ => payload.sessions
  | _ => []

/-- The sessions that an action stores. -/
def Action.storedSessions : Action → List SessionSnapshot
  | answer (.newSessions payload) reply =>
    if reply.outcome = .undelivered then payload.sessions else []
  | _ => []

/-- The sessions of a payload, if there is one. -/
def SessionPayload.sessionsOf : Option SessionPayload → List SessionSnapshot
  | some payload => payload.sessions
  | none => []

/-- The sessions that are on their way for the first time. -/
def Flight.firstSessions : Flight → List SessionSnapshot
  | newSessions payload => payload.sessions
  | storedSessions _ flush => SessionPayload.sessionsOf flush.next
  | _ => []

def Traffic.sessionsOnTheWay (flights : List Flight) : Multiset SessionSnapshot :=
  ↑(flights.flatMap Flight.firstSessions)

namespace Pipeline

/-- The sessions that retention takes while others are stored one after the other. -/
def evictedSessions (p : Pipeline) : List SessionSnapshot → Multiset SessionSnapshot
  | [] => 0
  | session :: rest =>
    p.sessions.evicted session p.micros p.tags + (p.persistSession session).1.evictedSessions rest

/-- Records can be written for sessions: each time there is a stamp, and something tells the
name of the record from those that are there. -/
def MayStore (p : Pipeline) : List SessionSnapshot → Prop
  | [] => True
  | session :: rest =>
    p.micros ≤ RecordName.lastStamp ∧ p.sessions.TellsApart p.tags ∧
      (p.persistSession session).1.MayStore rest

end Pipeline

namespace SessionLedger

def handIn (l : SessionLedger) (sessions : List SessionSnapshot) : SessionLedger :=
  { l with handed := l.handed + sessions }

def deliver (l : SessionLedger) (sessions : List SessionSnapshot) : SessionLedger :=
  { l with delivered := l.delivered + sessions }

def fail (l : SessionLedger) (sessions : List SessionSnapshot) : SessionLedger :=
  { l with failed := l.failed + sessions }

/-- Sessions were stored one after the other. -/
def store (l : SessionLedger) (p : Pipeline) (sessions : List SessionSnapshot) : SessionLedger :=
  { l with evicted := l.evicted + p.evictedSessions sessions }

/-- The ledger after an action on a pipeline. -/
def after (l : SessionLedger) (p : Pipeline) : Action → SessionLedger
  | .deliverSessions payload _ => l.handIn payload.sessions
  | .answer (.newSessions payload) reply =>
    match reply.outcome with
    | .delivered => l.deliver payload.sessions
    | .failure => l.fail payload.sessions
    | .undelivered => l.store p payload.sessions
  | .answer (.storedSessions payload _) reply =>
    match reply.outcome with
    | .delivered => l.deliver payload.sessions
    | .failure => l.fail payload.sessions
    | .undelivered => l
  | _ => l

end SessionLedger

/-- Any calls on a pipeline whose store held no sessions, with the ledger of all sessions.
Between calls it may be opened again where it left off. -/
inductive SessionRun : Traffic → SessionLedger → Prop
  | opened {settings : PipelineSettings} {disk : Disk} {p : Pipeline}
      (h : Pipeline.openOn settings disk = .ok p) (empty : p.sessions.names = []) :
      SessionRun ⟨p, []⟩ {}
  | step {t u : Traffic} {a : Action} {l : SessionLedger} (before : SessionRun t l)
      (h : Step t a u) (proper : ∀ session ∈ a.handedSessions, session.startedAt.Proper)
      (mayStore : t.pipeline.MayStore a.storedSessions) : SessionRun u (l.after t.pipeline a)
  | persist {p : Pipeline} {flights : List Flight} {l : SessionLedger}
      (before : SessionRun ⟨p, flights⟩ l) (sessions : List SessionSnapshot)
      (proper : ∀ session ∈ sessions, session.startedAt.Proper)
      (mayStore : p.MayStore sessions) :
      SessionRun ⟨(p.persistSessions sessions).1, flights⟩
        ((l.handIn sessions).store p sessions)
  | reopened {p q : Pipeline} {l : SessionLedger} (before : SessionRun ⟨p, []⟩ l)
      (h : Pipeline.openOn p.settings p.disk = .ok q) : SessionRun ⟨q, []⟩ l

/-! ## The invariant -/

/-- All sessions are accounted for, save those in hand: between two places. -/
structure SessionsAccounted (t : Traffic) (l : SessionLedger) (inHand : Multiset SessionSnapshot) :
    Prop where
  orderly : ∃ f, t.pipeline.sessions.Orderly f
  kind : t.pipeline.sessions.kind = .session
  readable : ∀ name ∈ t.pipeline.sessions.names, ∃ session,
    t.pipeline.sessions.read name = .ok session
  proper : ∀ flight ∈ t.flights, ∀ session ∈ flight.firstSessions, session.startedAt.Proper
  resent : ∀ payload flush, .storedSessions payload flush ∈ t.flights →
    t.pipeline.sessions.itemsOf flush.records = payload.sessions
  balance : l.handed = l.delivered + l.failed + t.pipeline.sessions.items + l.evicted +
    sessionsOnTheWay t.flights + inHand

namespace SessionsAccounted

variable {p q : Pipeline} {flights : List Flight} {l : SessionLedger}
  {inHand : Multiset SessionSnapshot}

/-- What matters of a pipeline is what its directory holds. -/
theorem congr (h : SessionsAccounted ⟨p, flights⟩ l inHand)
    (hplace : q.sessions.place = p.sessions.place) (hkind : q.sessions.kind = p.sessions.kind)
    (horderly : ∃ f, q.sessions.Orderly f) : SessionsAccounted ⟨q, flights⟩ l inHand := by
  have hnames : q.sessions.names = p.sessions.names := by
    unfold RecordStore.names
    rw [hplace]
  have hread : ∀ name, q.sessions.read name = p.sessions.read name := by
    intro name
    refine RecordStore.read_congr hkind ?_
    unfold RecordStore.found?
    rw [hplace]
  have hitemsOf : ∀ names, q.sessions.itemsOf names = p.sessions.itemsOf names :=
    fun names => RecordStore.itemsOf_congr fun name _ => hread name
  refine ⟨horderly, hkind.trans h.kind, ?_, h.proper, ?_, ?_⟩
  · intro name hname
    simp only [hread]
    exact h.readable name (hnames ▸ hname)
  · intro payload flush hmem
    simp only [hitemsOf]
    exact h.resent payload flush hmem
  · simp only [RecordStore.items, hitemsOf, hnames]
    exact h.balance

/-- A call that is over takes nothing with it but what it has not sent yet, or sent first. -/
theorem answered {before after : List Flight} {flight : Flight}
    (h : SessionsAccounted ⟨p, before ++ flight :: after⟩ l inHand) :
    SessionsAccounted ⟨p, before ++ after⟩ l (inHand + flight.firstSessions) := by
  have hsub : ∀ other ∈ before ++ after, other ∈ before ++ flight :: after := by
    intro other hother
    rcases List.mem_append.1 hother with hother | hother
    · exact List.mem_append_left _ hother
    · exact List.mem_append_right _ (List.mem_cons_of_mem _ hother)
  refine ⟨h.orderly, h.kind, h.readable, fun other hmem => h.proper other (hsub _ hmem),
    fun payload flush hmem => h.resent payload flush (hsub _ hmem), ?_⟩
  have hway : sessionsOnTheWay (before ++ flight :: after) =
      sessionsOnTheWay (before ++ after) + (flight.firstSessions : Multiset SessionSnapshot) := by
    unfold sessionsOnTheWay
    simp only [List.flatMap_append, List.flatMap_cons, ← Multiset.coe_add]
    abel
  have hbalance := h.balance
  simp only [hway] at hbalance
  rw [hbalance]
  abel

/-- A call that sends sessions for the first time, or has yet to, takes them out of hand. -/
theorem sends {flight : Flight}
    (h : SessionsAccounted ⟨p, flights⟩ l (inHand + flight.firstSessions))
    (hproper : ∀ session ∈ flight.firstSessions, session.startedAt.Proper)
    (hresent : ∀ payload flush, flight = .storedSessions payload flush →
      p.sessions.itemsOf flush.records = payload.sessions) :
    SessionsAccounted ⟨p, flight :: flights⟩ l inHand := by
  refine ⟨h.orderly, h.kind, h.readable, ?_, ?_, ?_⟩
  · intro other hmem
    rcases List.mem_cons.1 hmem with rfl | hmem
    · exact hproper
    · exact h.proper other hmem
  · intro payload flush hmem
    rcases List.mem_cons.1 hmem with heq | hmem
    · exact hresent payload flush heq.symm
    · exact h.resent payload flush hmem
  · have hway : sessionsOnTheWay (flight :: flights) =
        (flight.firstSessions : Multiset SessionSnapshot) + sessionsOnTheWay flights := by
      unfold sessionsOnTheWay
      rw [List.flatMap_cons, ← Multiset.coe_add]
    have hbalance := h.balance
    simp only [hway]
    rw [hbalance]
    abel

/-! ## Flushes -/

/-- What a flush has held back is sent when it ends. -/
theorem endSessionFlush {next : Option SessionPayload}
    (h : SessionsAccounted ⟨p, flights⟩ l (inHand + SessionPayload.sessionsOf next))
    (hproper : ∀ session ∈ SessionPayload.sessionsOf next, session.startedAt.Proper)
    (outcome : FlushOutcome) :
    SessionsAccounted (goOn flights (p.endSessionFlush outcome next)) l inHand := by
  cases next with
  | none =>
    have hnone : inHand + (SessionPayload.sessionsOf none : Multiset SessionSnapshot) = inHand :=
      add_zero inHand
    rw [hnone] at h
    exact h
  | some payload =>
    have hfirst : SessionsAccounted ⟨p, flights⟩ l
      (inHand + (Flight.newSessions payload).firstSessions) := h
    exact hfirst.sends hproper fun _ _ heq => nomatch heq

/-- A flush that begins while none is under way reads all that is stored, and sends it. -/
theorem startSessionFlush_eq (h : SessionsAccounted ⟨p, flights⟩ l inHand)
    (hflushing : p.flushingSessions = false) (around : Surroundings)
    (next : Option SessionPayload) :
    ∃ found : List (String × SessionSnapshot),
      (found.map (·.1)).Perm (p.sessions.unclaimed p.sessions.names) ∧
      p.sessions.itemsOf (found.map (·.1)) = ↑(found.map (·.2)) ∧
      p.startSessionFlush around next =
        if found.isEmpty then p.claimSessions.endSessionFlush (.completed {}) next
        else
          ({ p.claimSessions with flushingSessions := true },
            .waiting (.storedSessions (p.batch around found) ⟨found.map (·.1), {}, next⟩)) := by
  obtain ⟨g, hg⟩ : ∃ g, p.sessions.Orderly g := h.orderly
  rcases Pipeline.startSessionFlush_cases hflushing around next with
    ⟨_, herror, _⟩ | ⟨_, found, lost, _, hperm, hread, hlost, hstart⟩
  · rw [RecordStore.claim_of_folder hg.folder] at herror
    cases herror
  · have hnone : lost = [] := by
      apply List.eq_nil_iff_forall_not_mem.2
      intro name hname
      have hthere : name ∈ p.sessions.names :=
        (RecordStore.mem_unclaimed.1 (hperm.subset (List.mem_append_right _ hname))).1
      obtain ⟨session, hsession⟩ := h.readable name hthere
      obtain ⟨reason, herror⟩ := hlost name hname
      rw [hsession] at herror
      cases herror
    subst hnone
    rw [List.append_nil] at hperm
    rw [RecordStore.delete_nil] at hstart
    exact ⟨found, hperm, RecordStore.itemsOf_read hread, hstart⟩

theorem startSessionFlush {next : Option SessionPayload}
    (h : SessionsAccounted ⟨p, flights⟩ l (inHand + SessionPayload.sessionsOf next))
    (hproper : ∀ session ∈ SessionPayload.sessionsOf next, session.startedAt.Proper)
    (around : Surroundings) :
    SessionsAccounted (goOn flights (p.startSessionFlush around next)) l inHand := by
  cases hflushing : p.flushingSessions with
  | true =>
    rw [Pipeline.startSessionFlush_of_flushing hflushing]
    exact h.endSessionFlush hproper _
  | false =>
    obtain ⟨found, _, hitems, hstart⟩ := h.startSessionFlush_eq hflushing around next
    obtain ⟨g, hg⟩ : ∃ g, p.sessions.Orderly g := h.orderly
    have hclaim := RecordStore.orderly_claim hg (RecordStore.claim_of_folder hg.folder)
    rw [hstart]
    split
    · have hclaimed : SessionsAccounted ⟨p.claimSessions, flights⟩ l
          (inHand + SessionPayload.sessionsOf next) := h.congr rfl rfl ⟨g, hclaim⟩
      exact hclaimed.endSessionFlush hproper _
    · have hclaimed : SessionsAccounted ⟨{ p.claimSessions with flushingSessions := true },
          flights⟩ l (inHand + SessionPayload.sessionsOf next) := h.congr rfl rfl ⟨g, hclaim⟩
      refine hclaimed.sends hproper ?_
      intro payload flush heq
      obtain ⟨rfl, rfl⟩ := Flight.storedSessions.inj heq
      exact (RecordStore.itemsOf_congr fun name _ => RecordStore.read_congr rfl rfl).trans hitems

/-- Steps that concern events alone move no session. -/
theorem events (h : SessionsAccounted ⟨p, flights⟩ l inHand) {step : Pipeline × Progress}
    (hs : Pipeline.EventStep p step) : SessionsAccounted (goOn flights step) l inHand := by
  obtain ⟨hsame, added, hflights, hevents⟩ := hs.adds flights
  have hold := h.congr (q := (goOn flights step).pipeline)
    (by rw [hsame.sessions]) (by rw [hsame.sessions]) (by rw [hsame.sessions]; exact h.orderly)
  have hnone : ∀ flight ∈ added, flight.firstSessions = [] := by
    intro flight hmem
    have hkind := hevents flight hmem
    cases flight with
    | newSessions payload => cases hkind
    | storedSessions payload flush => cases hkind
    | _ => rfl
  refine ⟨hold.orderly, hold.kind, hold.readable, ?_, ?_, ?_⟩
  · intro flight hmem
    rw [hflights] at hmem
    rcases List.mem_append.1 hmem with hmem | hmem
    · rw [hnone flight hmem]
      exact fun _ hsession => nomatch hsession
    · exact hold.proper flight hmem
  · intro payload flush hmem
    rw [hflights] at hmem
    rcases List.mem_append.1 hmem with hmem | hmem
    · cases hevents _ hmem
    · exact hold.resent payload flush hmem
  · have hway : sessionsOnTheWay (goOn flights step).flights = sessionsOnTheWay flights := by
      unfold sessionsOnTheWay
      rw [hflights, List.flatMap_append, List.flatMap_eq_nil_iff.2 hnone, List.nil_append]
    rw [hway]
    exact hold.balance

/-! ## Storing -/

/-- A session in hand is stored, and retention may take some. -/
theorem persistSession {session : SessionSnapshot}
    (h : SessionsAccounted ⟨p, flights⟩ l (inHand + {session}))
    (hgate : SessionGate p (sessionFlushes flights)) (hproper : session.startedAt.Proper)
    (hnow : p.micros ≤ RecordName.lastStamp) (htag : p.sessions.TellsApart p.tags) :
    SessionsAccounted ⟨(p.persistSession session).1, flights⟩
      { l with evicted := l.evicted + p.sessions.evicted session p.micros p.tags } inHand := by
  obtain ⟨f, hf⟩ : ∃ f, p.sessions.Orderly f := h.orderly
  obtain ⟨g, hg⟩ := RecordStore.orderly_write hf session hnow p.tags
  have hlegible := RecordStore.legible_of_proper p.sessions hproper
  refine ⟨⟨g, hg⟩, (p.sessions.kind_write session _ _).trans h.kind, ?_, h.proper, ?_, ?_⟩
  · intro name hname
    rcases RecordStore.read_write hf hlegible hnow hname with ⟨_, hread⟩ | ⟨_, hold, hread⟩
    · exact ⟨session, hread⟩
    · obtain ⟨other, hother⟩ := h.readable name hold
      exact ⟨other, hread.trans hother⟩
  · intro payload flush hmem
    have hsame : (p.sessions.write session p.micros p.tags).1.itemsOf flush.records =
        p.sessions.itemsOf flush.records := by
      apply RecordStore.itemsOf_congr
      intro name hname
      have hheld := (hgate.reserved_iff name).2 ⟨flush, mem_sessionFlushes hmem, hname⟩
      exact RecordStore.read_write_reserved hf hlegible hnow htag hheld
    exact hsame.trans (h.resent payload flush hmem)
  · have hwrite := RecordStore.items_write hf hlegible hnow htag
    have hbalance : l.handed = l.delivered + l.failed + p.sessions.items + l.evicted +
        sessionsOnTheWay flights + (inHand + {session}) := h.balance
    rw [← Multiset.singleton_add] at hwrite
    calc l.handed
        = l.delivered + l.failed + l.evicted + sessionsOnTheWay flights + inHand +
            ({session} + p.sessions.items) := by rw [hbalance]; abel
      _ = l.delivered + l.failed + (p.sessions.write session p.micros p.tags).1.items +
            (l.evicted + p.sessions.evicted session p.micros p.tags) +
            sessionsOnTheWay flights + inHand := by rw [hwrite]; abel

/-- Sessions in hand are stored one after the other, and retention may take some each time. -/
theorem persistSessions {sessions : List SessionSnapshot}
    (h : SessionsAccounted ⟨p, flights⟩ l (inHand + sessions))
    (hgate : SessionGate p (sessionFlushes flights))
    (hproper : ∀ session ∈ sessions, session.startedAt.Proper) (hmay : p.MayStore sessions) :
    SessionsAccounted ⟨(p.persistSessions sessions).1, flights⟩ (l.store p sessions) inHand := by
  induction sessions generalizing p l with
  | nil =>
    rw [Multiset.coe_nil, add_zero] at h
    have hledger : l.store p [] = l := by
      unfold SessionLedger.store Pipeline.evictedSessions
      rw [add_zero]
    rw [hledger]
    exact h
  | cons session rest ih =>
    obtain ⟨hnow, htag, hmay⟩ := hmay
    have hhand : inHand + ((session :: rest : List SessionSnapshot) : Multiset SessionSnapshot) =
        inHand + rest + {session} := by
      rw [← Multiset.cons_coe, ← Multiset.singleton_add]
      abel
    rw [hhand] at h
    have hfirst := h.persistSession hgate (hproper session List.mem_cons_self) hnow htag
    have hrest := ih hfirst (Pipeline.gate_persistSessions hgate [session])
      (fun other hother => hproper other (List.mem_cons_of_mem _ hother)) hmay
    have hledger : l.store p (session :: rest) =
        SessionLedger.store
          { l with evicted := l.evicted + p.sessions.evicted session p.micros p.tags }
          (p.persistSession session).1 rest := by
      unfold SessionLedger.store
      simp only [Pipeline.evictedSessions, add_assoc]
    rw [hledger]
    exact hrest

/-! ## Answers -/

/-- Records that are deleted leave their sessions in hand. -/
theorem delete {records : List String} {sessions : List SessionSnapshot}
    (h : SessionsAccounted ⟨p, flights⟩ l inHand) (hnone : sessionFlushes flights = [])
    (hnodup : records.Nodup) (hthere : ∀ name ∈ records, name ∈ p.sessions.names)
    (hitems : p.sessions.itemsOf records = sessions) :
    SessionsAccounted ⟨{ p with sessions := p.sessions.delete records, flushingSessions := false },
      flights⟩ l (inHand + sessions) := by
  obtain ⟨f, hf⟩ : ∃ f, p.sessions.Orderly f := h.orderly
  refine ⟨⟨_, RecordStore.orderly_delete hf records⟩, (p.sessions.kind_delete _).trans h.kind,
    ?_, h.proper, ?_, ?_⟩
  · intro name hname
    obtain ⟨hold, hnot⟩ := (RecordStore.mem_names_deleteAll hf records name).1 hname
    obtain ⟨session, hsession⟩ := h.readable name hold
    exact ⟨session, (RecordStore.read_deleteAll hnot).trans hsession⟩
  · intro payload flush hmem
    have hflush := mem_sessionFlushes hmem
    rw [hnone] at hflush
    cases hflush
  · have hsplit := RecordStore.items_deleteAll hf hnodup hthere
    have hbalance : l.handed = l.delivered + l.failed + p.sessions.items + l.evicted +
        sessionsOnTheWay flights + inHand := h.balance
    rw [hbalance, hsplit, hitems]
    abel

theorem handIn {t : Traffic} (h : SessionsAccounted t l inHand) (sessions : List SessionSnapshot) :
    SessionsAccounted t (l.handIn sessions) (inHand + sessions) := by
  refine ⟨h.orderly, h.kind, h.readable, h.proper, h.resent, ?_⟩
  unfold SessionLedger.handIn
  simp only [h.balance]
  abel

theorem deliver {t : Traffic} {sessions : List SessionSnapshot}
    (h : SessionsAccounted t l (inHand + sessions)) :
    SessionsAccounted t (l.deliver sessions) inHand := by
  refine ⟨h.orderly, h.kind, h.readable, h.proper, h.resent, ?_⟩
  unfold SessionLedger.deliver
  simp only [h.balance]
  abel

theorem fail {t : Traffic} {sessions : List SessionSnapshot}
    (h : SessionsAccounted t l (inHand + sessions)) :
    SessionsAccounted t (l.fail sessions) inHand := by
  refine ⟨h.orderly, h.kind, h.readable, h.proper, h.resent, ?_⟩
  unfold SessionLedger.fail
  simp only [h.balance]
  abel

end SessionsAccounted

/-- An answer to new sessions moves them to where they belong. -/
theorem SessionsAccounted.settleNewSessions {p : Pipeline} {before after : List Flight}
    {payload : SessionPayload} {l : SessionLedger} {reply : Answer}
    (h : SessionsAccounted ⟨p, before ++ .newSessions payload :: after⟩ l 0)
    (hgate : SessionGate p (sessionFlushes (before ++ .newSessions payload :: after)))
    (hmay : p.MayStore (Action.answer (.newSessions payload) reply).storedSessions) :
    SessionsAccounted (goOn (before ++ after) (p.settle (.newSessions payload) reply.outcome))
      (l.after p (.answer (.newSessions payload) reply)) 0 := by
  have hproper := h.proper (.newSessions payload) (by simp)
  have hrest : SessionsAccounted ⟨p, before ++ after⟩ l (0 + payload.sessions) := h.answered
  rw [sessionFlushes_answered before after rfl] at hgate
  simp only [Action.storedSessions] at hmay
  simp only [SessionLedger.after]
  cases houtcome : reply.outcome with
  | delivered => exact hrest.deliver
  | failure => exact hrest.fail
  | undelivered =>
    rw [houtcome, if_pos rfl] at hmay
    exact hrest.persistSessions hgate hproper hmay

/-- An answer to stored sessions settles them all, or leaves them all stored. Then the new
sessions are sent that waited for it. -/
theorem SessionsAccounted.settleStoredSessions {p : Pipeline} {before after : List Flight}
    {payload : SessionPayload} {flush : SessionFlush} {l : SessionLedger} {reply : Answer}
    (h : SessionsAccounted ⟨p, before ++ .storedSessions payload flush :: after⟩ l 0)
    (hgate : SessionGate p (sessionFlushes (before ++ .storedSessions payload flush :: after))) :
    SessionsAccounted
      (goOn (before ++ after) (p.settle (.storedSessions payload flush) reply.outcome))
      (l.after p (.answer (.storedSessions payload flush) reply)) 0 := by
  have hproper := h.proper (.storedSessions payload flush) (by simp)
  have hitems := h.resent payload flush (by simp)
  obtain ⟨hnodup, hheld, hnone⟩ := gate_storedSessions hgate
  obtain ⟨f, hf⟩ : ∃ f, p.sessions.Orderly f := h.orderly
  have hthere : ∀ name ∈ flush.records, name ∈ p.sessions.names := by
    intro name hname
    exact hf.mem_names ((hheld name).2 hname)
  have hrest : SessionsAccounted ⟨p, before ++ after⟩ l
      (0 + SessionPayload.sessionsOf flush.next) := h.answered
  have hdeleted := hrest.delete hnone hnodup hthere hitems
  simp only [SessionLedger.after]
  cases reply.outcome with
  | delivered => exact hdeleted.deliver.endSessionFlush hproper _
  | failure => exact hdeleted.fail.endSessionFlush hproper _
  | undelivered =>
    have hcancelled := hrest.congr (q :=
      { p with sessions := p.sessions.cancel flush.records, flushingSessions := false }) rfl rfl
      ⟨f, RecordStore.orderly_cancel hf flush.records⟩
    exact hcancelled.endSessionFlush hproper _

/-- Every step keeps all sessions accounted for. -/
theorem Traffic.Step.sessionsAccounted {t u : Traffic} {a : Action} {l : SessionLedger}
    (hs : Step t a u) (hgate : SessionGate t.pipeline (sessionFlushes t.flights))
    (h : SessionsAccounted t l 0)
    (hproper : ∀ session ∈ a.handedSessions, session.startedAt.Proper)
    (hmay : t.pipeline.MayStore a.storedSessions) :
    SessionsAccounted u (l.after t.pipeline a) 0 := by
  cases hs with
  | deliver p flights event =>
    have hs : Pipeline.EventStep p (p.deliverEvent event) := by
      refine ⟨⟨rfl, rfl, rfl⟩, ?_⟩
      intro flight heq
      obtain rfl := Progress.waiting.inj heq
      rfl
    exact h.events hs
  | persist p flights event => exact h.congr rfl rfl h.orderly
  | flush p flights => exact h.events (Pipeline.eventStep_startEventFlush p false)
  | deliverSessions p flights payload around =>
    have hnext : SessionsAccounted ⟨p, flights⟩ (l.handIn payload.sessions)
      (0 + SessionPayload.sessionsOf (some payload)) := h.handIn payload.sessions
    exact hnext.startSessionFlush hproper around
  | flushSessions p flights around =>
    have hnext : SessionsAccounted ⟨p, flights⟩ l (0 + SessionPayload.sessionsOf none) := h
    exact hnext.startSessionFlush (fun _ hsession => nomatch hsession) around
  | clock p flights micros tags => exact h.congr rfl rfl h.orderly
  | answer p before after flight reply =>
    cases flight with
    | newEvent payload =>
      exact h.answered.events (Pipeline.eventStep_settle p (.newEvent payload) rfl _)
    | storedEvent payload flush =>
      exact h.answered.events (Pipeline.eventStep_settle p (.storedEvent payload flush) rfl _)
    | newSessions payload => exact h.settleNewSessions hgate hmay
    | storedSessions payload flush => exact h.settleStoredSessions hgate

namespace SessionsAccounted

variable {p q : Pipeline} {l : SessionLedger}

/-- A pipeline that opens without stored sessions begins with an empty ledger. -/
theorem opened {settings : PipelineSettings} {disk : Disk}
    (h : Pipeline.openOn settings disk = .ok p) (empty : p.sessions.names = []) :
    SessionsAccounted ⟨p, []⟩ {} 0 := by
  obtain ⟨hsessions, _, _⟩ := Pipeline.openOn_sessions h
  obtain ⟨horderly, hkind, hitems⟩ := RecordStore.openAt_empty hsessions empty
  refine ⟨horderly, hkind, ?_, ?_, ?_, ?_⟩
  · intro name hname
    rw [empty] at hname
    cases hname
  · intro flight hmem
    cases hmem
  · intro payload flush hmem
    cases hmem
  · simp only [hitems]
    rfl

/-- A pipeline that opens where another left off goes on with its ledger. -/
theorem reopened (h : SessionsAccounted ⟨p, []⟩ l 0)
    (hq : Pipeline.openOn p.settings p.disk = .ok q) : SessionsAccounted ⟨q, []⟩ l 0 := by
  obtain ⟨hsessions, _, _⟩ := Pipeline.openOn_sessions hq
  obtain ⟨f, hf⟩ : ∃ f, p.sessions.Orderly f := h.orderly
  have hkind : p.sessions.kind = .session := h.kind
  rw [← hkind] at hsessions
  obtain ⟨horderly, hsame, hnames, hread, hitems⟩ := RecordStore.openAt_again hf hsessions
  refine ⟨horderly, hsame.trans hkind, ?_, ?_, ?_, ?_⟩
  · intro name hname
    obtain ⟨session, hsession⟩ := h.readable name (hnames ▸ hname)
    exact ⟨session, (hread name hname).trans hsession⟩
  · intro flight hmem
    cases hmem
  · intro payload flush hmem
    cases hmem
  · simp only [hitems]
    exact h.balance

end SessionsAccounted

/-- At every moment all sessions are accounted for. -/
theorem SessionRun.accounted {t : Traffic} {l : SessionLedger} (h : SessionRun t l) :
    SessionGate t.pipeline (sessionFlushes t.flights) ∧ SessionsAccounted t l 0 := by
  induction h with
  | opened h empty => exact ⟨(guarded_opened h).sessions, .opened h empty⟩
  | step before hs hproper hmay ih =>
    obtain ⟨hgate, hacc⟩ := ih
    exact ⟨hs.sessionGate hgate, hs.sessionsAccounted hgate hacc hproper hmay⟩
  | persist before sessions hproper hmay ih =>
    obtain ⟨hgate, hacc⟩ := ih
    have hhand := hacc.handIn sessions
    exact ⟨Pipeline.gate_persistSessions hgate sessions,
      hhand.persistSessions hgate hproper hmay⟩
  | reopened before h ih => exact ⟨(guarded_opened h).sessions, ih.2.reopened h⟩

/-! ## Calls from their beginning to their end -/

/-- All that a call sends from one of its steps on, in order. While it waits for an answer,
anything may become of the pipeline. -/
inductive Call : Pipeline × Progress → List Flight → Prop
  | over (p : Pipeline) (outcome : Outcome) : Call (p, .finished outcome) []
  | waits (p q : Pipeline) (flight : Flight) (reply : Answer) {rest : List Flight}
      (h : Call (q.settle flight reply.outcome) rest) : Call (p, .waiting flight) (flight :: rest)

/-- New sessions are the last that their call sends. -/
theorem Call.of_newSessions {p : Pipeline} {payload : SessionPayload} {sent : List Flight}
    (h : Call (p, .waiting (.newSessions payload)) sent) : sent = [.newSessions payload] := by
  cases h with
  | waits _ q _ reply h =>
    have hover : ∃ r outcome, q.settle (.newSessions payload) reply.outcome =
        (r, .finished outcome) := by
      cases reply.outcome with
      | _ => exact ⟨_, _, rfl⟩
    obtain ⟨r, outcome, hover⟩ := hover
    rw [hover] at h
    cases h
    rfl

/-- Stored sessions that were sent before new ones are followed by these. -/
theorem Call.of_storedSessions {p : Pipeline} {batch payload : SessionPayload}
    {flush : SessionFlush} {sent : List Flight} (hnext : flush.next = some payload)
    (h : Call (p, .waiting (.storedSessions batch flush)) sent) :
    sent = [.storedSessions batch flush, .newSessions payload] := by
  cases h with
  | waits _ q _ reply h =>
    have hgoes : ∃ r, q.settle (.storedSessions batch flush) reply.outcome =
        (r, .waiting (.newSessions payload)) := by
      simp only [Pipeline.settle, Pipeline.settleStoredSessions, hnext]
      cases reply.outcome with
      | _ => exact ⟨_, rfl⟩
    obtain ⟨r, hgoes⟩ := hgoes
    rw [hgoes] at h
    rw [h.of_newSessions]

/-- A call with new sessions sends what is stored before them, all at once, unless a flush is
under way or nothing is stored. -/
theorem SessionsAccounted.stored_go_first {t : Traffic} {l : SessionLedger}
    (h : SessionsAccounted t l 0) (hgate : SessionGate t.pipeline (sessionFlushes t.flights))
    {payload : SessionPayload} {around : Surroundings} {sent : List Flight}
    (hcall : Call (t.pipeline.deliverSessions payload around) sent) :
    (sent = [.newSessions payload] ∧
        (t.pipeline.flushingSessions = true ∨ t.pipeline.sessions.items = 0)) ∨
      ∃ batch flush, sent = [.storedSessions batch flush, .newSessions payload] ∧
        ↑batch.sessions = t.pipeline.sessions.items := by
  unfold Pipeline.deliverSessions at hcall
  cases hflushing : t.pipeline.flushingSessions with
  | true =>
    rw [Pipeline.startSessionFlush_of_flushing hflushing] at hcall
    exact .inl ⟨hcall.of_newSessions, .inl rfl⟩
  | false =>
    obtain ⟨found, hperm, hitems, hstart⟩ := h.startSessionFlush_eq hflushing around (some payload)
    have hfree : t.pipeline.sessions.reserved = [] := by
      have hnone : sessionFlushes t.flights = [] := by
        by_contra hne
        have := hgate.flushing_iff.2 hne
        simp [hflushing] at this
      rw [hnone] at hgate
      exact hgate.free_of_nil.2
    rw [RecordStore.unclaimed_of_unreserved hfree] at hperm
    have hall : t.pipeline.sessions.items = ↑(found.map (·.2)) := by
      rw [← hitems, RecordStore.itemsOf_perm _ hperm]
      rfl
    rw [hstart] at hcall
    split at hcall
    · next hempty =>
      refine .inl ⟨hcall.of_newSessions, .inr ?_⟩
      rw [hall, List.isEmpty_iff.1 hempty]
      rfl
    · exact .inr ⟨_, _, hcall.of_storedSessions rfl, hall.symm⟩

/-! ## The law -/

/-- The sessions that were handed in are those that were delivered, those that failed, those
that are stored, those that retention took, and those on their way for the first time; once no
call waits there are none of the last. Every stored session can be read. A call with new
sessions sends them last, after all that is stored, unless a flush is under way. -/
theorem every_session_is_accounted_for {t : Traffic} {l : SessionLedger} (h : SessionRun t l) :
    l.handed = l.delivered + l.failed + t.pipeline.sessions.items + l.evicted +
        sessionsOnTheWay t.flights ∧
      (t.flights = [] →
        l.handed = l.delivered + l.failed + t.pipeline.sessions.items + l.evicted) ∧
      (∀ name ∈ t.pipeline.sessions.names, ∃ session,
        t.pipeline.sessions.read name = .ok session) ∧
      ∀ payload around sent, Call (t.pipeline.deliverSessions payload around) sent →
        (sent = [.newSessions payload] ∧
            (t.pipeline.flushingSessions = true ∨ t.pipeline.sessions.items = 0)) ∨
          ∃ batch flush, sent = [.storedSessions batch flush, .newSessions payload] ∧
            ↑batch.sessions = t.pipeline.sessions.items := by
  obtain ⟨hgate, hacc⟩ := h.accounted
  have hbalance : l.handed = l.delivered + l.failed + t.pipeline.sessions.items + l.evicted +
      sessionsOnTheWay t.flights := hacc.balance.trans (add_zero _)
  refine ⟨hbalance, ?_, hacc.readable, ?_⟩
  · intro hnone
    rw [hbalance, hnone]
    exact add_zero _
  · intro payload around sent hcall
    exact hacc.stored_go_first hgate hcall

/-- A pipeline with a session stored. -/
def sessionStored : Pipeline := (freshPipeline.persistSessions [sessionOf 1]).1

/-- The same while that session is sent. -/
def sessionSending : Pipeline := { sessionStored.claimSessions with flushingSessions := true }

/-- The same once that was refused. -/
def sessionRefused : Pipeline :=
  { sessionSending with
    sessions := sessionSending.sessions.delete [RecordName.ofStamp 1 0]
    flushingSessions := false }

def nextPayload : SessionPayload := ⟨{}, {}, {}, [sessionOf 2]⟩

def sessionFlight : Flight :=
  .storedSessions (sessionStored.batch {} [(RecordName.ofStamp 1 0, sessionOf 1)])
    ⟨[RecordName.ofStamp 1 0], {}, some nextPayload⟩

theorem deliverSessions_sessionStored :
    sessionStored.deliverSessions nextPayload {} = (sessionSending, .waiting sessionFlight) := by
  have hclaim : sessionStored.sessions.claim =
      .ok ([RecordName.ofStamp 1 0], sessionStored.claimSessions.sessions) := by rfl
  have hfound : sessionStored.claimSessions.sessions.found? (RecordName.ofStamp 1 0) =
      some (.file (.text (freshPipeline.sessions.recordText (sessionOf 1)))) := by rfl
  refine Pipeline.startSessionFlush_of_claim [(RecordName.ofStamp 1 0, sessionOf 1)] rfl hclaim ?_
    (List.cons_ne_nil _ []) {} _
  intro e he
  obtain rfl := List.mem_singleton.1 he
  exact read_sessionOf freshPipeline.sessions rfl hfound

/-- Of two sessions one is stored at once. It is sent before the other and is refused; the
other is not taken now and is stored in its turn. -/
theorem a_refused_and_a_stored_session_are_accounted_for :
    ∃ p l, SessionRun ⟨p, []⟩ l ∧ l.handed = {sessionOf 1, sessionOf 2} ∧ l.delivered = 0 ∧
      l.failed = {sessionOf 1} ∧ l.evicted = 0 ∧ p.sessions.items = {sessionOf 2} := by
  have hopened : SessionRun ⟨freshPipeline, []⟩ {} := .opened openOn_freshPipeline rfl
  have hstored := hopened.persist [sessionOf 1] proper_sessionOf
    ⟨by decide, .inl (by decide), trivial⟩
  have hsent := hstored.step (.deliverSessions sessionStored [] nextPayload {}) proper_sessionOf
    trivial
  rw [deliverSessions_sessionStored] at hsent
  have hrefused := hsent.step (.answer sessionSending [] [] sessionFlight (.status .failure))
    (fun _ hsession => nomatch hsession) trivial
  have hover := hrefused.step
    (.answer sessionRefused [] [] (.newSessions nextPayload) (.status .undelivered))
    (fun _ hsession => nomatch hsession) ⟨by decide, .inl (by decide), trivial⟩
  obtain ⟨_, hbalance, _⟩ := every_session_is_accounted_for hover
  have hleft : ∀ handed delivered failed stored evicted : Multiset SessionSnapshot,
      handed = delivered + failed + stored + evicted → handed = {sessionOf 1} + {sessionOf 2} →
      delivered = 0 → failed = {sessionOf 1} → evicted = 0 → stored = {sessionOf 2} := by
    rintro _ _ _ stored _ hsum rfl rfl rfl rfl
    rw [zero_add, add_zero] at hsum
    exact (add_left_cancel hsum).symm
  exact ⟨_, _, hover, rfl, rfl, rfl, rfl, hleft _ _ _ _ _ (hbalance rfl) rfl rfl rfl rfl⟩

end CrashReporter
