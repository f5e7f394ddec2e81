import CrashReporter.Proofs.Observer
import Mathlib.Data.List.Nodup

-- All that is done with a bus, one act after the other: observers come and go and may panic at
-- anything, events are notified, and channels are opened and emptied. Each observer sees the events
-- of the time that it was registered for, and each subscriber is told of all events since it came,
-- of each by itself or of so many in a gap.

namespace CrashReporter

/-! ## Acts -/

/-- One thing that is done with a bus, and what comes of it. -/
inductive BusAct
  | register (id : ObserverId) (label : String)
  | unregister (id : ObserverId)
  /-- The observers may panic at other events from now on. -/
  | change
  | subscribe
  | notify (event : StateEvent) (calls : List (ObserverId × Sighting))
  /-- A channel is emptied. Channels are counted from 0 in the order of their subscription. -/
  | collect (index : Nat) (received : List Received)

namespace BusAct

def event? : BusAct → Option StateEvent
  | notify event _ => some event
  | _ => none

def registration? : BusAct → Option (ObserverId × String)
  | register id label => some (id, label)
  | _ => none

def calls : BusAct → List (ObserverId × Sighting)
  | notify _ calls => calls
  | _ => []

/-- The observer with this id is not registered after the act. -/
def removes (id : ObserverId) : BusAct → Bool
  | unregister other => other == id
  | _ => false

def subscribes : BusAct → Bool
  | subscribe => true
  | _ => false

/-- The act empties this channel. -/
def empties (index : Nat) : BusAct → Bool
  | collect other _ => other == index
  | _ => false

/-- What is received from this channel. -/
def received (index : Nat) : BusAct → List Received
  | collect other received => if other = index then received else []
  | _ => []

/-! ## What acts tell -/

variable (log more : List BusAct) (id : ObserverId) (index : Nat)

/-- The events that were notified, in order. -/
def notified : List StateEvent := log.filterMap event?

/-- The observers that were ever registered, in order. -/
def arrivals : List (ObserverId × String) := log.filterMap registration?

/-- The observers that were registered and not unregistered later, in the order of their
registration. -/
def listening : List BusAct → List (ObserverId × String)
  | [] => []
  | act :: rest =>
    act.registration?.toList.filter (fun e => !rest.any (removes e.1)) ++ listening rest

/-- The acts up to the one that unregisters the observer. -/
def tenure : List BusAct := log.takeWhile fun act => !act.removes id

/-- What an observer saw, in order. -/
def seenBy : List Sighting :=
  (log.flatMap calls).filterMap fun call => if call.1 = id then some call.2 else none

def subscriptions : Nat := log.countP subscribes

/-- What was received from a channel in all. -/
def receivedInAll : List Received := log.flatMap (received index)

/-- After these acts, this one opens the channel or empties it. -/
def clears : BusAct → Prop
  | subscribe => index = subscriptions log
  | collect other _ => other = index ∧ index < subscriptions log
  | _ => False

theorem notified_nil : notified [] = [] := rfl

theorem notified_append : notified (log ++ more) = notified log ++ notified more :=
  List.filterMap_append

theorem notified_cons (act : BusAct) :
    notified (act :: log) = act.event?.toList ++ notified log := by
  cases act <;> rfl

theorem arrivals_append : arrivals (log ++ more) = arrivals log ++ arrivals more :=
  List.filterMap_append

theorem arrivals_cons (act : BusAct) :
    arrivals (act :: log) = act.registration?.toList ++ arrivals log := by
  cases act <;> rfl

theorem seenBy_append : seenBy (log ++ more) id = seenBy log id ++ seenBy more id := by
  simp [seenBy]

theorem seenBy_cons (act : BusAct) :
    seenBy (act :: log) id = seenBy [act] id ++ seenBy log id := seenBy_append [act] log id

theorem listening_sublist : (listening log).Sublist (arrivals log) := by
  induction log with
  | nil => exact .slnil
  | cons act rest ih =>
    rw [arrivals_cons]
    exact List.filter_sublist.append ih

variable {log} {id} {index} {act : BusAct}

theorem event?_of_removes (h : act.removes id = true) : act.event? = none := by
  cases act with
  | notify event calls => cases h
  | _ => rfl

theorem event?_of_empties (h : act.empties index = true) : act.event? = none := by
  cases act with
  | notify event calls => cases h
  | _ => rfl

theorem event?_of_clears (h : clears log index act) : act.event? = none := by
  cases act with
  | notify event calls => exact h.elim
  | _ => rfl

end BusAct

open BusAct

namespace ObserverBus

/-! ## Runs -/

/-- An act leads from one state of a bus to the next. -/
inductive Step : ObserverBus → BusAct → ObserverBus → Prop
  | register (b : ObserverBus) (o : Observer) :
      Step b (.register (b.register o).1 o.label) (b.register o).2
  | unregister (b : ObserverBus) (id : ObserverId) : Step b (.unregister id) (b.unregister id)
  | change (b : ObserverBus) (panics : ObserverId → StateEvent → Option Panic) :
      Step b .change
        { b with observers := b.observers.map fun e => (e.1, { e.2 with panics := panics e.1 }) }
  | subscribe (b : ObserverBus) : Step b .subscribe b.subscribe
  | notify (b : ObserverBus) (event : StateEvent) :
      Step b (.notify event (b.calls event)) (b.notify event).2
  | collect (b : ObserverBus) (index : Nat) :
      Step b (.collect index (b.collect index).1) (b.collect index).2

/-- These acts lead from one state of a bus to another. -/
inductive Run : ObserverBus → List BusAct → ObserverBus → Prop
  | ended (b : ObserverBus) : Run b [] b
  | goesOn {b c d : ObserverBus} {act : BusAct} {acts : List BusAct} (h : Step b act c)
      (rest : Run c acts d) : Run b (act :: acts) d

variable {b c d : ObserverBus} {act : BusAct} {acts more log : List BusAct}

theorem Run.append (h : Run b acts c) (hmore : Run c more d) : Run b (acts ++ more) d := by
  induction h with
  | ended => exact hmore
  | goesOn hstep _ ih => exact .goesOn hstep (ih hmore)

/-- A run comes up to each of its acts and goes on from there. -/
theorem Run.around (h : Run b (acts ++ act :: more) d) :
    ∃ c e, Run b acts c ∧ Step c act e ∧ Run e more d := by
  induction acts generalizing b with
  | nil =>
    cases h with
    | goesOn hstep hrest => exact ⟨b, _, .ended b, hstep, hrest⟩
  | cons first rest ih =>
    cases h with
    | goesOn hfirst hrest =>
      obtain ⟨c, e, hc, hstep, he⟩ := ih hrest
      exact ⟨c, e, .goesOn hfirst hc, hstep, he⟩

/-- Events can be notified one after the other. -/
theorem Run.notifyAll (b : ObserverBus) (events : List StateEvent) :
    ∃ c, Run b (events.map fun event => .notify event (b.calls event)) c := by
  induction events generalizing b with
  | nil => exact ⟨b, .ended b⟩
  | cons event rest ih =>
    obtain ⟨c, hrest⟩ := ih (b.notify event).2
    have hsame : (b.notify event).2.calls = b.calls := by
      funext other
      simp [calls_eq, notify, broadcast]
    rw [hsame] at hrest
    exact ⟨c, .goesOn (.notify b event) hrest⟩

/-! ## Observers -/

/-- Who is registered, in order. -/
def labels (b : ObserverBus) : List (ObserverId × String) :=
  b.observers.map fun e => (e.1, e.2.label)

/-- Registrations are counted, and the count is the id. -/
theorem Step.count (h : Step b act c) :
    act.registration?.toList.map (·.1) =
        (List.range' (b.registered + 1) act.registration?.toList.length).map ObserverId.mk ∧
      c.registered = b.registered + act.registration?.toList.length := by
  cases h <;> exact ⟨rfl, rfl⟩

theorem Step.labels (h : Step b act c) :
    c.labels = b.labels.filter (fun e => !act.removes e.1) ++ act.registration?.toList := by
  cases h with
  | register o => simp [ObserverBus.labels, ObserverBus.register, removes, registration?]
  | unregister id =>
    have hflip : ∀ other : ObserverId, (other != id) = !(id == other) :=
      fun other => congrArg not BEq.comm
    simp [ObserverBus.labels, ObserverBus.unregister, removes, registration?, List.filter_map,
      Function.comp_def, hflip]
  | _ =>
    simp [ObserverBus.labels, removes, registration?, ObserverBus.subscribe, ObserverBus.notify,
      ObserverBus.broadcast, ObserverBus.collect]

/-- Whoever is registered is called. -/
theorem Step.calls (h : Step b act c) :
    act.calls = act.event?.toList.flatMap fun event =>
      b.labels.map fun e => (e.1, ⟨e.2, event⟩) := by
  cases h with
  | notify event => simp [BusAct.calls, event?, calls_eq, ObserverBus.labels]
  | _ => rfl

theorem Run.count (h : Run b acts c) :
    (arrivals acts).map (·.1) =
        (List.range' (b.registered + 1) (arrivals acts).length).map ObserverId.mk ∧
      c.registered = b.registered + (arrivals acts).length := by
  induction h with
  | ended => exact ⟨rfl, rfl⟩
  | goesOn hstep _ ih =>
    obtain ⟨hid, hcount⟩ := hstep.count
    rw [arrivals_cons, List.map_append, ih.1, ih.2, hid, hcount, List.length_append,
      ← List.range'_append_1, List.map_append]
    refine ⟨?_, by omega⟩
    congr 3
    omega

/-- No id is given twice. -/
theorem Run.nodup (h : Run b acts c) : ((arrivals acts).map (·.1)).Nodup := by
  rw [h.count.1]
  refine List.Nodup.map ?_ List.nodup_range'
  intro m n hsame
  simpa using hsame

theorem Run.labels (h : Run b acts c) :
    c.labels = b.labels.filter (fun e => !acts.any (removes e.1)) ++ listening acts := by
  induction h with
  | ended => simp [listening]
  | goesOn hstep _ ih =>
    rw [ih, hstep.labels]
    simp [listening, List.filter_filter, Bool.and_comm]

/-- Who has this id. -/
def bearers (b : ObserverBus) (id : ObserverId) : List (ObserverId × String) :=
  b.labels.filter fun e => e.1 = id

/-- Who gets a new id is the one who has it. -/
theorem Step.bearers_register {id : ObserverId} {label : String}
    (h : Step b (.register id label) c) (hnew : ∀ e ∈ b.labels, e.1 ≠ id) :
    c.bearers id = [(id, label)] := by
  have hnobody : b.labels.filter (fun e => e.1 = id) = [] := by
    simpa [List.filter_eq_nil_iff] using hnew
  rw [ObserverBus.bearers, h.labels]
  simp [removes, registration?, hnobody]

/-- As long as nobody else gets the id, only its removal changes who has it. -/
theorem Step.bearers (h : Step b act c) {id : ObserverId}
    (hid : ∀ e ∈ act.registration?, e.1 ≠ id) :
    c.bearers id = if act.removes id then [] else b.bearers id := by
  have hnew : act.registration?.toList.filter (fun e => e.1 = id) = [] := by
    simpa using hid
  simp only [ObserverBus.bearers, h.labels, List.filter_append, hnew, List.append_nil,
    List.filter_filter]
  split
  · next hremoves =>
    rw [List.filter_eq_nil_iff]
    rintro e -
    simp only [Bool.and_eq_true, decide_eq_true_eq, not_and]
    rintro rfl
    simp [hremoves]
  · next hkeeps =>
    refine List.filter_congr fun e _ => ?_
    by_cases he : e.1 = id
    · simp [he, hkeeps]
    · simp [he]

/-- Whoever has the id sees what is notified. -/
theorem Step.seenBy (h : Step b act c) (id : ObserverId) :
    seenBy [act] id = act.event?.toList.flatMap fun event =>
      (b.bearers id).map fun e => ⟨e.2, event⟩ := by
  simp only [BusAct.seenBy, List.flatMap_singleton, h.calls, ObserverBus.bearers]
  cases act.event? with
  | none => rfl
  | some event =>
    simp only [Option.toList_some, List.flatMap_singleton, List.filterMap_map]
    rw [← List.filterMap_eq_map, List.filterMap_filter]
    simp

/-- As long as nobody else gets the id, who has it now sees what is notified until it is
unregistered, and nobody sees anything under it then. -/
theorem Run.seenBy (h : Run b acts c) {id : ObserverId}
    (hid : ∀ e ∈ arrivals acts, e.1 ≠ id) :
    seenBy acts id = (notified (tenure acts id)).flatMap fun event =>
      (b.bearers id).map fun e => ⟨e.2, event⟩ := by
  induction h with
  | ended => rfl
  | @goesOn b c d act acts hstep _ ih =>
    rw [arrivals_cons] at hid
    have hrest := ih fun e he => hid e (List.mem_append_right _ he)
    rw [hstep.bearers fun e he => hid e (List.mem_append_left _ (by simpa using he))] at hrest
    rw [seenBy_cons, hstep.seenBy, hrest]
    cases hremoves : act.removes id with
    | true => simp [tenure, hremoves, event?_of_removes hremoves, notified]
    | false => simp [tenure, hremoves, notified_cons]

/-! ## Subscribers -/

theorem Step.channels_length (h : Step b act c) :
    c.channels.length = b.channels.length + subscriptions [act] := by
  cases h <;>
    simp [ObserverBus.register, ObserverBus.unregister, ObserverBus.subscribe, ObserverBus.notify,
      ObserverBus.broadcast, ObserverBus.collect, subscriptions, subscribes]

theorem Run.channels_length (h : Run b acts c) :
    c.channels.length = b.channels.length + subscriptions acts := by
  induction h with
  | ended => rfl
  | @goesOn b c d act acts hstep _ ih =>
    rw [ih, hstep.channels_length]
    simp only [subscriptions, List.countP_cons, List.countP_nil]
    omega

/-- What is notified waits in every channel, until the channel is emptied. -/
theorem Step.channel (h : Step b act c) {index : Nat} {events : List StateEvent}
    (hchannel : b.channels[index]? = some (.holding events)) :
    c.channels[index]? =
      some (.holding (if act.empties index then [] else events ++ act.event?.toList)) := by
  have hopen : index < b.channels.length := (List.getElem?_eq_some_iff.1 hchannel).1
  cases h with
  | subscribe =>
    have hold : b.subscribe.channels[index]? = b.channels[index]? :=
      List.getElem?_append_left hopen
    simp [hold, hchannel, empties, event?]
  | notify event =>
    have hsent : (b.notify event).2.channels[index]? =
        b.channels[index]?.map fun channel => channel.push event := List.getElem?_map
    simp [hsent, hchannel, empties, event?, Channel.push_holding]
  | collect other =>
    have hset : (b.collect other).2.channels[index]? =
        if other = index then some {} else b.channels[index]? := by
      simp only [ObserverBus.collect, List.getElem?_set]
      split
      · next hsame => simp [hsame, hopen]
      · rfl
    rw [hset]
    by_cases hsame : other = index
    · simp [hsame, empties, Channel.holding_nil]
    · simp [hsame, hchannel, empties, event?]
  | _ => simpa [empties, event?, ObserverBus.register, ObserverBus.unregister] using hchannel

/-- One receives what waits. -/
theorem Step.received (h : Step b act c) {index : Nat} {events : List StateEvent}
    (hchannel : b.channels[index]? = some (.holding events)) :
    act.received index = if act.empties index then Received.ofWaiting events else [] := by
  cases h with
  | collect other =>
    by_cases hsame : other = index
    · simp [BusAct.received, empties, ObserverBus.collect, hsame, hchannel,
        Channel.collected_holding]
    · simp [BusAct.received, empties, hsame]
  | _ => rfl

/-- What is emptied or opened holds nothing. -/
theorem Step.cleared (h : Step b act c) (hbefore : b.channels.length = subscriptions log)
    {index : Nat} (hclears : clears log index act) :
    c.channels[index]? = some (.holding []) := by
  cases h with
  | subscribe =>
    have hindex : index = b.channels.length := Eq.trans hclears hbefore.symm
    simp [ObserverBus.subscribe, hindex, Channel.holding_nil]
  | collect other =>
    obtain ⟨rfl, hopen⟩ := hclears
    rw [← hbefore] at hopen
    simp [ObserverBus.collect, hopen, Channel.holding_nil]
  | _ => exact hclears.elim

theorem Run.channel (h : Run b acts c) {index : Nat} {events : List StateEvent}
    (hkept : ∀ act ∈ acts, act.empties index = false)
    (hchannel : b.channels[index]? = some (.holding events)) :
    c.channels[index]? = some (.holding (events ++ notified acts)) := by
  induction h generalizing events with
  | ended => simpa [notified] using hchannel
  | @goesOn b c d act acts hstep _ ih =>
    have hnext := hstep.channel hchannel
    rw [hkept act List.mem_cons_self] at hnext
    rw [notified_cons, ← List.append_assoc]
    exact ih (fun act hact => hkept act (List.mem_cons_of_mem _ hact)) hnext

/-- What was received stands for all events but those that wait. -/
theorem Run.receivedInAll (h : Run b acts c) {index : Nat} {events : List StateEvent}
    (hchannel : b.channels[index]? = some (.holding events)) :
    ∃ told waiting, StandsFor (receivedInAll acts index) told ∧
      events ++ notified acts = told ++ waiting ∧
      c.channels[index]? = some (.holding waiting) := by
  induction h generalizing events with
  | ended => exact ⟨[], events, .nothing, by simp [notified], hchannel⟩
  | @goesOn b c d act acts hstep _ ih =>
    obtain ⟨told, waiting, hstands, hsplit, hlast⟩ := ih (hstep.channel hchannel)
    have hreceived : BusAct.receivedInAll (act :: acts) index =
        act.received index ++ BusAct.receivedInAll acts index := List.flatMap_cons
    rw [hreceived, hstep.received hchannel, notified_cons]
    cases hempties : act.empties index with
    | true =>
      rw [hempties] at hsplit
      refine ⟨events ++ told, waiting, (StandsFor.ofWaiting events).append hstands, ?_, hlast⟩
      simpa [event?_of_empties hempties] using hsplit
    | false =>
      rw [hempties] at hsplit
      exact ⟨told, waiting, hstands, by simpa using hsplit, hlast⟩

/-! ## From the first act on -/

/-- Ids fit in 64 bits as long as not too many observers were registered. -/
theorem Run.number_lt_size (h : Run {} log b) (hfew : (arrivals log).length < UInt64.size)
    {e : ObserverId × String} (he : e ∈ arrivals log) : e.1.number < UInt64.size := by
  have hid : e.1 ∈ (arrivals log).map (·.1) := List.mem_map_of_mem he
  rw [h.count.1] at hid
  obtain ⟨n, hn, heq⟩ := List.mem_map.1 hid
  have hlast : n < 0 + 1 + (arrivals log).length := (List.mem_range'_1.1 hn).2
  rw [← heq]
  show n < UInt64.size
  omega

theorem Run.calls_eq {event : StateEvent} {calls : List (ObserverId × Sighting)}
    (h : Run {} (log ++ .notify event calls :: more) b) :
    calls = (listening log).map fun e => (e.1, ⟨e.2, event⟩) := by
  obtain ⟨c, d, hbefore, hstep, -⟩ := h.around
  have hcalls : calls = c.labels.map fun e => (e.1, ⟨e.2, event⟩) := by
    simpa [BusAct.calls, event?] using hstep.calls
  rw [hcalls, hbefore.labels]
  rfl

theorem Run.seenBy_eq {id : ObserverId} {label : String}
    (h : Run {} (log ++ .register id label :: more) b) :
    BusAct.seenBy (log ++ .register id label :: more) id =
      (notified (tenure more id)).map fun event => ⟨label, event⟩ := by
  have honce : ∀ e ∈ arrivals log ++ arrivals more, e.1 ≠ id := by
    have hnodup := h.nodup
    rw [arrivals_append, arrivals_cons, List.map_append] at hnodup
    have hid := (List.nodup_cons.1 (List.nodup_middle.1 hnodup)).1
    rw [← List.map_append] at hid
    exact fun e he heq => hid (List.mem_map.2 ⟨e, he, heq⟩)
  obtain ⟨c, d, hbefore, hstep, hafter⟩ := h.around
  have hnew : ∀ e ∈ c.labels, e.1 ≠ id := by
    intro e he
    rw [hbefore.labels] at he
    exact honce e (List.mem_append_left _ ((listening_sublist log).subset he))
  have hearlier := hbefore.seenBy fun e he => honce e (List.mem_append_left _ he)
  have hlater := hafter.seenBy fun e he => honce e (List.mem_append_right _ he)
  have hnobody : ({} : ObserverBus).bearers id = [] := rfl
  rw [hstep.bearers_register hnew] at hlater
  rw [seenBy_append, seenBy_cons, hearlier, hlater, hnobody, List.map_eq_flatMap]
  simp [BusAct.seenBy, BusAct.calls]

/-- From where a channel is opened or emptied, a run goes on with nothing in it. -/
theorem Run.since {start : BusAct} {between : List BusAct} {index : Nat}
    (h : Run {} (log ++ start :: (between ++ act :: more)) b) (hstart : clears log index start) :
    ∃ c d e, c.channels[index]? = some (.holding []) ∧ Run c between d ∧ Step d act e := by
  obtain ⟨a, c, hbefore, hstep, hafter⟩ := h.around
  obtain ⟨d, e, hbetween, hlast, -⟩ := hafter.around
  have hcount : a.channels.length = subscriptions log :=
    hbefore.channels_length.trans (Nat.zero_add _)
  exact ⟨c, d, e, hstep.cleared hcount hstart, hbetween, hlast⟩

/-- One receives what was notified since the channel was opened or emptied last. -/
theorem Run.received_eq {start : BusAct} {between : List BusAct} {index : Nat}
    {received : List Received}
    (h : Run {} (log ++ start :: (between ++ .collect index received :: more)) b)
    (hstart : clears log index start) (hkept : ∀ act ∈ between, act.empties index = false) :
    received = Received.ofWaiting (notified between) := by
  obtain ⟨c, d, e, hopened, hbetween, hcollect⟩ := h.since hstart
  have hreceived := hcollect.received (hbetween.channel hkept hopened)
  simpa [BusAct.received, empties] using hreceived

/-- What was received in all stands for what was notified since the subscription. -/
theorem Run.standsFor {between : List BusAct} {index : Nat} {received : List Received}
    (h : Run {} (log ++ .subscribe :: (between ++ .collect index received :: more)) b)
    (hindex : index = subscriptions log) :
    StandsFor (BusAct.receivedInAll (between ++ [.collect index received]) index)
      (notified between) := by
  obtain ⟨c, d, e, hopened, hbetween, hcollect⟩ := h.since hindex
  obtain ⟨told, waiting, hstands, hsplit, hwaiting⟩ := hbetween.receivedInAll hopened
  have hreceived : received = Received.ofWaiting waiting := by
    simpa [BusAct.received, empties] using hcollect.received hwaiting
  rw [List.nil_append] at hsplit
  have hall := hstands.append (StandsFor.ofWaiting waiting)
  simpa [BusAct.receivedInAll, BusAct.received, hsplit, hreceived] using hall

/-! ## The law -/

/-- Everyone who listens is told of what is notified while they listen. Ids are given once, and as
long as fewer than `2 ^ 64` observers were registered each of them fits in 64 bits. In one
notification whoever listens then is called, in the order of registration, whichever of them panic.
So each observer sees the events from its registration until it is unregistered, once each and in
order. When a channel is emptied, one receives what was notified since it was opened or emptied
last, as if one received event by event from a stream of which the latest `channelCapacity` events
are kept: these in order and, where there were more, how many came before them. All that was ever
received from a channel stands for all events since it was opened, in order and once each. -/
theorem listeners_are_told_of_everything {log : List BusAct} {b : ObserverBus}
    (h : Run {} log b) :
    ((arrivals log).map (·.1)).Nodup ∧
    ((arrivals log).length < UInt64.size → ∀ e ∈ arrivals log, e.1.number < UInt64.size) ∧
    (∀ before event calls after, log = before ++ .notify event calls :: after →
      calls = (listening before).map fun e => (e.1, ⟨e.2, event⟩)) ∧
    (∀ before id label after, log = before ++ .register id label :: after →
      seenBy log id = (notified (tenure after id)).map fun event => ⟨label, event⟩) ∧
    (∀ before start between index received after,
      log = before ++ start :: (between ++ .collect index received :: after) →
      clears before index start → (∀ act ∈ between, act.empties index = false) →
      received = Received.ofWaiting (notified between) ∧
        Reads (notified (before ++ start :: between)) (notified before).length received) ∧
    (∀ before between index received after,
      log = before ++ .subscribe :: (between ++ .collect index received :: after) →
      index = subscriptions before →
      StandsFor (receivedInAll (between ++ [.collect index received]) index)
        (notified between)) := by
  refine ⟨h.nodup, fun hfew e he => h.number_lt_size hfew he, ?_, ?_, ?_, ?_⟩
  · rintro before event calls after rfl
    exact h.calls_eq
  · rintro before id label after rfl
    exact h.seenBy_eq
  · rintro before start between index received after rfl hstart hkept
    have hreceived := h.received_eq hstart hkept
    refine ⟨hreceived, ?_⟩
    rw [hreceived, notified_append, notified_cons, event?_of_clears hstart]
    exact reads_ofWaiting (notified before) (notified between)
  · rintro before between index received after rfl hindex
    exact h.standsFor hindex

/-- Panics at every event. -/
def frailObserver : Observer := ⟨"frail", fun _ => some ⟨.text "bug", none⟩⟩

def sturdyObserver : Observer := ⟨"sturdy", fun _ => none⟩

/-- A bus with both, and one that subscribed. -/
def crowdedBus : ObserverBus :=
  ((({} : ObserverBus).register frailObserver).2.register sturdyObserver).2.subscribe

/-- An observer that panics does not keep the event from the next one, and sees nothing once it is
unregistered. A subscriber who comes too late for some of the events receives how many. -/
theorem a_late_subscriber_receives_a_gap :
    ∃ (log : List BusAct) (b : ObserverBus) (received : List Received),
      Run {} log b ∧ .collect 0 received ∈ log ∧
      seenBy log ⟨1⟩ = [⟨"frail", .sessionPaused⟩] ∧
      seenBy log ⟨2⟩ = List.replicate 300 ⟨"sturdy", .sessionPaused⟩ ∧
      received = .gap 44 :: List.replicate 256 (.event .sessionPaused) := by
  -- The number stays a variable while the acts are gone through.
  obtain ⟨n, hn⟩ : ∃ n, n = 299 := ⟨299, rfl⟩
  obtain ⟨b, hpauses⟩ := Run.notifyAll ((crowdedBus.notify .sessionPaused).2.unregister ⟨1⟩)
    (List.replicate n .sessionPaused)
  rw [List.map_replicate] at hpauses
  have hrun := Run.goesOn (.register {} frailObserver) <| .goesOn (.register _ sturdyObserver) <|
    .goesOn (.subscribe _) <| .goesOn (.notify crowdedBus .sessionPaused) <|
    .goesOn (.unregister _ ⟨1⟩) <| hpauses.append <| .goesOn (.collect b 0) (.ended _)
  have hlate : ∀ calls, notified (List.replicate n (.notify .sessionPaused calls)) =
      List.replicate n .sessionPaused := fun calls => List.filterMap_replicate_of_some rfl
  obtain ⟨-, -, -, hseen, hreceived, -⟩ := listeners_are_told_of_everything hrun
  refine ⟨_, _, (b.collect 0).1, hrun, by simp, hseen [] ⟨1⟩ "frail" _ rfl, ?_, ?_⟩
  · have hcount : 300 = n + 1 := by omega
    rw [hcount]
    refine (hseen [_] ⟨2⟩ "sturdy" _ rfl).trans ?_
    simp [tenure, removes, notified_cons, notified_append, hlate, event?, notified_nil,
      List.replicate_succ]
  · have hall : (b.collect 0).1 = Received.ofWaiting (List.replicate (n + 1) .sessionPaused) := by
      have hkept := hreceived [_, _] .subscribe (_ :: _ :: _) 0 _ [] rfl rfl (by simp [empties])
      simpa [notified_cons, hlate, event?, List.replicate_succ] using hkept.1
    rw [hall, hn]
    simp [-List.reduceReplicate, Received.ofWaiting, List.rtake, channelCapacity]

end ObserverBus

end CrashReporter
