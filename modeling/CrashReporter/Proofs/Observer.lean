import CrashReporter.Observer
import Mathlib.Data.List.DropRight

-- What one notification does. Every observer is called, also after one that panicked. A channel
-- keeps the latest events and counts the others, so that it gives what one would receive, event by
-- event, from a stream that forgets its oldest events.

namespace CrashReporter

/-! ## Observers -/

/-- A caught call leaves a sighting, whether the observer panics or not. -/
theorem Observer.tryCatch_call (o : Observer) (id : ObserverId) (event : StateEvent)
    (seen : List (ObserverId × Sighting)) :
    tryCatch (o.call id event) (fun _ => return) seen =
      EStateM.Result.ok () (seen ++ [(id, ⟨o.label, event⟩)]) := by
  unfold call
  cases o.panics event with
  | none => rfl
  | some panic => rfl

namespace ObserverBus

variable (b : ObserverBus) (event : StateEvent)

theorem callAll_eq (seen : List (ObserverId × Sighting)) :
    b.callAll event seen =
      .ok () (seen ++ b.observers.map fun e => (e.1, ⟨e.2.label, event⟩)) := by
  unfold callAll
  induction b.observers generalizing seen with
  | nil => simp; rfl
  | cons e rest ih =>
    simp only [List.forM_eq_forM, List.forM_cons] at ih ⊢
    show EStateM.bind _ _ seen = _
    simp [EStateM.bind, Observer.tryCatch_call, ih]

/-- Observers are called in the order of their registration, whichever of them panic. -/
theorem calls_eq : b.calls event = b.observers.map fun e => (e.1, ⟨e.2.label, event⟩) := by
  simp [calls, callAll_eq]

theorem notify_eq :
    b.notify event = (b.observers.map fun e => ⟨e.2.label, event⟩, b.broadcast event) := by
  simp [notify, calls_eq]

end ObserverBus

/-! ## Channels -/

/-- A channel that was empty before these events were sent. -/
def Channel.holding (events : List StateEvent) : Channel :=
  ⟨events.length - channelCapacity, events.rtake channelCapacity⟩

/-- What is received where these events wait: the latest of them, and how many came before. -/
def Received.ofWaiting (events : List StateEvent) : List Received :=
  if events.length ≤ channelCapacity then events.map .event
  else .gap (events.length - channelCapacity) :: (events.rtake channelCapacity).map .event

namespace Channel

theorem holding_nil : holding [] = {} := rfl

/-- What is sent waits behind what was sent before. -/
theorem push_holding (events : List StateEvent) (event : StateEvent) :
    (holding events).push event = holding (events ++ [event]) := by
  have hkept : (events.rtake channelCapacity).length = min events.length channelCapacity := by
    simp [List.rtake]
    omega
  have hsurplus : events.length - channelCapacity +
      (min events.length channelCapacity + 1 - channelCapacity) =
      events.length + 1 - channelCapacity := by omega
  simp only [push, holding, List.length_append, hkept, List.length_singleton, hsurplus]
  rw [List.rtake, ← List.drop_append_of_le_length (Nat.sub_le _ _), List.drop_drop, hsurplus]
  simp [List.rtake]

theorem collected_holding (events : List StateEvent) :
    (holding events).collected = Received.ofWaiting events := by
  unfold collected holding Received.ofWaiting
  by_cases hfew : events.length ≤ channelCapacity
  · simp [hfew, List.rtake]
  · have hlost : events.length - channelCapacity ≠ 0 := by omega
    simp [hfew, hlost]

end Channel

/-! ## Receiving one by one -/

/-- Receives from a stream until nothing is left, where of all that was sent the latest events are
kept. At a position whose event is gone one receives how many are gone, and goes on with the oldest
that is kept. -/
inductive Reads (sent : List StateEvent) : Nat → List Received → Prop
  | upToDate : Reads sent sent.length []
  | lagged {position : Nat} {received : List Received}
      (h : position < sent.length - channelCapacity)
      (rest : Reads sent (sent.length - channelCapacity) received) :
      Reads sent position (.gap (sent.length - channelCapacity - position) :: received)
  | event {position : Nat} {event : StateEvent} {received : List Received}
      (h : sent.length - channelCapacity ≤ position) (hevent : sent[position]? = some event)
      (rest : Reads sent (position + 1) received) : Reads sent position (.event event :: received)

/-- What is kept is received as it is. -/
theorem Reads.kept (before events : List StateEvent) (h : events.length ≤ channelCapacity) :
    Reads (before ++ events) before.length (events.map .event) := by
  induction events generalizing before with
  | nil =>
    have hread : Reads before before.length [] := .upToDate
    simpa using hread
  | cons event rest ih =>
    have hrest := ih (before ++ [event]) (by simp at h; omega)
    rw [List.append_assoc, List.length_append] at hrest
    exact .event (by simp at h ⊢; omega) (by simp) hrest

/-- A subscriber who has read all that was sent before receives the events that wait. -/
theorem reads_ofWaiting (before events : List StateEvent) :
    Reads (before ++ events) before.length (Received.ofWaiting events) := by
  unfold Received.ofWaiting
  split
  · next hfew => exact .kept before events hfew
  · next hmany =>
    have hlatest : Reads (before ++ events) ((before ++ events).length - channelCapacity)
        ((events.rtake channelCapacity).map .event) := by
      have hkept := Reads.kept (before ++ events.take (events.length - channelCapacity))
        (events.rtake channelCapacity) (by simp [List.rtake]; omega)
      have hposition : (before ++ events.take (events.length - channelCapacity)).length =
          (before ++ events).length - channelCapacity := by
        simp
        omega
      rw [hposition, List.append_assoc, List.rtake, List.take_append_drop] at hkept
      exact hkept
    have hgap : events.length - channelCapacity =
        (before ++ events).length - channelCapacity - before.length := by
      simp
      omega
    rw [hgap]
    exact .lagged (by simp; omega) hlatest

/-! ## What was received -/

/-- What was received stands for these events: a gap for as many as it counts, and else each event
for itself. -/
inductive StandsFor : List Received → List StateEvent → Prop
  | nothing : StandsFor [] []
  | gap (lost : List StateEvent) {received : List Received} {events : List StateEvent}
      (rest : StandsFor received events) :
      StandsFor (.gap lost.length :: received) (lost ++ events)
  | event (event : StateEvent) {received : List Received} {events : List StateEvent}
      (rest : StandsFor received events) : StandsFor (.event event :: received) (event :: events)

namespace StandsFor

theorem append {received more : List Received} {events later : List StateEvent}
    (h : StandsFor received events) (hmore : StandsFor more later) :
    StandsFor (received ++ more) (events ++ later) := by
  induction h with
  | nothing => exact hmore
  | gap lost rest ih => simpa using ih.gap lost
  | event event rest ih => exact ih.event event

theorem map_event (events : List StateEvent) : StandsFor (events.map .event) events := by
  induction events with
  | nil => exact .nothing
  | cons event rest ih => exact ih.event event

theorem ofWaiting (events : List StateEvent) : StandsFor (Received.ofWaiting events) events := by
  unfold Received.ofWaiting
  split
  · exact map_event events
  · have hgap := (map_event (events.rtake channelCapacity)).gap
      (events.take (events.length - channelCapacity))
    rw [List.rtake, List.take_append_drop] at hgap
    simpa [List.rtake] using hgap

end StandsFor

end CrashReporter
