import CrashReporter.Panic
import CrashReporter.StateEvent

-- Listening to state changes. Observers are called at once, in the order of
-- their registration. Channels keep events until they are collected; one that
-- is full loses its oldest event and counts the loss.

namespace CrashReporter

/-! ## Channels -/

/-- The most events that wait in a channel. -/
def channelCapacity : Nat := 256

/-- The events that wait for a subscriber, oldest first, and how many before
them were lost since the last collection. -/
structure Channel where
  lost : Nat := 0
  waiting : List StateEvent := []

/-- What a subscriber collects. -/
inductive Received
  /-- So many events were lost. -/
  | gap (lost : Nat)
  | event (event : StateEvent)

def Received.toJson : Received → Json
  | gap lost => .obj [("lagged", .nat lost)]
  | event e => e.toJson

namespace Channel

def push (c : Channel) (event : StateEvent) : Channel :=
  let all := c.waiting ++ [event]
  let surplus := all.length - channelCapacity
  ⟨c.lost + surplus, all.drop surplus⟩

/-- Everything that waits; a gap comes first. -/
def collected (c : Channel) : List Received :=
  (if c.lost = 0 then [] else [.gap c.lost]) ++ c.waiting.map .event

end Channel

/-! ## Observers -/

/-- A registered observer, by the order of its registration. -/
structure ObserverId where
  number : Nat
deriving DecidableEq, Repr, Inhabited

/-- An observer takes note of each event under its label, and may then panic. -/
structure Observer where
  label : String
  panics : StateEvent → Option Panic

/-- An observer saw an event. -/
structure Sighting where
  observer : String
  event : StateEvent

def Sighting.toJson (s : Sighting) : Json :=
  .obj [("observer", .str s.observer), ("saw", .str s.event.name)]

/-- What is seen so far of an event, and by whom. A panic ends what is under way and takes nothing
of it back. -/
abbrev Round := EStateM Panic (List (ObserverId × Sighting))

/-- Calls an observer. -/
def Observer.call (o : Observer) (id : ObserverId) (event : StateEvent) : Round Unit := do
  modify fun seen => seen ++ [(id, ⟨o.label, event⟩)]
  match o.panics event with
  | some panic => throw panic
  | none => return

structure ObserverBus where
  observers : List (ObserverId × Observer) := []
  /-- How many observers were ever registered. -/
  registered : Nat := 0
  channels : List Channel := []

namespace ObserverBus

def register (b : ObserverBus) (observer : Observer) : ObserverId × ObserverBus :=
  let id : ObserverId := ⟨b.registered + 1⟩
  (id, { b with observers := b.observers ++ [(id, observer)], registered := b.registered + 1 })

def contains (b : ObserverBus) (id : ObserverId) : Bool := b.observers.any fun e => e.1 == id

def unregister (b : ObserverBus) (id : ObserverId) : ObserverBus :=
  { b with observers := b.observers.filter fun e => e.1 != id }

/-- Opens a channel. -/
def subscribe (b : ObserverBus) : ObserverBus := { b with channels := b.channels ++ [{}] }

/-- Sends an event into every channel. -/
def broadcast (b : ObserverBus) (event : StateEvent) : ObserverBus :=
  { b with channels := b.channels.map fun c => c.push event }

/-- Calls one observer after the other. A panic is caught where it was raised. -/
def callAll (b : ObserverBus) (event : StateEvent) : Round Unit :=
  b.observers.forM fun (id, o) => tryCatch (o.call id event) fun _ => return

/-- The calls that an event leads to, in order. -/
def calls (b : ObserverBus) (event : StateEvent) : List (ObserverId × Sighting) :=
  match b.callAll event [] with
  | .ok _ seen => seen
  | .error _ seen => seen

/-- Tells the observers of an event, then the channels. -/
def notify (b : ObserverBus) (event : StateEvent) : List Sighting × ObserverBus :=
  ((b.calls event).map (·.2), b.broadcast event)

/-- Empties a channel. -/
def collect (b : ObserverBus) (index : Nat) : List Received × ObserverBus :=
  ((b.channels[index]?.map Channel.collected).getD [],
    { b with channels := b.channels.set index {} })

/-- The bus as diagnostics show it. -/
def shown (b : ObserverBus) : String :=
  Text.record "ObserverBus" [("observers", toString b.observers.length)]

end ObserverBus

end CrashReporter
