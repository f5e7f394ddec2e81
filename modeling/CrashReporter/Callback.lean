import CrashReporter.Panic
import CrashReporter.Text.Quoted

-- Callbacks: small programs of the host that may change or veto a subject. A
-- chain runs the callbacks that were registered when the run began, in order,
-- up to the first veto. A panic keeps the changes made so far and is no veto.

namespace CrashReporter

/-- A registered callback, by the order of its registration. -/
structure CallbackId where
  number : Nat
deriving DecidableEq, Repr, Inhabited

/-- How a callback ends. -/
inductive Verdict
  | proceed
  | veto
  | panic (panic : Panic)
deriving DecidableEq, Repr, Inhabited

/-- A callback for a subject. It may also change the chain that runs it, and may
leave remarks for the host. -/
inductive Callback (α : Type)
  | reply (verdict : α → Verdict)
  | edit (change : α → α) (next : Callback α)
  | remark (text : α → Json) (next : Callback α)
  /-- What comes next depends on the subject. -/
  | inspect (next : α → Callback α)
  | register (callback : Callback α) (next : CallbackId → Callback α)
  | unregister (id : CallbackId) (next : Bool → Callback α)

instance {α : Type} : Inhabited (Callback α) := ⟨.reply fun _ => .proceed⟩

/-- The callbacks in the order of their registration. -/
structure CallbackChain (α : Type) where
  name : String
  entries : List (CallbackId × Callback α) := []
  /-- How many callbacks were ever registered. -/
  registered : Nat := 0

/-- What a run lets the host see, in order. -/
inductive Incident
  | remark (text : Json)
  | panic (panic : Panic)
deriving Inhabited

namespace CallbackChain

variable {α : Type}

def length (c : CallbackChain α) : Nat := c.entries.length

def isEmpty (c : CallbackChain α) : Bool := c.entries.isEmpty

/-- Registers a callback as the last one. Ids are never used again. -/
def add (c : CallbackChain α) (callback : Callback α) : CallbackId × CallbackChain α :=
  let id : CallbackId := ⟨c.registered + 1⟩
  (id, { c with entries := c.entries ++ [(id, callback)], registered := c.registered + 1 })

def contains (c : CallbackChain α) (id : CallbackId) : Bool := c.entries.any fun e => e.1 == id

/-- Takes a callback out of the chain. An id that is not registered changes
nothing. -/
def remove (c : CallbackChain α) (id : CallbackId) : CallbackChain α :=
  { c with entries := c.entries.filter fun e => e.1 != id }

/-- The chain as diagnostics show it. -/
def shown (c : CallbackChain α) : String :=
  Text.record "CallbackChain" [("name", Text.quoted c.name), ("len", toString c.length)]

end CallbackChain

/-! ## Runs -/

/-- Where a run stands: the chain and the subject as the callbacks left them,
whether all of them let the subject pass, and what the host saw. -/
structure CallbackRun (α : Type) where
  chain : CallbackChain α
  subject : α
  proceed : Bool := true
  incidents : List Incident := []

namespace CallbackRun

variable {α : Type}

/-- Takes a verdict: only a veto stops the run. -/
def settle (r : CallbackRun α) : Verdict → CallbackRun α
  | .proceed => r
  | .veto => { r with proceed := false }
  | .panic panic => { r with incidents := r.incidents ++ [.panic panic] }

/-- Calls one callback. -/
def call (r : CallbackRun α) : Callback α → CallbackRun α
  | .reply verdict => r.settle (verdict r.subject)
  | .edit change next => call { r with subject := change r.subject } next
  | .remark text next => call { r with incidents := r.incidents ++ [.remark (text r.subject)] } next
  | .inspect next => call r (next r.subject)
  | .register callback next =>
    let (id, chain) := r.chain.add callback
    call { r with chain } (next id)
  | .unregister id next =>
    call { r with chain := r.chain.remove id } (next (r.chain.contains id))

/-- Calls the callbacks in turn until one vetoes. -/
def callAll (r : CallbackRun α) : List (Callback α) → CallbackRun α
  | [] => r
  | callback :: rest =>
    let r := r.call callback
    if r.proceed then callAll r rest else r

end CallbackRun

/-- Runs the callbacks that are registered now. -/
def CallbackChain.run {α : Type} (c : CallbackChain α) (subject : α) : CallbackRun α :=
  ({ chain := c, subject } : CallbackRun α).callAll (c.entries.map (·.2))

end CrashReporter
