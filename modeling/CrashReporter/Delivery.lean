import CrashReporter.Panic
import CrashReporter.Payload
import CrashReporter.Text.Quoted

-- Delivery: where a payload goes, and what the collector's answer means for it.

namespace CrashReporter

/-! ## Outcomes -/

/-- How an attempt to deliver ended. -/
inductive DeliveryStatus
  /-- The collector took the payload. -/
  | delivered
  /-- It may take it later. -/
  | undelivered
  /-- It will never take it. -/
  | failure
deriving DecidableEq, Repr, Inhabited

namespace DeliveryStatus

def text : DeliveryStatus → String
  | delivered => "delivered"
  | undelivered => "undelivered"
  | failure => "failure"

def ofText? (s : String) : Option DeliveryStatus :=
  [delivered, undelivered, failure].find? fun v => v.text == s

/-- What a response code means: the collector refuses for good with any code from
400 to 499, save the two that ask for patience. -/
def ofCode (code : Nat) : DeliveryStatus :=
  if 200 ≤ code ∧ code < 300 then .delivered
  else if 400 ≤ code ∧ code < 500 ∧ code ≠ 408 ∧ code ≠ 429 then .failure
  else .undelivered

/-- The meaning of a response code, if it is one. -/
def ofCode? (code : Nat) : Option DeliveryStatus :=
  if 100 ≤ code ∧ code ≤ 999 then some (ofCode code) else none

end DeliveryStatus

/-- The answer to an attempt: a status, or a panic of the transport. -/
inductive Answer
  | status (status : DeliveryStatus)
  | panic (panic : Panic)
deriving DecidableEq, Repr, Inhabited

/-- A transport that panics has not delivered. -/
def Answer.outcome : Answer → DeliveryStatus
  | status s => s
  | panic _ => .undelivered

/-! ## Parameters -/

/-- Where a payload goes, and the headers that go with it. -/
structure DeliveryParams where
  endpoint : String
  headers : Dict String

namespace DeliveryParams

def new (endpoint apiKey version : String) : DeliveryParams :=
  ⟨endpoint, (Dict.empty.insert "Loom-Api-Key" apiKey).insert "Loom-Payload-Version" version⟩

def forEvents (endpoint apiKey : String) : DeliveryParams := new endpoint apiKey "4.0"

def forSessions (endpoint apiKey : String) : DeliveryParams := new endpoint apiKey "1.0"

def toJson (p : DeliveryParams) : Json :=
  .obj [("endpoint", .str p.endpoint), ("headers", .obj (p.headers.map Json.str).toList)]

/-- The parameters as diagnostics show them. -/
def shown (p : DeliveryParams) : String :=
  Text.record "DeliveryParams"
    [("endpoint", Text.quoted p.endpoint), ("headers", Text.dictionary p.headers.toList)]

end DeliveryParams

end CrashReporter
