import CrashReporter.Json.Reader

-- Who was using what: the user, and the state of the app and of the device. App
-- and device keep members that are no field of theirs.

namespace CrashReporter

/-! ## User -/

structure User where
  id : Option String := none
  email : Option String := none
  name : Option String := none
deriving DecidableEq, Repr, Inhabited

namespace User

/-- Nothing is known about the user. -/
def isEmpty (u : User) : Bool := u.id.isNone && u.email.isNone && u.name.isNone

def toJson (u : User) : Json :=
  .obj [("id", .strOrNull u.id), ("email", .strOrNull u.email), ("name", .strOrNull u.name)]

def reader : Reader User := fun room t => do
  let p ← Reader.parts? ["id", "email", "name"] room t
  return { id := ← p.nullable "id" Reader.string
           email := ← p.nullable "email" Reader.string
           name := ← p.nullable "name" Reader.string }

end User

/-! ## App -/

structure AppState where
  id : Option String := none
  version : Option String := none
  releaseStage : Option String := none
  inForeground : Option Bool := none
  durationInForegroundMs : Option UInt64 := none
  extra : Dict Json := Dict.empty
deriving Inhabited

namespace AppState

/-- The names that a field of the app state goes by. -/
def fieldNames : List String :=
  ["id", "version", "releaseStage", "inForeground", "durationInForegroundMs"]

/-- The fields come first, then the other members. A member with the name of a
field is written beside it. -/
def toJson (a : AppState) : Json :=
  let duration := a.durationInForegroundMs.map fun n => Json.nat n.toNat
  .obj ([("id", .strOrNull a.id), ("version", .strOrNull a.version),
    ("releaseStage", .strOrNull a.releaseStage),
    ("inForeground", (a.inForeground.map Json.bool).getD .null),
    ("durationInForegroundMs", duration.getD .null)] ++ a.extra.toList)

def reader : Reader AppState := fun room t => do
  let p ← Reader.openParts? fieldNames room t
  return { id := ← p.nullable "id" Reader.string
           version := ← p.nullable "version" Reader.string
           releaseStage := ← p.nullable "releaseStage" Reader.string
           inForeground := ← p.nullable "inForeground" Reader.bool
           durationInForegroundMs := ← p.nullable "durationInForegroundMs" Reader.uint64
           extra := ← p.extra }

end AppState

/-! ## Device -/

structure DeviceState where
  id : Option String := none
  manufacturer : Option String := none
  model : Option String := none
  osName : Option String := none
  osVersion : Option String := none
  extra : Dict Json := Dict.empty
deriving Inhabited

namespace DeviceState

/-- The names that a field of the device state goes by. -/
def fieldNames : List String := ["id", "manufacturer", "model", "osName", "osVersion"]

/-- The fields come first, then the other members. -/
def toJson (d : DeviceState) : Json :=
  .obj ([("id", .strOrNull d.id), ("manufacturer", .strOrNull d.manufacturer),
    ("model", .strOrNull d.model), ("osName", .strOrNull d.osName),
    ("osVersion", .strOrNull d.osVersion)] ++ d.extra.toList)

def reader : Reader DeviceState := fun room t => do
  let p ← Reader.openParts? fieldNames room t
  return { id := ← p.nullable "id" Reader.string
           manufacturer := ← p.nullable "manufacturer" Reader.string
           model := ← p.nullable "model" Reader.string
           osName := ← p.nullable "osName" Reader.string
           osVersion := ← p.nullable "osVersion" Reader.string
           extra := ← p.extra }

end DeviceState

end CrashReporter
