import CrashReporter.Json.Reader

-- Metadata: sections of named values. Adding null takes a value away, and a
-- section goes with its last value, so metadata that is only built by adding
-- holds neither empty sections nor nulls.

namespace CrashReporter

structure Metadata where
  sections : Dict (Dict Json)
deriving Inhabited

namespace Metadata

def empty : Metadata := ⟨Dict.empty⟩

def isEmpty (m : Metadata) : Bool := m.sections.isEmpty

def section? (m : Metadata) (name : String) : Option (Dict Json) := m.sections.get? name

def get? (m : Metadata) (name key : String) : Option Json :=
  (m.section? name).bind fun values => values.get? key

/-! ## Changes -/

/-- Takes a value away, and its section if that leaves it empty. -/
def clearKey (m : Metadata) (name key : String) : Metadata :=
  match m.section? name with
  | none => m
  | some values =>
    let left := values.erase key
    ⟨if left.isEmpty then m.sections.erase name else m.sections.insert name left⟩

/-- Sets a value; null takes it away instead. -/
def add (m : Metadata) (name key : String) (value : Json) : Metadata :=
  if value.isNull then m.clearKey name key
  else ⟨m.sections.insert name (((m.section? name).getD Dict.empty).insert key value)⟩

/-- Adds each value of a section, in key order. -/
def addSection (m : Metadata) (name : String) (values : Dict Json) : Metadata :=
  values.toList.foldl (fun m e => m.add name e.1 e.2) m

def clearSection (m : Metadata) (name : String) : Metadata := ⟨m.sections.erase name⟩

/-- Lays `other` over `m`; where both have a value, that of `other` counts. -/
def merge (m other : Metadata) : Metadata :=
  other.sections.toList.foldl (fun m e => m.addSection e.1 e.2) m

/-! ## JSON -/

def toJson (m : Metadata) : Json :=
  .obj (m.sections.toList.map fun e => (e.1, .obj e.2.toList))

def reader : Reader Metadata := fun room t =>
  (Reader.dict (Reader.dict Reader.json) room t).map Metadata.mk

end Metadata

end CrashReporter
