import CrashReporter.Json.Tree

-- Reading typed values from a JSON tree. A record is read from an object, or
-- from an array of its fields in order; an open record keeps the members that
-- are no field of it. Every step into an array or object uses up one level.

namespace CrashReporter

/-- Reads a value from a tree that may nest so many levels. -/
abbrev Reader (α : Type) := Nat → Tree → Option α

namespace Reader

/-! ## Plain values -/

def bool : Reader Bool
  | _, .bool b => some b
  | _, _ => none

def string : Reader String
  | _, .str s => s
  | _, _ => none

/-- A whole number from 0 to `largest`. -/
def natTo (largest : Nat) : Reader Nat
  | _, .num (some (.whole (.ofNat n))) => if n ≤ largest then some n else none
  | _, _ => none

def uint32 : Reader UInt32 := fun room t => (natTo (UInt32.size - 1) room t).map Nat.toUInt32

def uint64 : Reader UInt64 := fun room t => (natTo (UInt64.size - 1) room t).map Nat.toUInt64

/-- A size: a whole number of 64 bits. -/
def size : Reader Nat := natTo (UInt64.size - 1)

/-- Free-form JSON. -/
def json : Reader Json := Tree.json?

/-- A value, or null for none. -/
def option {α : Type} (r : Reader α) : Reader (Option α)
  | _, .null => some none
  | room, t => (r room t).map some

def list {α : Type} (r : Reader α) : Reader (List α)
  | room + 1, .arr items => items.mapM (r room)
  | _, _ => none

/-- The members of an object; of two with one key the later counts. -/
def dict {α : Type} (r : Reader α) : Reader (Dict α)
  | room + 1, .obj members => do
    let entries ← members.mapM fun (key, t) => return (← key, ← r room t)
    return Dict.ofList entries
  | _, _ => none

/-- A word with a meaning. It may also be written as the only key of an object,
with null as its value. -/
def word {α : Type} (meaning : String → Option α) : Reader α
  | _, .str s => s.bind meaning
  | _ + 1, .obj [(key, .null)] => key.bind meaning
  | _, _ => none

/-! ## Records -/

/-- The parts of a record: the trees of its fields, the other members, and
whether the fields were given by position. -/
structure Parts where
  fields : List (String × Tree)
  others : List (String × Tree)
  positional : Bool
  room : Nat

/-- Sorts the members of an object into fields and others. A field given twice
is refused. -/
def sortMembers (names : List String) :
    List (Option String × Tree) → Parts → Option Parts
  | [], found => some found
  | (key, t) :: rest, found => do
    let key ← key
    if names.contains key then
      if (found.fields.any fun f => f.1 == key) then none
      else sortMembers names rest { found with fields := found.fields ++ [(key, t)] }
    else sortMembers names rest { found with others := found.others ++ [(key, t)] }

/-- The parts of a record with the given fields. Members that are no field are
left alone, surplus items of an array are refused. -/
def parts? (names : List String) : Nat → Tree → Option Parts
  | room + 1, .obj members => sortMembers names members ⟨[], [], false, room⟩
  | room + 1, .arr items =>
    if items.length ≤ names.length then some ⟨names.zip items, [], true, room⟩ else none
  | _, _ => none

/-- The parts of an open record, which is always written as an object. -/
def openParts? (names : List String) : Nat → Tree → Option Parts
  | room + 1, .obj members => sortMembers names members ⟨[], [], false, room⟩
  | _, _ => none

namespace Parts

variable {α : Type}

def field? (p : Parts) (name : String) : Option Tree :=
  (p.fields.find? fun f => f.1 == name).map (·.2)

/-- A field that has to be there. -/
def required (p : Parts) (name : String) (r : Reader α) : Option α :=
  (p.field? name).bind (r p.room)

/-- A field that counts as `default` where it is missing. -/
def optional (p : Parts) (name : String) (r : Reader α) (default : α) : Option α :=
  match p.field? name with
  | some t => r p.room t
  | none => some default

/-- A field that may be null, and may be missing from an object. -/
def nullable (p : Parts) (name : String) (r : Reader α) : Option (Option α) :=
  match p.field? name with
  | some t => option r p.room t
  | none => if p.positional then none else some none

/-- The members that are no field, as free-form JSON. -/
def extra (p : Parts) : Option (Dict Json) := do
  let entries ← p.others.mapM fun (key, t) => return (key, ← json p.room t)
  return Dict.ofList entries

end Parts

/-! ## Texts and values -/

/-- Reads a whole JSON text. -/
def ofText? {α : Type} (r : Reader α) (s : String) : Option α :=
  (Tree.ofText s.toList).bind (r Tree.depthLimit)

/-- Reads a whole JSON text from bytes. -/
def ofBytes? {α : Type} (r : Reader α) (bytes : List UInt8) : Option α :=
  (Tree.ofBytes bytes).bind (r Tree.depthLimit)

/-- Reads a free-form value. A value that was read nests within the limit. -/
def ofJson? {α : Type} (r : Reader α) (v : Json) : Option α :=
  r Tree.depthLimit (Tree.ofJson v)

end Reader

end CrashReporter
