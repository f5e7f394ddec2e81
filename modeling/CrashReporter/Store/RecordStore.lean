import CrashReporter.Error
import CrashReporter.Event
import CrashReporter.Store.Folder
import CrashReporter.Text.Quoted

-- A durable queue of records in one directory. Writing keeps at most so many
-- records and drops the oldest beyond them. Claimed records are reserved: no
-- other claim finds them and no writing drops them, until they are deleted or
-- the claim is given up.

namespace CrashReporter

/-! ## Records -/

/-- What can be kept in a record. -/
class Storable (α : Type) where
  toJson : α → Json
  reader : Reader α

instance : Storable Json := ⟨id, Reader.json⟩
instance : Storable Event := ⟨Event.toJson, Event.reader⟩
instance : Storable SessionSnapshot := ⟨SessionSnapshot.toJson, SessionSnapshot.reader⟩

/-- An item as it is kept: with the version of the form and its kind. -/
structure StoredRecord (α : Type) where
  version : UInt32
  kind : PayloadKind
  item : α

namespace StoredRecord

variable {α : Type} [Storable α]

/-- The version that is written. -/
def currentVersion : UInt32 := 1

def toJson (r : StoredRecord α) : Json :=
  .obj [("version", .nat r.version.toNat), ("kind", .str r.kind.text),
    ("item", Storable.toJson r.item)]

def reader : Reader (StoredRecord α) := fun room t => do
  let p ← Reader.parts? ["version", "kind", "item"] room t
  return { version := ← p.required "version" Reader.uint32
           kind := ← p.required "kind" PayloadKind.reader
           item := ← p.required "item" Storable.reader }

end StoredRecord

/-! ## Stores -/

structure RecordStore (α : Type) where
  kind : PayloadKind
  /-- How many records are kept. -/
  limit : Nat
  reserved : List String := []
  lastStamp : Nat := 0
  place : Place

namespace RecordStore

variable {α : Type}

/-- A directory that cannot be listed or written to. -/
def noFolder : ReportError := .io "no such directory"

/-- Opens a store at a place. Files that were left unfinished go. -/
def openAt (kind : PayloadKind) (limit : Nat) (place : Place) :
    Except ReportError (RecordStore α) :=
  match place.makeFolder with
  | some f => .ok { kind, limit, lastStamp := f.largestStamp, place := .folder f.tidy }
  | none => .error (.io "a file is in the way")

def change (s : RecordStore α) (f : Folder → Folder) : RecordStore α :=
  match s.place with
  | .folder entries => { s with place := .folder (f entries) }
  | _ => s

/-! ## Listing -/

/-- All records, oldest first, the reserved ones too. -/
def enumerate (s : RecordStore α) : Except ReportError (List String) :=
  match s.place.folder? with
  | some f => .ok f.records
  | none => .error noFolder

def length (s : RecordStore α) : Nat :=
  match s.enumerate with
  | .ok records => records.length
  | .error _ => 0

/-- Those of the records that nobody has claimed. -/
def unclaimed (s : RecordStore α) (records : List String) : List String :=
  records.filter fun name => !s.reserved.contains name

/-- Reserves every record that nobody has claimed. -/
def claim (s : RecordStore α) : Except ReportError (List String × RecordStore α) :=
  s.enumerate.map fun records =>
    let free := s.unclaimed records
    (free, { s with reserved := s.reserved ++ free })

/-- Gives claims up. -/
def cancel (s : RecordStore α) (names : List String) : RecordStore α :=
  { s with reserved := s.reserved.filter fun name => !names.contains name }

/-- Takes records away and gives the claims on them up. -/
def delete (s : RecordStore α) (names : List String) : RecordStore α :=
  (s.change fun f => names.foldl Folder.removeFile f).cancel names

/-! ## Writing -/

/-- Drops the oldest unclaimed records beyond the limit. -/
def prune (s : RecordStore α) : RecordStore α :=
  s.change fun f => Folder.removeUpTo (f.records.length - s.limit) (s.unclaimed f.records) f

variable [Storable α]

/-- The text of the record of an item. -/
def recordText (s : RecordStore α) (item : α) : String :=
  (StoredRecord.toJson ⟨StoredRecord.currentVersion, s.kind, item⟩).text

/-- Writes a record, with the present time in microseconds and a tag that no other
record has, and gives its name. -/
def write (s : RecordStore α) (item : α) (now tag : Nat) :
    RecordStore α × Except ReportError String :=
  let stamp := RecordName.stampAfter s.lastStamp now
  let name := RecordName.ofStamp stamp tag
  let s := { s with lastStamp := stamp }
  match s.place with
  | .folder f =>
    let f := f.insert name (.file (.text (s.recordText item)))
    ({ s with place := .folder f }.prune, .ok name)
  | _ => (s, .error noFolder)

/-! ## Reading -/

/-- The item of a record that was read, if it is one of this store. -/
def accept (s : RecordStore α) (name : String) (r : StoredRecord α) : Except ReportError α :=
  if r.version ≠ StoredRecord.currentVersion then
    .error (.corruptRecord name ("unsupported version " ++ toString r.version.toNat))
  else if r.kind ≠ s.kind then
    .error (.corruptRecord name ("expected " ++ s.kind.text ++ " record, found " ++ r.kind.text))
  else .ok r.item

/-- What the content of a record says. -/
def parse (content : Content) : Except ReportError (StoredRecord α) :=
  let parsed := match content with
    | .text text => Reader.ofText? StoredRecord.reader text
    | .bytes bytes => Reader.ofBytes? StoredRecord.reader bytes
  match parsed with
  | some r => .ok r
  | none => .error (.serialization "no record")

def read (s : RecordStore α) (name : String) : Except ReportError α :=
  match s.place.folder?.bind fun f => f.get? name with
  | some (.file content) => parse content >>= s.accept name
  | some .folder => .error (.io "a directory")
  | none => .error (.io "no such file")

/-! ## Diagnostics -/

/-- The store as diagnostics show it. -/
def shown (s : RecordStore α) (dir : String) : String :=
  let kind := match s.kind with
    | .event => "Event"
    | .session => "Session"
  Text.record "FileStore"
    [("dir", Text.quoted dir), ("kind", kind), ("max_records", toString s.limit)]

end RecordStore

end CrashReporter
