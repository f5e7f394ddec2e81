import CrashReporter.Dict
import CrashReporter.Decimal.Digits
import CrashReporter.Json.Field
import CrashReporter.Text.Cut
import CrashReporter.Text.Hex

-- The directory that records are kept in, and the names of records. A record's
-- name begins with a stamp, so records in the order of their names are in the
-- order they were written.

namespace CrashReporter

/-! ## Directories -/

/-- What a file holds. -/
inductive Content
  | text (text : String)
  /-- Bytes that are no text. -/
  | bytes (bytes : List UInt8)
deriving DecidableEq, Repr, Inhabited

/-- The content that bytes make up. -/
def Content.ofBytes (bytes : List UInt8) : Content :=
  match String.fromUTF8? ⟨bytes.toArray⟩ with
  | some s => text s
  | none => Content.bytes bytes

inductive Entry
  | file (content : Content)
  | folder
deriving DecidableEq, Repr, Inhabited

/-- An entry by its text or its bytes, or a directory. -/
def Entry.ofJson (v : Json) : Entry :=
  if v.flagAt "dir" false then .folder
  else match v.given? "bytes" with
    | some bytes => .file (.ofBytes (bytes.items.map fun b => (b.int?.getD 0).toNat.toUInt8))
    | none => .file (.text (v.textAt "content"))

/-- The entries of a directory by their names. -/
abbrev Folder := Dict Entry

/-- What is found at a path. -/
inductive Place
  | nothing
  | file
  | folder (entries : Folder)
deriving Inhabited

namespace Place

def folder? : Place → Option Folder
  | folder entries => some entries
  | _ => none

/-- The directory at a path, made if there is nothing. -/
def makeFolder : Place → Option Folder
  | nothing => some Dict.empty
  | folder entries => some entries
  | file => none

/-- Changes a directory, which is made if there is nothing. -/
def change (p : Place) (f : Folder → Folder) : Place :=
  match p.makeFolder with
  | some entries => folder (f entries)
  | none => p

end Place

/-! ## Names -/

namespace RecordName

open Text Decimal

/-- The largest stamp. -/
def lastStamp : Nat := UInt64.size - 1

/-- A name of a file that is still being written begins so. -/
def unfinished : List Char := ".tmp-".toList

/-- The stamp that a name begins with, up to the first underscore. -/
def stamp? (name : String) : Option Nat :=
  (cutFirst ['_'] name.toList).bind fun (stamp, _) => bounded? lastStamp stamp

/-- A record is a JSON file that shows and has a stamp. -/
def isRecord (name : String) : Bool :=
  !startsWith ['.'] name.toList && endsWith ".json".toList name.toList && (stamp? name).isSome

def isUnfinished (name : String) : Bool := startsWith unfinished name.toList

/-- The name of a record: its stamp with twenty digits, and the 32 hexadecimal
digits of a tag that sets apart names of one stamp. -/
def ofStamp (stamp tag : Nat) : String :=
  String.ofList (padded 20 stamp ++ '_' :: hexDigits 32 tag ++ ".json".toList)

/-- A stamp after the last one, and not before the present time. -/
def stampAfter (last now : Nat) : Nat := max now (min (last + 1) lastStamp)

end RecordName

namespace Folder

/-- Puts entries into a directory under the names that they go by. -/
def putFiles (files : List Json) (f : Folder) : Folder :=
  files.foldl (fun f v => f.insert (v.textAt "name") (.ofJson v)) f

/-- The records in the order of their names. -/
def records (f : Folder) : List String := f.keys.filter RecordName.isRecord

/-- The largest stamp of any name; names of unfinished files do not count. -/
def largestStamp (f : Folder) : Nat :=
  let names := f.keys.filter fun name => !RecordName.isUnfinished name
  (names.filterMap RecordName.stamp?).foldl max 0

/-- Takes a file away. A directory stays. -/
def removeFile (f : Folder) (name : String) : Folder :=
  match f.get? name with
  | some .folder => f
  | _ => f.erase name

/-- Takes the unfinished files away. -/
def tidy (f : Folder) : Folder := (f.keys.filter RecordName.isUnfinished).foldl removeFile f

/-- Takes files away in turn, at most so many of them. -/
def removeUpTo : Nat → List String → Folder → Folder
  | 0, _, f => f
  | _, [], f => f
  | n + 1, name :: rest, f =>
    match f.get? name with
    | some .folder => removeUpTo (n + 1) rest f
    | _ => removeUpTo n rest (f.erase name)

end Folder

end CrashReporter
