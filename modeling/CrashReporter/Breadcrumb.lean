import CrashReporter.Time.Timestamp

-- Breadcrumbs: what happened before an error, in order. A name that is given to
-- a new breadcrumb is cut to its first hundred characters; one that is read from
-- a record, or set by a callback, stays as it is.

namespace CrashReporter

inductive BreadcrumbType
  | error
  | log
  | manual
  | navigation
  | process
  | request
  | state
  | user
deriving DecidableEq, Repr, Inhabited

namespace BreadcrumbType

def text : BreadcrumbType → String
  | error => "error"
  | log => "log"
  | manual => "manual"
  | navigation => "navigation"
  | process => "process"
  | request => "request"
  | state => "state"
  | user => "user"

def all : List BreadcrumbType := [error, log, manual, navigation, process, request, state, user]

def ofText? (s : String) : Option BreadcrumbType := all.find? fun v => v.text == s

def reader : Reader BreadcrumbType := Reader.word ofText?

theorem ofText?_text (v : BreadcrumbType) : ofText? v.text = some v := by cases v <;> decide

end BreadcrumbType

structure Breadcrumb where
  timestamp : Instant
  name : String
  kind : BreadcrumbType
  metadata : Dict Json
deriving Inhabited

namespace Breadcrumb

/-- The longest name of a new breadcrumb, in characters. -/
def nameLimit : Nat := 100

/-- A new breadcrumb; the name is cut to the limit. -/
def new (name : String) (kind : BreadcrumbType) (metadata : Dict Json) (timestamp : Instant) :
    Breadcrumb :=
  ⟨timestamp, String.ofList (name.toList.take nameLimit), kind, metadata⟩

/-- A breadcrumb left by hand. Its text is metadata, so it is not cut. -/
def manual (message : String) (timestamp : Instant) : Breadcrumb :=
  new "manual" .manual (Dict.empty.insert "message" (.str message)) timestamp

def toJson (b : Breadcrumb) : Json :=
  .obj [("timestamp", b.timestamp.toJson), ("name", .str b.name), ("type", .str b.kind.text),
    ("metaData", .obj b.metadata.toList)]

def reader : Reader Breadcrumb := fun room t => do
  let p ← Reader.parts? ["timestamp", "name", "type", "metaData"] room t
  return { timestamp := ← p.required "timestamp" Instant.reader
           name := ← p.required "name" Reader.string
           kind := ← p.required "type" BreadcrumbType.reader
           metadata := ← p.optional "metaData" (Reader.dict Reader.json) Dict.empty }

end Breadcrumb

end CrashReporter
