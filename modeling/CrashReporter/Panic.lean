import CrashReporter.Json.Value

-- Panics: a callback, an observer, the transport or the host itself gave up. What
-- is known of one is its message, and where it was raised.

namespace CrashReporter

/-- A place in the program. -/
structure Location where
  file : String
  line : Nat
  column : Nat
deriving DecidableEq, Repr, Inhabited

/-- What a panic carries. -/
inductive PanicPayload
  | text (text : String)
  /-- A value that is no text. -/
  | other
deriving DecidableEq, Repr, Inhabited

/-- The text of a panic, or a stand-in for other values. -/
def PanicPayload.message : PanicPayload → String
  | text s => s
  | other => "Box<dyn Any>"

structure Panic where
  payload : PanicPayload
  location : Option Location := none
deriving DecidableEq, Repr, Inhabited

/-- What is known of a panic, besides its message. -/
def Panic.details (p : Panic) (thread : String) : List (String × Json) :=
  let place (l : Location) : List (String × Json) :=
    [("file", .str l.file), ("line", .nat l.line), ("column", .nat l.column)]
  (p.location.map place).getD [] ++ [("thread", .str thread)]

end CrashReporter
