import CrashReporter.Dict
import CrashReporter.Json.Value

-- Asking an object for its fields without a form in mind. What is missing, or of
-- another type, counts as the value that is given for it.

namespace CrashReporter.Json

/-- The value of a field; null if there is none. -/
def field (v : Json) (key : String) : Json := (v.get? key).getD .null

/-- The value of a field; null is as good as none. -/
def given? (v : Json) (key : String) : Option Json := (v.get? key).filter fun v => !v.isNull

def text? (v : Json) (key : String) : Option String := (v.field key).str?

/-- A text, empty by default. -/
def textAt (v : Json) (key : String) : String := (v.text? key).getD ""

/-- A number; a negative one counts as zero. -/
def natAt (v : Json) (key : String) (default : Nat) : Nat :=
  ((v.field key).int?.map Int.toNat).getD default

def flagAt (v : Json) (key : String) (default : Bool) : Bool := (v.field key).bool?.getD default

def listAt (v : Json) (key : String) : List Json := (v.field key).items

/-- The texts of a list; other items are left out. -/
def textsAt (v : Json) (key : String) : List String := (v.listAt key).filterMap str?

def dictAt (v : Json) (key : String) : Dict Json := Dict.ofList (v.field key).members

end CrashReporter.Json
