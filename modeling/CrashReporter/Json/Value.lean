-- Free-form JSON values. Whole numbers of 64 bits stay exact, any other number
-- is a double, named by its bits so that values can be compared.

namespace CrashReporter

/-- A number in free-form JSON: a whole number from `-2^63` to `2^64 - 1`, or a
double by its bits. -/
inductive Number
  | whole (value : Int)
  | double (bits : UInt64)
deriving DecidableEq, Repr, Inhabited

/-- A JSON value. An object is its list of members in the order they are written. -/
inductive Json
  | null
  | bool (value : Bool)
  | num (value : Number)
  | str (value : String)
  | arr (items : List Json)
  | obj (members : List (String × Json))
deriving BEq, Repr, Inhabited

namespace Json

def isNull : Json → Bool
  | null => true
  | _ => false

/-- A whole number. -/
def int (n : Int) : Json := num (.whole n)

/-- A count. -/
def nat (n : Nat) : Json := int n

/-- The text, or null. -/
def strOrNull : Option String → Json
  | some s => str s
  | none => null

def bool? : Json → Option Bool
  | bool b => some b
  | _ => none

def int? : Json → Option Int
  | num (.whole n) => some n
  | _ => none

def str? : Json → Option String
  | str s => some s
  | _ => none

/-- The items of an array. -/
def items : Json → List Json
  | arr items => items
  | _ => []

/-- The members of an object. -/
def members : Json → List (String × Json)
  | obj members => members
  | _ => []

/-- A member of an object. -/
def get? (v : Json) (key : String) : Option Json :=
  (v.members.find? fun m => m.1 == key).map (·.2)

end Json

end CrashReporter
