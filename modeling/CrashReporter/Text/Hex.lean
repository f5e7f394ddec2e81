-- Hexadecimal digits: written in lower case, read in either case.

namespace CrashReporter.Text

/-- The digit with the value `n` for `n < 16`. -/
def hexDigit (n : Nat) : Char := if n < 10 then Char.ofNat (n + 48) else Char.ofNat (n + 87)

/-- The lowest `count` digits of `n`. -/
def hexDigits : Nat → Nat → List Char
  | 0, _ => []
  | count + 1, n => hexDigits count (n / 16) ++ [hexDigit (n % 16)]

def hexValue? (c : Char) : Option Nat :=
  if '0' ≤ c ∧ c ≤ '9' then some (c.toNat - 48)
  else if 'a' ≤ c ∧ c ≤ 'f' then some (c.toNat - 87)
  else if 'A' ≤ c ∧ c ≤ 'F' then some (c.toNat - 55)
  else none

/-- The number that digits denote. -/
def hexNumber? (ds : List Char) : Option Nat :=
  (ds.mapM hexValue?).map fun values => values.foldl (fun n d => n * 16 + d) 0

end CrashReporter.Text
