-- Decimal digits of natural numbers: writing, padding to a width, and reading
-- with a bound. A numeral that is too large is refused, never cut off.

namespace CrashReporter.Decimal

/-- The digit with the value `n` for `n < 10`. -/
def digitChar (n : Nat) : Char := Char.ofNat (n + 48)

/-- The value of an ASCII decimal digit. -/
def digitValue? (c : Char) : Option Nat :=
  if '0' ≤ c ∧ c ≤ '9' then some (c.toNat - 48) else none

def isDigit (c : Char) : Bool := (digitValue? c).isSome

/-- The digits of `n`, at most `fuel` of them, least significant first. -/
def digitsBackward : Nat → Nat → List Char
  | 0, _ => []
  | fuel + 1, n =>
    if n < 10 then [digitChar n] else digitChar (n % 10) :: digitsBackward fuel (n / 10)

/-- The decimal digits of `n`, without leading zeros. A number has no more
decimal digits than binary ones. -/
def digits (n : Nat) : List Char :=
  (digitsBackward (n.log2 + 1) n).reverse

/-- The digits of `n`, filled up with zeros on the left to `width`. -/
def padded (width n : Nat) : List Char :=
  let ds := digits n
  List.replicate (width - ds.length) '0' ++ ds

/-- The number that the digits denote after `acc`; `none` at another character. -/
def valueFrom (acc : Nat) : List Char → Option Nat
  | [] => some acc
  | c :: s => (digitValue? c).bind fun d => valueFrom (acc * 10 + d) s

/-- Reads a numeral of at least one digit with an optional plus sign, up to
`largest`. -/
def bounded? (largest : Nat) (s : List Char) : Option Nat :=
  let body := match s with
    | '+' :: rest => rest
    | _ => s
  if body.isEmpty then none
  else (valueFrom 0 body).bind fun n => if n ≤ largest then some n else none

/-- The decimal text of an integer. -/
def signed (n : Int) : List Char :=
  match n with
  | .ofNat n => digits n
  | .negSucc n => '-' :: digits (n + 1)

end CrashReporter.Decimal
