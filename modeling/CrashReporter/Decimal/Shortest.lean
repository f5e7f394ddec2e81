-- The fewest decimal digits that read back as a given double. On the grids of
-- 1, 2, … 17 digits the value's two neighbours are tried; the first grid with a
-- neighbour that rounds to the value wins, and of two the nearer; an exact tie
-- goes to the even digit.

namespace CrashReporter.Decimal

/-! ## Doubles as fractions -/

/-- A positive finite double: `mantissa * 2 ^ exponent`. `atPowerOfTwo` says that
the gap below it is half the gap above. -/
structure Binary where
  mantissa : Nat
  exponent : Int
  atPowerOfTwo : Bool

/-- The size of the double with these bits, for a finite double other than zero. -/
def Binary.ofBits (bits : UInt64) : Binary :=
  let field := ((bits >>> 52) &&& 0x7FF).toNat
  let fraction := (bits &&& 0xFFFFFFFFFFFFF).toNat
  if field = 0 then ⟨fraction, -1074, false⟩
  else ⟨fraction + 0x10000000000000, field - 1075, fraction = 0 && field ≠ 1⟩

/-- Four times the value, its lower and its upper rounding bound, over one
common denominator. -/
structure Span where
  value : Nat
  low : Nat
  high : Nat
  denominator : Nat
  closed : Bool

def Binary.span (b : Binary) : Span :=
  let scale := 1 <<< b.exponent.toNat
  let m := 4 * b.mantissa
  { value := m * scale
    low := (m - if b.atPowerOfTwo then 1 else 2) * scale
    high := (m + 2) * scale
    denominator := 4 <<< (-b.exponent).toNat
    closed := b.mantissa % 2 = 0 }

/-! ## Grids of decimals -/

/-- `digits * 10 ^ exponent`. -/
structure Scientific where
  digits : Nat
  exponent : Int
deriving DecidableEq, Repr

/-- The numerators of `d * 10 ^ k` and of `x / denominator` over one denominator. -/
def Span.align (s : Span) (d : Nat) (k : Int) (x : Nat) : Nat × Nat :=
  (d * Nat.pow 10 k.toNat * s.denominator, x * Nat.pow 10 (-k).toNat)

/-- `d * 10 ^ k` rounds to the value. -/
def Span.admits (s : Span) (d : Nat) (k : Int) : Bool :=
  let (a, low) := s.align d k s.low
  let (b, high) := s.align d k s.high
  if s.closed then low ≤ a && b ≤ high else low < a && b < high

/-- The greatest `p` with `10 ^ p ≤ value`, found by going up from `p`. -/
def Span.climb (s : Span) : Nat → Int → Int
  | 0, p => p
  | fuel + 1, p =>
    let (a, x) := s.align 1 (p + 1) s.value
    if a ≤ x then s.climb fuel (p + 1) else p

/-- The decimal order of magnitude of the value. -/
def Span.magnitude (s : Span) : Int :=
  let bits : Int := (Nat.log2 s.value : Int) - Nat.log2 s.denominator
  s.climb 4 (bits * 30103 / 100000 - 2)

/-- The nearest decimal of the grid `10 ^ k` that rounds to the value; of two
equally near the one with an even last digit. -/
def Span.onGrid (s : Span) (k : Int) : Option Scientific :=
  let below := s.value * Nat.pow 10 (-k).toNat / (Nat.pow 10 k.toNat * s.denominator)
  let above := below + 1
  match s.admits below k, s.admits above k with
  | true, true =>
    let (a, x) := s.align below k s.value
    let (b, _) := s.align above k s.value
    let nearBelow := x - a < b - x || (x - a = b - x && below % 2 = 0)
    some ⟨if nearBelow then below else above, k⟩
  | true, false => some ⟨below, k⟩
  | false, true => some ⟨above, k⟩
  | false, false => none

/-- Tries the grids with `count`, `count + 1`, … digits. -/
def Span.search (s : Span) (p : Int) : Nat → Nat → Scientific
  | 0, count => ⟨s.value / s.denominator, p - count⟩
  | fuel + 1, count =>
    match s.onGrid (p - count + 1) with
    | some d => d
    | none => s.search p fuel (count + 1)

/-- Moves trailing zeros into the exponent. -/
def Scientific.reduce : Nat → Scientific → Scientific
  | 0, d => d
  | fuel + 1, d =>
    if d.digits ≠ 0 ∧ d.digits % 10 = 0 then
      Scientific.reduce fuel ⟨d.digits / 10, d.exponent + 1⟩
    else d

/-- The shortest decimal that reads back as the double with these bits, for a
finite double other than zero. -/
def shortest (bits : UInt64) : Scientific :=
  let s := (Binary.ofBits bits).span
  Scientific.reduce 18 (s.search s.magnitude 17 1)

end CrashReporter.Decimal
