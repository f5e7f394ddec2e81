import CrashReporter.Decimal.Digits

-- Punycode: text outside ASCII written with letters and digits. Each code tells
-- where the next character goes and how far its number is from the one before.

namespace CrashReporter.Symbol.Punycode

/-- The value of a base-36 digit: letters first, then digits. -/
def digit? (c : Char) : Option Nat :=
  if 'a' ≤ c ∧ c ≤ 'z' then some (c.toNat - 97)
  else if '0' ≤ c ∧ c ≤ '9' then some (c.toNat - 48 + 26)
  else none

def largest : Nat := UInt64.size - 1

/-- The least digit value that continues a number at place `k`. -/
def threshold (k bias : Nat) : Nat := min (max (k - bias) 1) 26

/-- Reads one number in variable-length digits. -/
def number? (bias : Nat) : List Char → Nat → Nat → Nat → Option (Nat × List Char)
  | [], _, _, _ => none
  | c :: rest, k, weight, sum => do
    let d ← digit? c
    let sum := sum + d * weight
    let t := threshold k bias
    if largest < sum then none
    else if d < t then some (sum, rest)
    else if largest < weight * (36 - t) then none
    else number? bias rest (k + 36) (weight * (36 - t)) sum

/-- Divides until the number is small, counting the divisions. -/
def settle : Nat → Nat → Nat → Nat × Nat
  | 0, delta, k => (delta, k)
  | fuel + 1, delta, k => if 455 < delta then settle fuel (delta / 35) (k + 36) else (delta, k)

/-- The bias after a number. -/
def adapt (delta damp length : Nat) : Nat :=
  let delta := delta / damp
  let (delta, k) := settle 64 (delta + delta / length) 0
  k + 36 * delta / (delta + 38)

/-- The state between two codes. -/
structure State where
  out : List Char
  damp : Nat
  bias : Nat
  place : Nat
  char : Nat

/-- The longest text that is decoded. -/
def longest : Nat := 128

/-- Reads the codes one after the other. -/
def insertAll : Nat → State → List Char → Option (List Char)
  | 0, _, _ => none
  | fuel + 1, st, codes => do
    let (delta, rest) ← number? st.bias codes 36 1 0
    let length := st.out.length + 1
    let place := st.place + delta
    let number := st.char + place / length
    if largest < place ∨ ¬ number.isValidChar ∨ longest ≤ st.out.length then none
    else
      let place := place % length
      let out := st.out.take place ++ Char.ofNat number :: st.out.drop place
      if rest.isEmpty then some out
      else insertAll fuel ⟨out, 2, adapt delta st.damp length, place + 1, number⟩ rest

/-- The text of the ASCII part and the codes, if there are codes and they can be
read. -/
def decode? (ascii codes : List Char) : Option (List Char) :=
  if codes.isEmpty ∨ longest < ascii.length then none
  else insertAll (codes.length + 1) ⟨ascii, 700, 72, 0, 0x80⟩ codes

end CrashReporter.Symbol.Punycode
