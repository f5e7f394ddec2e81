import CrashReporter.Decimal.Digits
import CrashReporter.Json.Value

-- Numerals of a document and the numbers they denote. A numeral without point
-- and exponent that fits 64 bits is that whole number. Any other one gathers as
-- many leading digits as fit 64 bits and scales them by a power of ten; a value
-- beyond the doubles denotes nothing.

namespace CrashReporter

open Decimal

/-- A numeral by its parts; the lists hold decimal digits. -/
structure Numeral where
  negative : Bool
  whole : List Char
  /-- The digits behind the point. -/
  fraction : Option (List Char)
  /-- Whether the exponent is negative, and its digits. -/
  exponent : Option (Bool × List Char)

namespace Numeral

/-! ## Gathering digits -/

def largestSignificand : Nat := UInt64.size - 1

/-- The number that the digits continue as long as it fits, and how many digits
went into it. -/
def gather (significand count : Nat) : List Char → Nat × Nat
  | [] => (significand, count)
  | c :: s =>
    match digitValue? c with
    | none => (significand, count)
    | some d =>
      let next := significand * 10 + d
      if next ≤ largestSignificand then gather next (count + 1) s else (significand, count)

/-! ## Scaling -/

/-- The double nearest to `10 ^ n` for `n ≤ 308`. -/
def powerOfTen (n : Nat) : Float := Float.ofScientific 1 false n

/-- The value times `10 ^ exponent`, in steps a double can hold. -/
def scale : Nat → Float → Int → Option Float
  | 0, _, _ => none
  | fuel + 1, x, exponent =>
    if exponent.natAbs ≤ 308 then
      if 0 ≤ exponent then
        let y := x * powerOfTen exponent.natAbs
        if y.isInf then none else some y
      else some (x / powerOfTen exponent.natAbs)
    else if x == 0 then some x
    else if 0 ≤ exponent then none
    else scale fuel (x / powerOfTen 308) (exponent + 308)

def toDouble (negative : Bool) (significand : Nat) (exponent : Int) : Option Number :=
  (scale 8 significand.toUInt64.toFloat exponent).map fun x =>
    .double (if negative then -x else x).toBits

/-- The largest exponent that is added up; a greater one is infinite. -/
def largestExponent : Nat := 0x7FFFFFFF

/-- The number that the numeral denotes, if there is one. -/
def value? (n : Numeral) : Option Number :=
  let (significand, used) := gather 0 0 n.whole
  let dropped := n.whole.length - used
  if dropped = 0 && n.fraction.isNone && n.exponent.isNone then
    if !n.negative then some (.whole significand)
    else if significand ≠ 0 && significand ≤ 0x8000000000000000 then some (.whole (-significand))
    else toDouble true significand 0
  else
    let (significand, behind) := gather significand 0 (n.fraction.getD [])
    let shift : Int := dropped - behind
    match n.exponent with
    | none => toDouble n.negative significand shift
    | some (down, ds) =>
      let size := (valueFrom 0 ds).getD 0
      if size ≤ largestExponent then
        toDouble n.negative significand (if down then shift - size else shift + size)
      else if significand ≠ 0 && !down then none
      else toDouble n.negative 0 0

/-! ## Reading -/

/-- Digits, at least one. -/
def digitRun (s : List Char) : Option (List Char × List Char) :=
  let ds := s.takeWhile isDigit
  if ds.isEmpty then none else some (ds, s.dropWhile isDigit)

/-- The digits before the point: zero alone, or digits that begin with no zero. -/
def readWhole : List Char → Option (List Char × List Char)
  | '0' :: rest =>
    match rest with
    | c :: _ => if isDigit c then none else some (['0'], rest)
    | [] => some (['0'], rest)
  | s => digitRun s

def readFraction : List Char → Option (Option (List Char) × List Char)
  | '.' :: rest => (digitRun rest).map fun (ds, rest) => (some ds, rest)
  | s => some (none, s)

def readExponent : List Char → Option (Option (Bool × List Char) × List Char)
  | [] => some (none, [])
  | c :: rest =>
    if c = 'e' ∨ c = 'E' then
      match rest with
      | '+' :: rest => (digitRun rest).map fun (ds, rest) => (some (false, ds), rest)
      | '-' :: rest => (digitRun rest).map fun (ds, rest) => (some (true, ds), rest)
      | _ => (digitRun rest).map fun (ds, rest) => (some (false, ds), rest)
    else some (none, c :: rest)

/-- The numeral at the start of a text. -/
def read (s : List Char) : Option (Numeral × List Char) := do
  let (negative, s) := match s with
    | '-' :: rest => (true, rest)
    | _ => (false, s)
  let (whole, s) ← readWhole s
  let (fraction, s) ← readFraction s
  let (exponent, s) ← readExponent s
  return (⟨negative, whole, fraction, exponent⟩, s)

end Numeral

end CrashReporter
