import CrashReporter.Text.Hex
import Mathlib.Algebra.Group.Nat.Defs

-- Hexadecimal digits read back: a fixed number of them denotes the number that they were
-- made of, as far as it fits.

namespace CrashReporter.Text

theorem hexValue?_hexDigit {n : Nat} (h : n < 16) : hexValue? (hexDigit n) = some n := by
  have hall : ∀ m < 16, hexValue? (hexDigit m) = some m := by decide
  exact hall n h

theorem hexDigit_ne_hyphen {n : Nat} (h : n < 16) : hexDigit n ≠ '-' := by
  have hall : ∀ m < 16, hexDigit m ≠ '-' := by decide
  exact hall n h

@[simp] theorem length_hexDigits (count n : Nat) : (hexDigits count n).length = count := by
  induction count generalizing n with
  | zero => rfl
  | succ count ih => simp [hexDigits, ih]

theorem ne_hyphen_of_mem_hexDigits {count n : Nat} {c : Char} (h : c ∈ hexDigits count n) :
    c ≠ '-' := by
  induction count generalizing n with
  | zero => cases h
  | succ count ih =>
    rcases List.mem_append.1 h with h | h
    · exact ih h
    · rw [List.mem_singleton.1 h]
      exact hexDigit_ne_hyphen (Nat.mod_lt n (by decide))

theorem hexNumber?_append (ds : List Char) (c : Char) :
    hexNumber? (ds ++ [c]) =
      (hexNumber? ds).bind fun n => (hexValue? c).map fun d => n * 16 + d := by
  unfold hexNumber?
  rw [List.mapM_append]
  cases ds.mapM hexValue? with
  | none => rfl
  | some values =>
    cases hc : hexValue? c with
    | none => simp [hc]
    | some d => simp [hc]

theorem hexNumber?_hexDigits (count n : Nat) :
    hexNumber? (hexDigits count n) = some (n % 16 ^ count) := by
  induction count generalizing n with
  | zero => simp [hexDigits, hexNumber?, Nat.mod_one]
  | succ count ih =>
    have hlast : n % 16 < 16 := Nat.mod_lt n (by decide)
    rw [hexDigits, hexNumber?_append, ih, Option.bind_some, hexValue?_hexDigit hlast,
      Option.map_some, Nat.pow_succ']
    congr 1
    rw [Nat.mod_mul]
    omega

end CrashReporter.Text
