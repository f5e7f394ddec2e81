import CrashReporter.Json.Numeral
import CrashReporter.Proofs.Decimal.Digits
import Mathlib.Algebra.Group.Int.Defs

-- Whole numbers of 64 bits read back from their digits, whatever follows, as long as it
-- does not go on with the numeral.

namespace CrashReporter.Numeral

open Decimal

/-! ## Gathering -/

theorem le_of_valueFrom {ds : List Char} {acc n : Nat} (h : valueFrom acc ds = some n) :
    acc ≤ n := by
  induction ds generalizing acc with
  | nil => exact Nat.le_of_eq (Option.some.inj h)
  | cons c ds ih =>
    obtain ⟨d, _, hrest⟩ := Option.bind_eq_some_iff.1 h
    have := ih hrest
    omega

/-- Digits of a number that fits are all gathered. -/
theorem gather_of_valueFrom {ds : List Char} {acc n : Nat} (h : valueFrom acc ds = some n)
    (hn : n ≤ largestSignificand) (count : Nat) :
    gather acc count ds = (n, count + ds.length) := by
  induction ds generalizing acc count with
  | nil =>
    obtain rfl := Option.some.inj h
    rfl
  | cons c ds ih =>
    obtain ⟨d, hd, hrest⟩ := Option.bind_eq_some_iff.1 h
    have hfits : acc * 10 + d ≤ largestSignificand := Nat.le_trans (le_of_valueFrom hrest) hn
    simp only [gather, hd, hfits, if_true]
    rw [ih hrest, List.length_cons]
    congr 1
    omega

/-! ## Reading -/

/-- What can follow a numeral in a document that was written here. -/
def Ends (tail : List Char) : Prop := ∀ c, tail.head? = some c → c = ',' ∨ c = ']' ∨ c = '}'

theorem ends_nil : Ends [] := fun _ h => nomatch h

theorem ends_cons {c : Char} (h : c = ',' ∨ c = ']' ∨ c = '}') (tail : List Char) :
    Ends (c :: tail) := by
  intro d hd
  obtain rfl := Option.some.inj hd
  exact h

theorem Ends.not_isDigit {tail : List Char} (h : Ends tail) (c : Char)
    (hc : tail.head? = some c) : isDigit c = false := by
  rcases h c hc with rfl | rfl | rfl <;> decide

/-- The digits up to the end are one run. -/
theorem digitRun_append {ds tail : List Char} (hds : ∀ c ∈ ds, isDigit c = true) (hne : ds ≠ [])
    (h : Ends tail) : digitRun (ds ++ tail) = some (ds, tail) := by
  have htake : tail.takeWhile isDigit = [] := by
    cases tail with
    | nil => rfl
    | cons c tail => simp [h.not_isDigit c rfl]
  have hdrop : tail.dropWhile isDigit = tail := by
    cases tail with
    | nil => rfl
    | cons c tail => simp [h.not_isDigit c rfl]
  unfold digitRun
  rw [List.takeWhile_append_of_pos hds, List.dropWhile_append_of_pos hds, htake, hdrop]
  simp [hne]

theorem readWhole_digits (n : Nat) {tail : List Char} (h : Ends tail) :
    readWhole (digits n ++ tail) = some (digits n, tail) := by
  by_cases hn : n = 0
  · subst hn
    have hzero : digits 0 = ['0'] := rfl
    rw [hzero]
    cases tail with
    | nil => rfl
    | cons c tail =>
      have hc := h.not_isDigit c rfl
      simp [readWhole, hc]
  · unfold readWhole
    split
    · next rest heq =>
      have hhead := head?_digits hn
      cases hds : digits n with
      | nil => exact absurd hds (digits_ne_nil n)
      | cons c ds =>
        rw [hds] at heq hhead
        obtain ⟨rfl, _⟩ := List.cons.inj heq
        exact absurd rfl hhead
    · exact digitRun_append (fun c hc => isDigit_of_mem_digits hc) (digits_ne_nil n) h

theorem readFraction_ends {tail : List Char} (h : Ends tail) :
    readFraction tail = some (none, tail) := by
  unfold readFraction
  split
  · next rest =>
    rcases h '.' rfl with heq | heq | heq <;> simp at heq
  · rfl

theorem readExponent_ends {tail : List Char} (h : Ends tail) :
    readExponent tail = some (none, tail) := by
  cases tail with
  | nil => rfl
  | cons c tail => rcases h c rfl with rfl | rfl | rfl <;> rfl

theorem value?_whole {n : Nat} (h : n ≤ largestSignificand) :
    value? ⟨false, digits n, none, none⟩ = some (.whole n) := by
  simp [value?, gather_of_valueFrom (valueFrom_digits n) h]

theorem value?_negative {n : Nat} (hpos : n ≠ 0) (h : n ≤ 0x8000000000000000) :
    value? ⟨true, digits n, none, none⟩ = some (.whole (-n)) := by
  have hfits : n ≤ largestSignificand := Nat.le_trans h (by decide)
  have hexact : (decide (n ≠ 0) && decide (n ≤ 0x8000000000000000)) = true := by
    rw [decide_eq_true hpos, decide_eq_true h]
    rfl
  simp only [value?, gather_of_valueFrom (valueFrom_digits n) hfits, hexact]
  simp

/-- A whole number of 64 bits reads back from its text. -/
theorem read_signed {n : Int} (hlow : -2 ^ 63 ≤ n) (hhigh : n ≤ 2 ^ 64 - 1) {tail : List Char}
    (h : Ends tail) :
    ∃ numeral, read (signed n ++ tail) = some (numeral, tail) ∧
      numeral.value? = some (.whole n) := by
  cases n with
  | ofNat n =>
    refine ⟨_, ?_, value?_whole (n := n) ?_⟩
    · have hminus : ∀ rest, digits n ++ tail ≠ '-' :: rest := by
        intro rest heq
        cases hds : digits n with
        | nil => exact digits_ne_nil n hds
        | cons c ds =>
          have hc := isDigit_of_mem_digits (show c ∈ digits n by simp [hds])
          rw [hds] at heq
          obtain ⟨rfl, _⟩ := List.cons.inj heq
          simp [show isDigit '-' = false by decide] at hc
      unfold read signed
      simp only [readWhole_digits n h, readFraction_ends h, readExponent_ends h, bind,
        Option.bind, pure]
    · have hn : (n : Int) ≤ 2 ^ 64 - 1 := hhigh
      have hlargest : largestSignificand = 2 ^ 64 - 1 := rfl
      omega
  | negSucc n =>
    refine ⟨_, ?_, value?_negative (n := n + 1) (Nat.succ_ne_zero n) (by omega)⟩
    simp only [signed, read, List.cons_append, readWhole_digits _ h, readFraction_ends h,
      readExponent_ends h, bind, Option.bind, pure]

end CrashReporter.Numeral
