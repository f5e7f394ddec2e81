import CrashReporter.Proofs.Decimal.Digits
import CrashReporter.Text.Blank
import CrashReporter.Text.Cut

-- Text that was put together comes apart again: the blanks around it, the pieces at
-- the last place of a separator, and the lines.

namespace CrashReporter.Text

open Decimal

/-! ## Blanks -/

theorem not_isBlank_of_isDigit {c : Char} (h : isDigit c = true) : isBlank c = false := by
  unfold isDigit digitValue? at h
  split at h
  · next hc =>
    have hfirst : '0'.toNat ≤ c.toNat := hc.1
    have hlast : c.toNat ≤ '9'.toNat := hc.2
    have hzero : '0'.toNat = 48 := rfl
    have hnine : '9'.toNat = 57 := rfl
    simp only [isBlank, Bool.or_eq_false_iff, Bool.and_eq_false_iff, beq_eq_false_iff_ne,
      decide_eq_false_iff_not]
    omega
  · cases h

theorem trimStart_cons {c : Char} (h : isBlank c = false) (s : List Char) :
    trimStart (c :: s) = c :: s := by
  simp [trimStart, h]

/-- Nothing stands before a number. -/
theorem trimStart_padded (width n : Nat) (rest : List Char) :
    trimStart (padded width n ++ rest) = padded width n ++ rest := by
  cases hds : padded width n with
  | nil => exact absurd hds (padded_ne_nil width n)
  | cons c ds =>
    have hc : isDigit c = true := isDigit_of_mem_padded (hds ▸ List.mem_cons_self)
    exact trimStart_cons (not_isBlank_of_isDigit hc) _

theorem trimStart_append {blanks : List Char} (h : ∀ c ∈ blanks, isBlank c = true)
    (s : List Char) : trimStart (blanks ++ s) = trimStart s :=
  List.dropWhile_append_of_pos h

theorem trim_of_not_blank {s : List Char} (h : ∀ c ∈ s, isBlank c = false) : trim s = s := by
  have hdrop {t : List Char} (ht : ∀ c ∈ t, isBlank c = false) : t.dropWhile isBlank = t := by
    cases t with
    | nil => rfl
    | cons c t => exact List.dropWhile_cons_of_neg (by simp [ht c])
  rw [trim, trimEnd, trimStart, hdrop h, hdrop fun c hc => h c (List.mem_reverse.1 hc),
    List.reverse_reverse]

/-- What stands before a text hides no blanks at its end. -/
theorem trimEnd_append {s : List Char} (h : trimEnd s = s) (hne : s ≠ []) (front : List Char) :
    trimEnd (front ++ s) = front ++ s := by
  have hback : s.reverse.dropWhile isBlank = s.reverse := by
    simpa [trimEnd] using congrArg List.reverse h
  cases hs : s.reverse with
  | nil => exact absurd (List.reverse_eq_nil_iff.1 hs) hne
  | cons c back =>
    have hc : isBlank c = false := by
      have hhead := List.head?_dropWhile_not isBlank s.reverse
      rw [hback, hs] at hhead
      simpa using hhead
    rw [trimEnd, List.reverse_append, hs, List.cons_append,
      List.dropWhile_cons_of_neg (by simp [hc]), ← List.cons_append, ← hs, ← List.reverse_append,
      List.reverse_reverse]

theorem trim_concat {c : Char} (h : isBlank c = true) (s : List Char) :
    trim (s ++ [c]) = trim s := by
  unfold trim trimStart
  rw [List.dropWhile_append]
  cases hs : s.dropWhile isBlank with
  | nil => simp [h]
  | cons d s => simp [trimEnd, h]

/-! ## Separators -/

/-- A cut is at the last place where its character stands. -/
theorem cutLast_append {c : Char} {b : List Char} (h : c ∉ b) (a : List Char) :
    cutLast [c] (a ++ c :: b) = some (a, b) := by
  have hback : cutFirst [c] (b.reverse ++ c :: a.reverse) = some (b.reverse, a.reverse) :=
    cutFirst_append (by simpa using h) _
  simp [cutLast, hback]

theorem cutLast_eq_some {sep s a b : List Char} (h : cutLast sep s = some (a, b)) :
    s = a ++ sep ++ b := by
  obtain ⟨⟨b', a'⟩, hcut, heq⟩ := Option.map_eq_some_iff.1 h
  obtain ⟨rfl, rfl⟩ := Prod.mk.inj heq
  simpa using congrArg List.reverse (cutFirst_eq_some hcut)

theorem cutLast_eq_none {c : Char} {s : List Char} (h : c ∉ s) : cutLast [c] s = none := by
  cases hcut : cutLast [c] s with
  | none => rfl
  | some pieces =>
    refine absurd ?_ h
    rw [cutLast_eq_some hcut]
    simp

/-! ## Lines -/

theorem linesFrom_append {l : List Char} (h : '\n' ∉ l) (back rest : List Char) :
    linesFrom back (l ++ rest) = linesFrom (l.reverse ++ back) rest := by
  induction l generalizing back with
  | nil => rfl
  | cons c l ih =>
    have hc : c ≠ '\n' := fun heq => h (heq ▸ List.mem_cons_self)
    simp [linesFrom, hc, ih fun hmem => h (List.mem_cons_of_mem _ hmem)]

theorem lines_append {l : List Char} (h : '\n' ∉ l) (rest : List Char) :
    lines (l ++ '\n' :: rest) = endedLine l.reverse :: lines rest := by
  simp [lines, linesFrom_append h, linesFrom]

/-- A last line without an end. -/
theorem lines_of_not_mem {l : List Char} (h : '\n' ∉ l) (hne : l ≠ []) : lines l = [l] := by
  have hread := linesFrom_append h [] []
  simp only [List.append_nil] at hread
  simp [lines, hread, linesFrom, hne]

/-- The carriage return of a line end is a blank. -/
theorem trim_endedLine (l : List Char) : trim (endedLine l.reverse) = trim l := by
  unfold endedLine
  split
  · next back hback =>
    obtain rfl : l = back.reverse ++ ['\r'] := by simpa using congrArg List.reverse hback
    rw [trim_concat (by decide)]
  · rw [List.reverse_reverse]

end CrashReporter.Text
