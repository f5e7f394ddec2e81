import CrashReporter.Decimal.Digits
import Mathlib.Algebra.Group.Nat.Defs
import Mathlib.Data.Nat.Log

-- Decimal digits read back: the digits of a number denote it, with zeros in front
-- or without, and of two numbers padded to one width the smaller comes first.

namespace CrashReporter.Decimal

/-! ## One digit -/

theorem digitValue?_digitChar {n : Nat} (h : n < 10) : digitValue? (digitChar n) = some n := by
  have hall : ∀ m < 10, digitValue? (digitChar m) = some m := by decide
  exact hall n h

theorem isDigit_digitChar {n : Nat} (h : n < 10) : isDigit (digitChar n) = true := by
  simp [isDigit, digitValue?_digitChar h]

theorem digitChar_lt {m n : Nat} (h : m < n) (hn : n < 10) : digitChar m < digitChar n := by
  have hall : ∀ n < 10, ∀ m < n, digitChar m < digitChar n := by decide
  exact hall n hn m h

theorem digitChar_of_digitValue? {c : Char} {d : Nat} (h : digitValue? c = some d) :
    d < 10 ∧ digitChar d = c := by
  unfold digitValue? at h
  split at h
  · next hc =>
    obtain rfl := Option.some.inj h
    have hzero : '0'.toNat ≤ c.toNat := hc.1
    have hnine : c.toNat ≤ '9'.toNat := hc.2
    have h0 : '0'.toNat = 48 := rfl
    have h9 : '9'.toNat = 57 := rfl
    refine ⟨by omega, ?_⟩
    unfold digitChar
    rw [Nat.sub_add_cancel (by omega), Char.ofNat_toNat]
  · cases h

/-! ## The digits of a number -/

/-- A tenth of a number has fewer binary digits. -/
theorem log2_div_ten_lt {n : Nat} (h : 10 ≤ n) : (n / 10).log2 < n.log2 := by
  rw [Nat.log2_lt (by omega)]
  have hself : n < 2 ^ (n.log2 + 1) := Nat.lt_log2_self
  rw [Nat.pow_succ] at hself
  omega

/-- Fuel beyond the binary digits changes nothing. -/
theorem digitsBackward_congr {fuel more n : Nat} (h : n.log2 < fuel) (h' : n.log2 < more) :
    digitsBackward fuel n = digitsBackward more n := by
  induction fuel generalizing more n with
  | zero => omega
  | succ fuel ih =>
    obtain ⟨more, rfl⟩ : ∃ k, more = k + 1 := ⟨more - 1, by omega⟩
    simp only [digitsBackward]
    split
    · rfl
    · next hn =>
      have hlog := log2_div_ten_lt (Nat.le_of_not_lt hn)
      rw [ih (by omega : (n / 10).log2 < fuel) (by omega : (n / 10).log2 < more)]

theorem digits_of_lt {n : Nat} (h : n < 10) : digits n = [digitChar n] := by
  simp [digits, digitsBackward, h]

/-- The last digit stands behind those of a tenth of the number. -/
theorem digits_of_le {n : Nat} (h : 10 ≤ n) :
    digits n = digits (n / 10) ++ [digitChar (n % 10)] := by
  unfold digits
  rw [digitsBackward, if_neg (by omega), List.reverse_cons,
    digitsBackward_congr (log2_div_ten_lt h) (Nat.lt_succ_self _)]

/-- What holds of one digit, and of digits with one more behind them, holds of the
digits of every number. -/
theorem digits_induction {P : Nat → Prop} (one : ∀ n < 10, P n)
    (more : ∀ n, 10 ≤ n → P (n / 10) → P n) (n : Nat) : P n := by
  induction n using Nat.strongRecOn with
  | ind n ih =>
    by_cases h : n < 10
    · exact one n h
    · exact more n (by omega) (ih (n / 10) (by omega))

theorem valueFrom_append (acc : Nat) (ds : List Char) (c : Char) :
    valueFrom acc (ds ++ [c]) =
      (valueFrom acc ds).bind fun v => (digitValue? c).map fun d => v * 10 + d := by
  induction ds generalizing acc with
  | nil =>
    simp only [List.nil_append, valueFrom, Option.bind_some]
    cases digitValue? c <;> rfl
  | cons d ds ih =>
    simp only [List.cons_append, valueFrom]
    cases digitValue? d with
    | none => rfl
    | some v => simp [ih]

theorem valueFrom_digits (n : Nat) : valueFrom 0 (digits n) = some n := by
  induction n using digits_induction with
  | one n h => simp [digits_of_lt h, valueFrom, digitValue?_digitChar h]
  | more n h ih =>
    rw [digits_of_le h, valueFrom_append, ih]
    simp only [Option.bind_some, digitValue?_digitChar (Nat.mod_lt n (by omega : 0 < 10)),
      Option.map_some]
    congr 1
    omega

/-- So many digits denote a number below that power of ten. -/
theorem valueFrom_lt {ds : List Char} {acc n : Nat} (h : valueFrom acc ds = some n) :
    n < (acc + 1) * 10 ^ ds.length := by
  induction ds generalizing acc with
  | nil =>
    obtain rfl := Option.some.inj h
    simp
  | cons c ds ih =>
    obtain ⟨d, hd, hrest⟩ := Option.bind_eq_some_iff.1 h
    have hdigit : d < 10 := (digitChar_of_digitValue? hd).1
    calc n < (acc * 10 + d + 1) * 10 ^ ds.length := ih hrest
      _ ≤ ((acc + 1) * 10) * 10 ^ ds.length := Nat.mul_le_mul_right _ (by omega)
      _ = (acc + 1) * 10 ^ (ds.length + 1) := by rw [Nat.pow_succ, Nat.mul_assoc, Nat.mul_comm 10]

theorem isDigit_of_mem_digits {n : Nat} {c : Char} (h : c ∈ digits n) : isDigit c = true := by
  induction n using digits_induction with
  | one n hn =>
    rw [digits_of_lt hn, List.mem_singleton] at h
    exact h ▸ isDigit_digitChar hn
  | more n hn ih =>
    rw [digits_of_le hn, List.mem_append, List.mem_singleton] at h
    rcases h with h | rfl
    · exact ih h
    · exact isDigit_digitChar (Nat.mod_lt n (by omega))

theorem not_mem_digits {c : Char} (h : isDigit c = false) (n : Nat) : c ∉ digits n := by
  intro hmem
  rw [isDigit_of_mem_digits hmem] at h
  cases h

theorem digits_ne_nil (n : Nat) : digits n ≠ [] := by
  induction n using digits_induction with
  | one n h => simp [digits_of_lt h]
  | more n h _ => simp [digits_of_le h]

/-- A number but zero does not begin with the digit zero. -/
theorem head?_digits {n : Nat} (h : n ≠ 0) : (digits n).head? ≠ some '0' := by
  induction n using digits_induction with
  | one n hn =>
    have hall : ∀ m < 10, m ≠ 0 → digitChar m ≠ '0' := by decide
    simpa [digits_of_lt hn] using hall n hn h
  | more n hn ih =>
    rw [digits_of_le hn]
    cases hds : digits (n / 10) with
    | nil => exact absurd hds (digits_ne_nil _)
    | cons d ds => simpa [hds] using ih (by omega)

/-! ## A fixed width -/

theorem padded_zero (n : Nat) : padded 0 n = digits n := by
  simp [padded]

theorem padded_succ (width n : Nat) :
    padded (width + 2) n = padded (width + 1) (n / 10) ++ [digitChar (n % 10)] := by
  by_cases h : n < 10
  · have h0 : n / 10 = 0 := by omega
    have hz : digits 0 = ['0'] := rfl
    rw [Nat.mod_eq_of_lt h, h0]
    simp only [padded, digits_of_lt h, hz, List.length_singleton]
    rw [← List.replicate_succ']
    rfl
  · simp only [padded, digits_of_le (show 10 ≤ n by omega), List.length_append,
      List.length_singleton, List.append_assoc]
    congr 2
    omega

theorem valueFrom_zeros (count : Nat) (ds : List Char) :
    valueFrom 0 (List.replicate count '0' ++ ds) = valueFrom 0 ds := by
  induction count with
  | zero => rfl
  | succ count ih => exact ih

theorem valueFrom_padded (width n : Nat) : valueFrom 0 (padded width n) = some n := by
  rw [padded, valueFrom_zeros, valueFrom_digits]

theorem isDigit_of_mem_padded {width n : Nat} {c : Char} (h : c ∈ padded width n) :
    isDigit c = true := by
  rcases List.mem_append.1 h with h | h
  · rw [List.eq_of_mem_replicate h]; decide
  · exact isDigit_of_mem_digits h

theorem padded_ne_nil (width n : Nat) : padded width n ≠ [] := by
  simp [padded, digits_ne_nil]

theorem bounded?_padded {largest width n : Nat} (h : n ≤ largest) :
    bounded? largest (padded width n) = some n := by
  unfold bounded?
  cases hds : padded width n with
  | nil => exact absurd hds (padded_ne_nil _ _)
  | cons c ds =>
    have hc : isDigit c = true := isDigit_of_mem_padded (show c ∈ padded width n by simp [hds])
    have hplus : c ≠ '+' := by rintro rfl; simp [show isDigit '+' = false by decide] at hc
    have hvalue := valueFrom_padded width n
    rw [hds] at hvalue
    simp [hplus, hvalue, h]

theorem length_padded {width n : Nat} (h : n < 10 ^ (width + 1)) :
    (padded (width + 1) n).length = width + 1 := by
  induction width generalizing n with
  | zero =>
    have hn : n < 10 := by simpa using h
    simp [padded, digits_of_lt hn]
  | succ width ih =>
    rw [Nat.pow_succ] at h
    rw [padded_succ, List.length_append, ih (by omega)]
    rfl

/-- So many digits are those of their number, padded to their width. -/
theorem padded_of_valueFrom {width n : Nat} {ds : List Char} (hlength : ds.length = width + 1)
    (h : valueFrom 0 ds = some n) : padded (width + 1) n = ds := by
  induction width generalizing ds n with
  | zero =>
    obtain ⟨c, rfl⟩ := List.length_eq_one_iff.1 hlength
    obtain ⟨d, hd, hn⟩ := Option.bind_eq_some_iff.1 h
    obtain ⟨hlt, rfl⟩ := digitChar_of_digitValue? hd
    obtain rfl : 0 * 10 + d = n := Option.some.inj hn
    rw [Nat.zero_mul, Nat.zero_add]
    simp [padded, digits_of_lt hlt]
  | succ width ih =>
    rcases List.eq_nil_or_concat ds with rfl | ⟨front, c, rfl⟩
    · cases hlength
    · rw [List.concat_eq_append] at hlength h ⊢
      rw [valueFrom_append] at h
      obtain ⟨m, hm, hlast⟩ := Option.bind_eq_some_iff.1 h
      obtain ⟨d, hd, rfl⟩ := Option.map_eq_some_iff.1 hlast
      obtain ⟨hlt, rfl⟩ := digitChar_of_digitValue? hd
      have hfront : front.length = width + 1 := by simpa using hlength
      have htenth : (m * 10 + d) / 10 = m := by omega
      have hrest : (m * 10 + d) % 10 = d := by omega
      rw [padded_succ, htenth, hrest, ih hfront hm]

/-- Padded to one width, the smaller number comes first. -/
theorem padded_lt {width m n : Nat} (h : m < n) (hn : n < 10 ^ (width + 1)) (s t : List Char) :
    padded (width + 1) m ++ s < padded (width + 1) n ++ t := by
  induction width generalizing m n s t with
  | zero =>
    have hn : n < 10 := by simpa using hn
    have hm : m < 10 := by omega
    simp only [padded, digits_of_lt hn, digits_of_lt hm]
    exact List.cons_lt_cons_iff.2 (.inl (digitChar_lt h hn))
  | succ width ih =>
    rw [padded_succ, padded_succ, List.append_assoc, List.append_assoc]
    by_cases heq : m / 10 = n / 10
    · rw [heq]
      apply List.append_left_lt
      exact List.cons_lt_cons_iff.2 (.inl (digitChar_lt (by omega) (by omega)))
    · exact ih (by omega) (by rw [Nat.pow_succ] at hn; omega) _ _

end CrashReporter.Decimal
