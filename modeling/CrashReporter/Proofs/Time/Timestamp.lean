import CrashReporter.Proofs.Text.Cut
import CrashReporter.Proofs.Time.Calendar
import CrashReporter.Time.Timestamp

-- Timestamps read back. The text of an instant is a timestamp of that very instant, for all
-- instants there are, leap seconds among them; and no timestamp is of any other.

namespace CrashReporter.Instant

open Time Decimal Text

/-- There is such an instant: it lies within the years that can be written, and on a second of
its day. Only the last second of a minute can be a leap second. -/
structure Proper (t : Instant) : Prop where
  first : firstDay ≤ t.day
  last : t.day ≤ lastDay
  second : t.second < 86400
  nano : t.nano < 1000000000 ∨ t.second % 60 = 59 ∧ t.nano < 2000000000

/-! ## Numbers -/

/-- A number that has its full width, or that no digit follows, is read as it is. -/
theorem readNumber_append {width n : Nat} {ds rest : List Char}
    (hdigits : ∀ c ∈ ds, isDigit c = true) (hne : ds ≠ []) (hvalue : valueFrom 0 ds = some n)
    (hends : ds.length = width ∨
      ds.length ≤ width ∧ ∀ c, rest.head? = some c → isDigit c = false) :
    readNumber width (ds ++ rest) = some (n, rest) := by
  have hle : ds.length ≤ width := by omega
  have hstop : (rest.take (width - ds.length)).takeWhile isDigit = [] := by
    rcases hends with hfull | ⟨_, hnone⟩
    · simp [hfull]
    · cases rest with
      | nil => simp
      | cons c rest =>
        cases width - ds.length with
        | zero => rfl
        | succ k => simp [hnone c rfl]
  have hread : ((ds ++ rest).take width).takeWhile isDigit = ds := by
    rw [List.take_append, List.take_of_length_le hle, List.takeWhile_append_of_pos hdigits, hstop,
      List.append_nil]
  unfold readNumber
  rw [hread]
  simp [hne, hvalue]

theorem readNumber_padded {width n : Nat} (h : n < 10 ^ (width + 1)) (rest : List Char) :
    readNumber (width + 1) (padded (width + 1) n ++ rest) = some (n, rest) :=
  readNumber_append (fun _ => isDigit_of_mem_padded) (padded_ne_nil _ _) (valueFrom_padded _ _)
    (.inl (length_padded h))

theorem readPart_padded {n : Nat} (h : n < 100) (rest : List Char) :
    readPart (padded 2 n ++ rest) = some (n, rest) := by
  unfold readPart
  rw [trimStart_padded]
  exact readNumber_padded h rest

theorem readMark_cons {mark : Char} (h : isBlank mark = false) (rest : List Char) :
    readMark mark (mark :: rest) = some rest := by
  unfold readMark
  rw [trimStart_cons h]
  simp [after?]

/-! ## Dates -/

/-- The year, whatever mark follows it. -/
theorem readYear_yearText (year : Int) {mark : Char} (hmark : isDigit mark = false)
    (rest : List Char) : readYear (yearText year ++ mark :: rest) = some (year, mark :: rest) := by
  have hends : ∀ c, (mark :: rest).head? = some c → isDigit c = false := by
    intro c hc
    obtain rfl := Option.some.inj hc
    exact hmark
  have hlong : readNumber (padded 4 year.natAbs ++ mark :: rest).length
      (padded 4 year.natAbs ++ mark :: rest) = some (year.natAbs, mark :: rest) := by
    refine readNumber_append (fun _ => isDigit_of_mem_padded) (padded_ne_nil _ _)
      (valueFrom_padded _ _) (.inr ⟨?_, hends⟩)
    rw [List.length_append]
    exact Nat.le_add_right _ _
  unfold yearText
  by_cases hshort : 0 ≤ year ∧ year ≤ 9999
  · rw [if_pos hshort]
    have hread : readNumber 4 (padded 4 year.toNat ++ mark :: rest) =
        some (year.toNat, mark :: rest) := readNumber_padded (by omega) _
    unfold readYear
    rw [trimStart_padded]
    cases hds : padded 4 year.toNat with
    | nil => exact absurd hds (padded_ne_nil 4 _)
    | cons c ds =>
      have hc : isDigit c = true := isDigit_of_mem_padded (hds ▸ List.mem_cons_self)
      rw [hds] at hread
      rw [List.cons_append] at hread ⊢
      split
      · next heq =>
        obtain ⟨rfl, _⟩ := List.cons.inj heq
        cases hc
      · next heq =>
        obtain ⟨rfl, _⟩ := List.cons.inj heq
        cases hc
      · rw [hread]
        simp only [Option.map_some, Int.toNat_of_nonneg hshort.1]
  · rw [if_neg hshort]
    by_cases hneg : year < 0
    · rw [if_pos hneg, List.cons_append]
      unfold readYear
      rw [trimStart_cons (by decide)]
      simp only [hlong, Option.map_some]
      congr 2
      omega
    · rw [if_neg hneg, List.cons_append]
      unfold readYear
      rw [trimStart_cons (by decide)]
      simp only [hlong, Option.map_some]
      congr 2
      omega

theorem readDate_render {number : Int} (hfirst : firstDay ≤ number) (hlast : number ≤ lastDay)
    (rest : List Char) :
    readDate (yearText (dateOf number).year ++ '-' :: (padded 2 (dateOf number).month ++
      '-' :: (padded 2 (dateOf number).day ++ rest))) = some (dateOf number, rest) := by
  obtain ⟨_, hmonth, _, hday⟩ := dateOf_bounds number
  have hdays : daysInMonth (dateOf number).year (dateOf number).month ≤ 31 := by
    unfold daysInMonth
    split
    · split <;> decide
    all_goals decide
  unfold readDate
  rw [readYear_yearText _ (by decide)]
  simp only [Option.bind_eq_bind, Option.bind_some]
  rw [readMark_cons (by decide)]
  simp only [Option.bind_some]
  rw [readPart_padded (by omega)]
  simp only [Option.bind_some]
  rw [readMark_cons (by decide)]
  simp only [Option.bind_some]
  rw [readPart_padded (by omega)]
  simp only [Option.bind_some]
  rw [date?_dateOf hfirst hlast]
  rfl

/-! ## Times of day -/

/-- Thousandths or millionths, with as many digits, are as many nanoseconds. -/
theorem readFraction_padded {width n : Nat} (h : n < 10 ^ (width + 1)) (hwidth : width < 9) :
    readFraction ('.' :: (padded (width + 1) n ++ ['Z'])) =
      some (n * 10 ^ (9 - (width + 1)), ['Z']) := by
  have hlength := length_padded h
  have hread : readNumber 9 (padded (width + 1) n ++ ['Z']) = some (n, ['Z']) := by
    refine readNumber_append (fun _ => isDigit_of_mem_padded) (padded_ne_nil _ _)
      (valueFrom_padded _ _) (.inr ⟨by omega, ?_⟩)
    intro c hc
    obtain rfl := Option.some.inj hc
    decide
  have hdrop : (['Z'] : List Char).dropWhile isDigit = ['Z'] := rfl
  unfold readFraction
  simp only [hread, Option.bind_eq_bind, Option.bind_some, List.length_append, hlength,
    List.length_singleton, Nat.add_sub_cancel, hdrop]
  rfl

theorem readFraction_fractionText {nano : Nat} (h : nano < 1000000000) :
    readFraction (fractionText nano ++ ['Z']) = some (nano, ['Z']) := by
  unfold fractionText
  split
  · next hzero =>
    subst hzero
    rfl
  · split
    · rw [List.cons_append, readFraction_padded (by omega) (by omega)]
      congr 2
      omega
    · split
      · rw [List.cons_append, readFraction_padded (by omega) (by omega)]
        congr 2
        omega
      · rw [List.cons_append, readFraction_padded (by omega) (by omega)]
        congr 2
        omega

/-- A second and its fraction; the fraction of a leap second makes it the sixtieth. -/
theorem readTime_render {second nano : Nat} (hsecond : second < 86400)
    (hnano : nano < 1000000000 ∨ second % 60 = 59 ∧ nano < 2000000000) :
    readTime (padded 2 (second / 3600) ++ ':' :: (padded 2 (second / 60 % 60) ++
      ':' :: (padded 2 (second % 60 + nano / 1000000000) ++
        (fractionText (nano % 1000000000) ++ ['Z'])))) = some (second, nano, ['Z']) := by
  unfold readTime
  rw [readPart_padded (by omega)]
  simp only [Option.bind_eq_bind, Option.bind_some]
  rw [readMark_cons (by decide)]
  simp only [Option.bind_some]
  rw [readPart_padded (by omega)]
  simp only [Option.bind_some]
  rw [readMark_cons (by decide)]
  simp only [Option.bind_some]
  rw [readPart_padded (by omega)]
  simp only [Option.bind_some]
  rw [readFraction_fractionText (Nat.mod_lt _ (by decide))]
  simp only [Option.bind_some]
  rw [if_pos ⟨by omega, by omega, by omega⟩]
  split
  · refine congrArg some (Prod.ext ?_ (Prod.ext ?_ rfl))
    · show second / 3600 * 3600 + second / 60 % 60 * 60 + 59 = second
      omega
    · show nano % 1000000000 + 1000000000 = nano
      omega
  · refine congrArg some (Prod.ext ?_ (Prod.ext ?_ rfl))
    · show second / 3600 * 3600 + second / 60 % 60 * 60 +
        (second % 60 + nano / 1000000000) = second
      omega
    · show nano % 1000000000 = nano
      omega

/-! ## Timestamps -/

/-- Every instant there is reads back. -/
theorem Proper.parse?_render {t : Instant} (h : t.Proper) : parse? t.render = some t := by
  have hsecond := h.second
  have hday : t.day + ((t.second : Int) - 0) / 86400 = t.day := by omega
  have hofDay : (((t.second : Int) - 0) % 86400).toNat = t.second := by omega
  have hoffset : readOffset ['Z'] = some (0, []) := rfl
  have hend : (trimStart []).isEmpty = true := rfl
  unfold parse? render
  simp only [List.append_assoc, List.cons_append]
  rw [readDate_render h.first h.last]
  simp only [Option.bind_eq_bind, Option.bind_some, readJoin, if_pos (Or.inl trivial)]
  rw [readTime_render h.second h.nano]
  simp only [Option.bind_some, hoffset, hend, if_true, dayNumber_dateOf]
  unfold backBy?
  simp only [hday, hofDay]
  rw [if_pos ⟨h.first, h.last⟩]

/-- An offset is in whole minutes. -/
theorem readOffset_minutes {s rest : List Char} {offset : Int}
    (h : readOffset s = some (offset, rest)) : offset % 60 = 0 := by
  have hzero : ∀ {t : List Char}, some ((0 : Int), t) = some (offset, rest) → offset % 60 = 0 := by
    intro t ht
    obtain ⟨rfl, _⟩ := Prod.mk.inj (Option.some.inj ht)
    rfl
  have hminutes : ∀ (sign : Int) (t : List Char),
      ((readTwo t).bind fun hours =>
        (readTwo (hours.2.dropWhile fun c => c == ':' || isBlank c)).bind fun minutes =>
          if minutes.1 < 60 ∧ hours.1 < 24 then
            some (sign * (hours.1 * 3600 + minutes.1 * 60 : Nat), minutes.2)
          else none) = some (offset, rest) → offset % 60 = 0 := by
    intro sign t ht
    obtain ⟨⟨hours, _⟩, _, hrest⟩ := Option.bind_eq_some_iff.1 ht
    obtain ⟨⟨minutes, _⟩, _, ht⟩ := Option.bind_eq_some_iff.1 hrest
    split at ht
    · obtain ⟨rfl, _⟩ := Prod.mk.inj (Option.some.inj ht)
      have hwhole : ((hours * 3600 + minutes * 60 : Nat) : Int) = 60 * (hours * 60 + minutes) := by
        push_cast
        omega
      rw [hwhole, Int.mul_left_comm]
      exact Int.mul_emod_right _ _
    · cases ht
  unfold readOffset at h
  split at h
  · exact hzero h
  · exact hzero h
  · split at h
    · exact hzero h
    · split at h
      · exact hminutes 1 _ h
      · split at h
        · exact hminutes (-1) _ h
        · cases h
  · cases h

/-- A number that is read is what the digits before the rest denote. -/
theorem readNumber_eq_some {width n : Nat} {s rest : List Char}
    (h : readNumber width s = some (n, rest)) :
    ∃ ds, s = ds ++ rest ∧ ds.length ≤ width ∧ valueFrom 0 ds = some n := by
  unfold readNumber at h
  simp only at h
  split at h
  · cases h
  · obtain ⟨m, hvalue, heq⟩ := Option.map_eq_some_iff.1 h
    obtain ⟨rfl, rfl⟩ := Prod.mk.inj heq
    have hprefix : (s.take width).takeWhile isDigit <+: s :=
      (List.takeWhile_prefix _).trans (List.take_prefix _ _)
    refine ⟨(s.take width).takeWhile isDigit, ?_, ?_, hvalue⟩
    · exact (List.prefix_iff_eq_append.1 hprefix).symm
    · exact (List.takeWhile_sublist _).length_le.trans (List.length_take_le _ _)

/-- What is read of a fraction is less than a second. -/
theorem readFraction_lt {s rest : List Char} {nano : Nat}
    (h : readFraction s = some (nano, rest)) : nano < 1000000000 := by
  unfold readFraction at h
  split at h
  · simp only [Option.bind_eq_bind, Option.bind_eq_some_iff] at h
    obtain ⟨⟨n, after⟩, hread, h⟩ := h
    obtain ⟨rfl, _⟩ := Prod.mk.inj (Option.some.inj h)
    obtain ⟨ds, rfl, hlength, hvalue⟩ := readNumber_eq_some hread
    have hlt : n < 10 ^ ds.length := by simpa using valueFrom_lt hvalue
    have hread : (ds ++ after).length - after.length = ds.length := by
      rw [List.length_append, Nat.add_sub_cancel]
    simp only [hread]
    calc n * Nat.pow 10 (9 - ds.length)
        < 10 ^ ds.length * 10 ^ (9 - ds.length) :=
          Nat.mul_lt_mul_of_pos_right hlt (Nat.pow_pos (by decide))
      _ = 1000000000 := by rw [← Nat.pow_add, Nat.add_sub_cancel' hlength]
  · obtain ⟨rfl, _⟩ := Prod.mk.inj (Option.some.inj h)
    decide

theorem readTime_bounds {s rest : List Char} {second nano : Nat}
    (h : readTime s = some (second, nano, rest)) :
    second < 86400 ∧ (nano < 1000000000 ∨ second % 60 = 59 ∧ nano < 2000000000) := by
  unfold readTime at h
  simp only [Option.bind_eq_bind, Option.bind_eq_some_iff] at h
  obtain ⟨⟨hour, _⟩, _, _, _, ⟨minute, _⟩, _, _, _, ⟨last, _⟩, _, ⟨fraction, _⟩, hfraction, h⟩ := h
  have hlt := readFraction_lt hfraction
  simp only at h hfraction
  split at h
  · split at h
    · obtain ⟨rfl, heq⟩ := Prod.mk.inj (Option.some.inj h)
      obtain ⟨rfl, _⟩ := Prod.mk.inj heq
      omega
    · obtain ⟨rfl, heq⟩ := Prod.mk.inj (Option.some.inj h)
      obtain ⟨rfl, _⟩ := Prod.mk.inj heq
      omega
  · cases h

/-- What a timestamp denotes is an instant that there is. -/
theorem proper_of_parse? {s : List Char} {t : Instant} (h : parse? s = some t) : t.Proper := by
  unfold parse? at h
  simp only [Option.bind_eq_bind, Option.bind_eq_some_iff] at h
  obtain ⟨_, _, _, _, ⟨second, nano, _⟩, htime, ⟨offset, _⟩, hoffset, h⟩ := h
  obtain ⟨hsecond, hnano⟩ := readTime_bounds htime
  have hminutes := readOffset_minutes hoffset
  simp only at h
  split at h
  · unfold backBy? at h
    simp only at h
    split at h
    · next hday =>
      obtain rfl := Option.some.inj h
      refine ⟨hday.1, hday.2, ?_, ?_⟩
      · show (((second : Int) - offset) % 86400).toNat < 86400
        omega
      · rcases hnano with hnano | ⟨hlast, hnano⟩
        · exact .inl hnano
        · refine .inr ⟨?_, hnano⟩
          show (((second : Int) - offset) % 86400).toNat % 60 = 59
          omega
    · cases h
  · cases h

/-- The text of an instant is a timestamp of it exactly if there is such an instant. -/
theorem ofText?_text_iff (t : Instant) : ofText? t.text = some t ↔ t.Proper := by
  have htext : ofText? t.text = parse? t.render := by
    unfold ofText? text
    rw [String.toList_ofList]
  rw [htext]
  exact ⟨proper_of_parse?, Proper.parse?_render⟩

end CrashReporter.Instant
