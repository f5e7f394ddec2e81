import CrashReporter.Proofs.Decimal.Digits
import CrashReporter.Store.Folder

-- The names of records. A name shows its stamp, so a later stamp makes a later
-- name, whatever the tags are.

namespace CrashReporter.RecordName

open Decimal Text

/-! ## The stamp of a name -/

theorem underscore_not_mem_padded (width n : Nat) : '_' ∉ padded width n := by
  intro h
  have := isDigit_of_mem_padded h
  simp [show isDigit '_' = false by decide] at this

theorem toList_ofStamp (stamp tag : Nat) :
    (ofStamp stamp tag).toList =
      padded 20 stamp ++ '_' :: (hexDigits 32 tag ++ ".json".toList) := by
  simp [ofStamp]

theorem le_of_bounded? {largest n : Nat} {s : List Char} (h : bounded? largest s = some n) :
    n ≤ largest := by
  simp only [bounded?, Option.ite_none_left_eq_some, Option.bind_eq_some_iff] at h
  obtain ⟨_, m, _, hm⟩ := h
  split at hm
  · next hle => exact Option.some.inj hm ▸ hle
  · cases hm

/-- A numeral without a sign is read as its digits. -/
theorem valueFrom_of_bounded? {largest n : Nat} {ds : List Char} (hplus : ∀ rest, ds ≠ '+' :: rest)
    (h : bounded? largest ds = some n) : valueFrom 0 ds = some n := by
  simp only [bounded?, Option.ite_none_left_eq_some, Option.bind_eq_some_iff] at h
  obtain ⟨_, m, hm, hn⟩ := h
  split at hn
  · exact Option.some.inj hn ▸ hm
  · cases hn

theorem stamp?_le {name : String} {stamp : Nat} (h : stamp? name = some stamp) :
    stamp ≤ lastStamp := by
  obtain ⟨_, _, hbound⟩ := Option.bind_eq_some_iff.1 h
  exact le_of_bounded? hbound

/-- The name begins with this stamp, in twenty digits. -/
def HasStamp (name : String) (stamp : Nat) : Prop :=
  ∃ rest, name.toList = padded 20 stamp ++ '_' :: rest

theorem hasStamp_ofStamp (stamp tag : Nat) : HasStamp (ofStamp stamp tag) stamp :=
  ⟨_, toList_ofStamp stamp tag⟩

theorem HasStamp.stamp?_eq {name : String} {stamp : Nat} (h : HasStamp name stamp)
    (hle : stamp ≤ lastStamp) : stamp? name = some stamp := by
  obtain ⟨rest, hname⟩ := h
  rw [stamp?, hname, cutFirst_append (underscore_not_mem_padded 20 stamp)]
  exact bounded?_padded hle

theorem stamp?_ofStamp {stamp : Nat} (h : stamp ≤ lastStamp) (tag : Nat) :
    stamp? (ofStamp stamp tag) = some stamp := (hasStamp_ofStamp stamp tag).stamp?_eq h

theorem isRecord_ofStamp {stamp : Nat} (h : stamp ≤ lastStamp) (tag : Nat) :
    isRecord (ofStamp stamp tag) = true := by
  have hdot : startsWith ['.'] (ofStamp stamp tag).toList = false := by
    rw [toList_ofStamp]
    cases hds : padded 20 stamp with
    | nil => exact absurd hds (padded_ne_nil _ _)
    | cons c ds =>
      have hc : isDigit c = true := isDigit_of_mem_padded (show c ∈ padded 20 stamp by simp [hds])
      have hne : '.' ≠ c := by rintro rfl; simp [show isDigit '.' = false by decide] at hc
      simp [startsWith, after?, hne]
  have hend : endsWith ".json".toList (ofStamp stamp tag).toList = true := by
    rw [toList_ofStamp, endsWith, startsWith]
    have hsplit : padded 20 stamp ++ '_' :: (hexDigits 32 tag ++ ".json".toList) =
        (padded 20 stamp ++ '_' :: hexDigits 32 tag) ++ ".json".toList := by simp
    rw [hsplit, List.reverse_append, after?_append]
    rfl
  rw [isRecord, hdot, hend, stamp?_ofStamp h]
  rfl

/-- A stamp that a record shows is not too large. -/
theorem le_of_isRecord_ofStamp {stamp tag : Nat}
    (h : isRecord (ofStamp stamp tag) = true) : stamp ≤ lastStamp := by
  obtain ⟨shown, hshown⟩ := Option.isSome_iff_exists.1 (Bool.and_eq_true_iff.1 h).2
  have hle := stamp?_le hshown
  rw [stamp?, toList_ofStamp, cutFirst_append (underscore_not_mem_padded 20 stamp),
    Option.bind_some] at hshown
  have hplus : ∀ rest, padded 20 stamp ≠ '+' :: rest := by
    intro rest heq
    have hdigit := isDigit_of_mem_padded (c := '+') (heq ▸ List.mem_cons_self)
    simp [show isDigit '+' = false by decide] at hdigit
  have hvalue := valueFrom_of_bounded? hplus hshown
  rw [valueFrom_padded] at hvalue
  exact Option.some.inj hvalue ▸ hle

/-- A record is never taken for an unfinished file. -/
theorem not_isUnfinished {name : String} (h : isRecord name = true) :
    isUnfinished name = false := by
  unfold isRecord at h
  unfold isUnfinished
  cases hs : name.toList with
  | nil => rfl
  | cons c s =>
    rw [hs] at h
    have hc : '.' ≠ c := by
      rintro rfl
      simp [startsWith, after?] at h
    simp [startsWith, unfinished, after?, hc]

theorem ne_of_isRecord {name temp : String} (h : isRecord name = true)
    (htemp : isUnfinished temp = true) : name ≠ temp := by
  rintro rfl
  rw [not_isUnfinished h] at htemp
  cases htemp

/-! ## Names of a store's own form -/

/-- A stamp of twenty digits, an underscore, an id and the ending. -/
def OwnForm (name : String) : Prop :=
  ∃ stamp id : List Char, stamp.length = 20 ∧ (∀ c ∈ stamp, isDigit c = true) ∧
    name.toList = stamp ++ '_' :: (id ++ ".json".toList)

/-- The names that a store gives have this form. -/
theorem ownForm_ofStamp {stamp : Nat} (h : stamp ≤ lastStamp) (tag : Nat) :
    OwnForm (ofStamp stamp tag) :=
  ⟨_, _, length_padded (Nat.lt_of_le_of_lt h (by decide)), fun _ => isDigit_of_mem_padded,
    toList_ofStamp stamp tag⟩

/-- A record whose name has the form begins with its stamp. -/
theorem OwnForm.hasStamp {name : String} (h : OwnForm name) (hrecord : isRecord name = true) :
    ∃ stamp, stamp ≤ lastStamp ∧ HasStamp name stamp := by
  obtain ⟨ds, id, hlength, hdigits, hname⟩ := h
  have hunderscore : '_' ∉ ds := by
    intro hmem
    have := hdigits _ hmem
    simp [show isDigit '_' = false by decide] at this
  have hplus : ∀ rest, ds ≠ '+' :: rest := by
    rintro rest rfl
    have := hdigits _ List.mem_cons_self
    simp [show isDigit '+' = false by decide] at this
  have hsome : (stamp? name).isSome = true := by
    unfold isRecord at hrecord
    exact (Bool.and_eq_true_iff.1 hrecord).2
  obtain ⟨stamp, hstamp⟩ := Option.isSome_iff_exists.1 hsome
  refine ⟨stamp, stamp?_le hstamp, id ++ ".json".toList, ?_⟩
  rw [stamp?, hname, cutFirst_append hunderscore, Option.bind_some] at hstamp
  rw [hname, padded_of_valueFrom hlength (valueFrom_of_bounded? hplus hstamp)]

/-! ## The order of names -/

/-- Names go up with their stamps. -/
theorem HasStamp.lt {name other : String} {a b : Nat} (h : HasStamp name a)
    (hother : HasStamp other b) (hlt : a < b) (hb : b ≤ lastStamp) : name < other := by
  obtain ⟨rest, hname⟩ := h
  obtain ⟨more, hmore⟩ := hother
  have hwidth : b < 10 ^ (19 + 1) := Nat.lt_of_le_of_lt hb (by decide)
  rw [String.lt_iff, hname, hmore]
  exact padded_lt hlt hwidth _ _

/-! ## New stamps -/

theorem stampAfter_le {last now : Nat} (h : now ≤ lastStamp) : stampAfter last now ≤ lastStamp := by
  unfold stampAfter
  omega

theorem lt_stampAfter {last : Nat} (h : last < lastStamp) (now : Nat) :
    last < stampAfter last now := by
  unfold stampAfter
  omega

theorem le_stampAfter {last : Nat} (h : last ≤ lastStamp) (now : Nat) :
    last ≤ stampAfter last now := by
  unfold stampAfter
  omega

end CrashReporter.RecordName
