import CrashReporter.Proofs.Store.Name

-- What changes of a directory do to what is found in it. Taking names away leaves
-- every other name as it was; a directory in the place of a file is never taken.

namespace CrashReporter.Folder

/-! ## Records -/

theorem mem_records {f : Folder} {name : String} :
    name ∈ f.records ↔ (f.get? name).isSome ∧ RecordName.isRecord name = true := by
  rw [records, List.mem_filter, Dict.mem_keys]

theorem records_pairwise (f : Folder) : f.records.Pairwise (· < ·) := f.keys_pairwise.filter _

/-- Records are known by their names alone. -/
theorem eq_of_mem_iff {a b : List String} (ha : a.Pairwise (· < ·)) (hb : b.Pairwise (· < ·))
    (h : ∀ x, x ∈ a ↔ x ∈ b) : a = b := by
  have hirrefl : ∀ {x y : String}, x < y → x ≠ y := fun hlt heq =>
    String.lt_irrefl _ (heq ▸ hlt)
  have hperm : a.Perm b :=
    (List.perm_ext_iff_of_nodup (ha.imp hirrefl) (hb.imp hirrefl)).2 h
  refine hperm.eq_of_pairwise ?_ ha hb
  intro x y _ _ hxy hyx
  exact absurd (String.lt_trans hxy hyx) (String.lt_irrefl x)

theorem nodup_records (f : Folder) : f.records.Nodup := f.nodup_keys.filter _

/-- A new record is among the records, and nothing else is new there. -/
theorem mem_records_insert {f : Folder} {name : String} {e : Entry}
    (h : RecordName.isRecord name = true) (x : String) :
    x ∈ records (f.insert name e) ↔ x = name ∨ x ∈ f.records := by
  rw [mem_records, mem_records, ← Dict.mem_keys, Dict.mem_keys_insert, ← Dict.mem_keys]
  constructor
  · rintro ⟨rfl | hx, hr⟩
    · exact .inl rfl
    · exact .inr ⟨hx, hr⟩
  · rintro (rfl | ⟨hx, hr⟩)
    · exact ⟨.inl rfl, h⟩
    · exact ⟨.inr hx, hr⟩

/-- A name is among the first of a list if fewer come before it. -/
theorem mem_take_iff {l : List String} (h : l.Pairwise (· < ·)) {x : String} (hx : x ∈ l)
    (n : Nat) : x ∈ l.take n ↔ (l.filter (· < x)).length < n := by
  induction l generalizing n with
  | nil => cases hx
  | cons a l ih =>
    obtain ⟨ha, hl⟩ := List.pairwise_cons.1 h
    cases n with
    | zero => simp
    | succ n =>
      by_cases hxa : x = a
      · subst hxa
        have hnone : (x :: l).filter (· < x) = [] := by
          apply List.filter_eq_nil_iff.2
          intro y hy hyx
          have hyx : y < x := of_decide_eq_true hyx
          rcases List.mem_cons.1 hy with rfl | hy
          · exact String.lt_irrefl _ hyx
          · exact String.lt_irrefl _ (String.lt_trans (ha y hy) hyx)
        rw [hnone]
        exact ⟨fun _ => Nat.succ_pos n, fun _ => List.mem_cons_self⟩
      · have hx' : x ∈ l := (List.mem_cons.1 hx).resolve_left hxa
        have hbefore : decide (a < x) = true := decide_eq_true (ha x hx')
        rw [List.take_succ_cons, List.mem_cons, or_iff_right hxa,
          List.filter_cons_of_pos (p := (· < x)) hbefore, List.length_cons,
          Nat.succ_lt_succ_iff]
        exact ih hl hx' n

/-! ## Taking names away -/

theorem get?_foldl_erase (names : List String) (f : Folder) (k : String) :
    (names.foldl Dict.erase f).get? k = if k ∈ names then none else f.get? k := by
  induction names generalizing f with
  | nil => simp
  | cons name rest ih =>
    rw [List.foldl_cons, ih, Dict.get?_erase]
    by_cases hk : k ∈ rest
    · simp [hk]
    · simp [hk]

theorem get?_removeFile (f : Folder) (name k : String) :
    (f.removeFile name).get? k =
      if k = name ∧ f.get? name ≠ some .folder then none else f.get? k := by
  unfold removeFile
  split
  · next h => simp [h]
  · next h =>
    have hne : f.get? name ≠ some .folder := fun heq => h heq
    simp [Dict.get?_erase, hne]

/-- A name is gone afterwards if it was taken and was no directory. -/
theorem get?_foldl_removeFile (names : List String) (f : Folder) (k : String) :
    (names.foldl removeFile f).get? k =
      if k ∈ names ∧ f.get? k ≠ some .folder then none else f.get? k := by
  induction names generalizing f with
  | nil => simp
  | cons name rest ih =>
    rw [List.foldl_cons, ih, get?_removeFile]
    by_cases hk : k = name
    · subst hk
      by_cases hdir : f.get? k = some .folder
      · simp [hdir]
      · simp [hdir]
    · simp [hk]

/-- Those of the names that are no directories. -/
def removable (f : Folder) (names : List String) : List String :=
  names.filter fun name => f.get? name != some .folder

theorem removable_erase {f : Folder} {name : String} (h : f.get? name ≠ some .folder)
    (names : List String) : removable (f.erase name) names = f.removable names := by
  unfold removable
  apply List.filter_congr
  intro k _
  rw [Dict.get?_erase]
  by_cases hk : k = name
  · subst hk
    have hne : (f.get? k != some .folder) = true := bne_iff_ne.2 h
    simp [hne]
  · simp [hk]

/-- Taking away so many takes the first that are no directories. -/
theorem removeUpTo_eq (count : Nat) (names : List String) (f : Folder) :
    removeUpTo count names f = ((f.removable names).take count).foldl Dict.erase f := by
  induction names generalizing count f with
  | nil => cases count <;> simp [removeUpTo, removable]
  | cons name rest ih =>
    cases count with
    | zero => simp [removeUpTo]
    | succ count =>
      unfold removeUpTo
      split
      · next h => simp [ih, removable, h]
      · next h =>
        have hne : f.get? name ≠ some .folder := fun heq => h heq
        rw [ih, removable_erase hne]
        simp [removable, hne]

theorem get?_removeUpTo (count : Nat) (names : List String) (f : Folder) (k : String) :
    (removeUpTo count names f).get? k =
      if k ∈ (f.removable names).take count then none else f.get? k := by
  rw [removeUpTo_eq, get?_foldl_erase]

/-! ## Opening -/

/-- Tidying leaves every record as it is. -/
theorem get?_tidy {f : Folder} {name : String} (h : RecordName.isRecord name = true) :
    f.tidy.get? name = f.get? name := by
  have hnot : name ∉ f.keys.filter RecordName.isUnfinished := by
    simp [RecordName.not_isUnfinished h]
  rw [tidy, get?_foldl_removeFile]
  simp [hnot]

theorem records_tidy (f : Folder) : f.tidy.records = f.records := by
  refine eq_of_mem_iff (records_pairwise _) (records_pairwise _) ?_
  intro x
  rw [mem_records, mem_records]
  constructor
  · rintro ⟨hx, hr⟩
    exact ⟨get?_tidy hr ▸ hx, hr⟩
  · rintro ⟨hx, hr⟩
    exact ⟨(get?_tidy hr).symm ▸ hx, hr⟩

theorem le_foldl_max (ns : List Nat) (start : Nat) :
    start ≤ ns.foldl max start ∧ ∀ n ∈ ns, n ≤ ns.foldl max start := by
  induction ns generalizing start with
  | nil => simp
  | cons m ns ih =>
    obtain ⟨hstart, hall⟩ := ih (max start m)
    refine ⟨by simp only [List.foldl_cons]; omega, ?_⟩
    intro n hn
    rcases List.mem_cons.1 hn with rfl | hn
    · simp only [List.foldl_cons]; omega
    · exact hall n hn

theorem foldl_max_le {bound : Nat} (ns : List Nat) (start : Nat) (hs : start ≤ bound)
    (hns : ∀ n ∈ ns, n ≤ bound) : ns.foldl max start ≤ bound := by
  induction ns generalizing start with
  | nil => exact hs
  | cons n ns ih =>
    have hn := hns n List.mem_cons_self
    refine ih (max start n) (by omega) ?_
    intro m hm
    exact hns m (List.mem_cons_of_mem _ hm)

theorem largestStamp_le (f : Folder) : f.largestStamp ≤ RecordName.lastStamp := by
  refine foldl_max_le _ 0 (Nat.zero_le _) ?_
  intro n hn
  obtain ⟨name, _, hstamp⟩ := List.mem_filterMap.1 hn
  exact RecordName.stamp?_le hstamp

/-- No record has a later stamp than the largest. -/
theorem le_largestStamp {f : Folder} {name : String} {stamp : Nat} (h : name ∈ f.records)
    (hs : RecordName.stamp? name = some stamp) : stamp ≤ f.largestStamp := by
  obtain ⟨hkey, hrecord⟩ := List.mem_filter.1 h
  refine (le_foldl_max _ 0).2 stamp (List.mem_filterMap.2 ⟨name, ?_, hs⟩)
  simp [hkey, RecordName.not_isUnfinished hrecord]

end CrashReporter.Folder
