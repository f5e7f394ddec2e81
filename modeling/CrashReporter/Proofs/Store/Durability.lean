import CrashReporter.Proofs.Store.Orderly

-- Whether a record that was written is there afterwards. Pruning passes over claimed
-- records, so with enough of them claimed nothing is left to make room but the new
-- record itself. It stays exactly as long as fewer records are claimed than are kept.

namespace CrashReporter.RecordStore

variable {α : Type} {s : RecordStore α} {f : Folder}

/-! ## Room for a record -/

/-- The unclaimed records that come before a name. -/
def olderUnclaimed (s : RecordStore α) (name : String) : List String :=
  (s.unclaimed s.names).filter (· < name)

theorem removable_of_files (h : ∀ name ∈ f.records, f.get? name ≠ some .folder) :
    f.removable (s.unclaimed f.records) = s.unclaimed f.records := by
  apply List.filter_eq_self.2
  intro name hname
  simpa using h name (mem_unclaimed.1 hname).1

/-- As long as a stamp is left, every unclaimed record comes before a new one. -/
theorem olderUnclaimed_newName (h : Orderly s f) {now : Nat} (hnow : now ≤ RecordName.lastStamp)
    (hleft : s.lastStamp < RecordName.lastStamp) (tag : Nat) :
    s.olderUnclaimed (s.newName now tag) = s.unclaimed s.names := by
  apply List.filter_eq_self.2
  intro name hname
  have hmem := (mem_unclaimed.1 hname).1
  rw [h.names_eq] at hmem
  exact decide_eq_true (lt_newName h hnow hleft tag name hmem)

variable [Storable α]

/-- A new record makes one record more. -/
theorem records_folderWith_perm (item : α) {now tag : Nat} (hnow : now ≤ RecordName.lastStamp)
    (hnew : s.newName now tag ∉ f.records) :
    (s.folderWith f item now tag).records.Perm (s.newName now tag :: f.records) := by
  have hnodup : (s.newName now tag :: f.records).Nodup :=
    List.nodup_cons.2 ⟨hnew, f.nodup_records⟩
  refine (List.perm_ext_iff_of_nodup (Folder.nodup_records _) hnodup).2 ?_
  intro x
  rw [folderWith, Folder.mem_records_insert (s.isRecord_newName hnow tag), List.mem_cons]

theorem length_records_folderWith (item : α) {now tag : Nat} (hnow : now ≤ RecordName.lastStamp)
    (hnew : s.newName now tag ∉ f.records) :
    (s.folderWith f item now tag).records.length = f.records.length + 1 := by
  simpa using (records_folderWith_perm item hnow hnew).length_eq

/-- What comes before the new record was there before it. -/
theorem filter_unclaimed_folderWith (item : α) {now tag : Nat}
    (hnow : now ≤ RecordName.lastStamp) :
    (s.unclaimed (s.folderWith f item now tag).records).filter (· < s.newName now tag) =
      (s.unclaimed f.records).filter (· < s.newName now tag) := by
  refine Folder.eq_of_mem_iff (((Folder.records_pairwise _).filter _).filter _)
    ((f.records_pairwise.filter _).filter _) ?_
  intro x
  have hmem := Folder.mem_records_insert (f := f) (e := .file (.text (s.recordText item)))
    (s.isRecord_newName hnow tag) x
  simp only [List.mem_filter, mem_unclaimed, folderWith, hmem, decide_eq_true_eq]
  constructor
  · rintro ⟨⟨rfl | hx, hfree⟩, hlt⟩
    · exact absurd hlt (String.lt_irrefl _)
    · exact ⟨⟨hx, hfree⟩, hlt⟩
  · rintro ⟨⟨hx, hfree⟩, hlt⟩
    exact ⟨⟨.inr hx, hfree⟩, hlt⟩

/-- The new record stays if those before it that nobody has claimed are enough to make
room. -/
theorem newName_mem_write_iff (h : Orderly s f) (item : α) {now tag : Nat}
    (hnow : now ≤ RecordName.lastStamp) (htag : s.TellsApart tag) :
    s.newName now tag ∈ (s.write item now tag).1.names ↔
      s.names.length + 1 - s.limit ≤ (s.olderUnclaimed (s.newName now tag)).length := by
  have hnew := newName_not_mem h hnow htag
  have hplaced := orderly_placed h item hnow tag
  have hin : s.newName now tag ∈ (s.folderWith f item now tag).records :=
    (Folder.mem_records_insert (s.isRecord_newName hnow tag) _).2 (.inl rfl)
  have hfree : s.newName now tag ∈ s.unclaimed (s.folderWith f item now tag).records :=
    mem_unclaimed.2 ⟨hin, fun hres => hnew (h.present _ hres)⟩
  have hsurplus : (s.placed item now tag).surplus (s.folderWith f item now tag) =
      (s.unclaimed (s.folderWith f item now tag).records).take
        (f.records.length + 1 - s.limit) := by
    rw [surplus, removable_of_files hplaced.files, length_records_folderWith item hnow hnew,
      placed_of_folder h.folder]
    rfl
  have hsorted : (s.unclaimed (s.folderWith f item now tag).records).Pairwise (· < ·) :=
    (Folder.records_pairwise _).filter _
  rw [write_of_folder h.folder, (orderly_prune hplaced).names_eq, mem_records_pruned, hsurplus,
    Folder.mem_take_iff hsorted hfree, filter_unclaimed_folderWith item hnow, olderUnclaimed,
    h.names_eq]
  constructor
  · rintro ⟨_, hroom⟩
    exact Nat.le_of_not_lt hroom
  · intro hroom
    exact ⟨hin, Nat.not_lt_of_le hroom⟩

/-! ## Stores that work on a directory of their own -/

/-- The stores that come of opening an empty directory and working on it. -/
inductive Reached : RecordStore α → Prop
  | opened {kind : PayloadKind} {limit : Nat} {place : Place} {s : RecordStore α}
      (empty : place.makeFolder = some Dict.empty) (h : openAt kind limit place = .ok s) : Reached s
  | written {s : RecordStore α} (item : α) {now tag : Nat} (before : Reached s)
      (hnow : now ≤ RecordName.lastStamp) (htag : s.TellsApart tag) :
      Reached (s.write item now tag).1
  | claimed {s t : RecordStore α} {names : List String} (before : Reached s)
      (h : s.claim = .ok (names, t)) : Reached t
  | cancelled {s : RecordStore α} (names : List String) (before : Reached s) :
      Reached (s.cancel names)
  | deleted {s : RecordStore α} (names : List String) (before : Reached s) :
      Reached (s.delete names)
  | reopened {kind : PayloadKind} {limit : Nat} {s t : RecordStore α} (before : Reached s)
      (h : openAt kind limit s.place = .ok t) : Reached t

theorem Reached.orderly (h : Reached s) : ∃ f, Orderly s f := by
  induction h with
  | opened empty h =>
    refine ⟨_, orderly_openAt h empty ?_ ?_⟩
    · intro name hname
      cases hname
    · intro name hname
      cases hname
  | written item _ hnow _ ih =>
    obtain ⟨f, hf⟩ := ih
    exact orderly_write hf item hnow _
  | claimed _ h ih =>
    obtain ⟨f, hf⟩ := ih
    exact ⟨f, orderly_claim hf h⟩
  | cancelled names _ ih =>
    obtain ⟨f, hf⟩ := ih
    exact ⟨f, orderly_cancel hf names⟩
  | deleted names _ ih =>
    obtain ⟨f, hf⟩ := ih
    exact ⟨_, orderly_delete hf names⟩
  | reopened _ h ih =>
    obtain ⟨f, hf⟩ := ih
    exact ⟨_, orderly_reopen hf h⟩

/-! ## The laws -/

/-- Writing gives the name of a record, and that record is listed afterwards exactly if
the unclaimed records before it are enough to make room: while stamps are left, if fewer
records are claimed than the store keeps. -/
theorem a_written_record_stays_while_claims_leave_room {s : RecordStore α} (h : Reached s)
    (item : α) {now tag : Nat} (hnow : now ≤ RecordName.lastStamp) (htag : s.TellsApart tag) :
    ∃ name records, (s.write item now tag).2 = .ok name ∧
      (s.write item now tag).1.enumerate = .ok records ∧
      (name ∈ records ↔ s.names.length + 1 - s.limit ≤ (s.olderUnclaimed name).length) ∧
      (s.lastStamp < RecordName.lastStamp →
        (name ∈ records ↔ s.claimed.length < s.limit)) := by
  obtain ⟨f, hf⟩ := h.orderly
  obtain ⟨g, hg⟩ := orderly_write hf item hnow tag
  have hiff := newName_mem_write_iff hf item hnow htag
  refine ⟨s.newName now tag, _, ?_, enumerate_of_folder hg.folder, hiff, ?_⟩
  · rw [write_of_folder hf.folder]
  · intro hleft
    rw [hiff, olderUnclaimed_newName hf hnow hleft]
    have := s.length_unclaimed_add
    omega

/-- A store that keeps so many records, in a directory that holds none. -/
def emptyStore (limit : Nat) : RecordStore Json :=
  { kind := .event, limit, place := .folder Dict.empty }

/-- The same with one record, which is claimed. -/
def oneClaimed (limit : Nat) : RecordStore Json :=
  { ((emptyStore limit).write (.nat 1) 1 0).1 with reserved := [RecordName.ofStamp 1 0] }

theorem reached_write_emptyStore (limit : Nat) :
    Reached ((emptyStore limit).write (.nat 1) 1 0).1 := by
  have hopened : openAt .event limit .nothing = .ok (emptyStore limit) := rfl
  have hnow : 1 ≤ RecordName.lastStamp := by decide
  have hleft : 0 < RecordName.lastStamp := by decide
  exact Reached.written _ (Reached.opened rfl hopened) hnow (.inl hleft)

/-- A store that keeps two records has room for one beside a claimed one. -/
theorem a_record_stays_beside_a_claimed_one :
    Reached (oneClaimed 2) ∧ 2 ≤ RecordName.lastStamp ∧ (oneClaimed 2).TellsApart 1 ∧
      ∃ name records, ((oneClaimed 2).write (.nat 2) 2 1).2 = .ok name ∧
        ((oneClaimed 2).write (.nat 2) 2 1).1.enumerate = .ok records ∧ name ∈ records := by
  have hwritten := reached_write_emptyStore 2
  have hreached : Reached (oneClaimed 2) := .claimed hwritten rfl
  have hnow : 2 ≤ RecordName.lastStamp := by decide
  have htag : (oneClaimed 2).TellsApart 1 := .inl (by decide)
  obtain ⟨name, records, hname, hlist, _, hiff⟩ :=
    a_written_record_stays_while_claims_leave_room hreached (.nat 2) hnow htag
  exact ⟨hreached, hnow, htag, name, records, hname, hlist, (hiff (by decide)).2 (by decide)⟩

/-- A store that keeps one record has no room beside a claimed one: writing succeeds, and
the new record itself goes. -/
theorem a_record_written_beside_a_claimed_one_is_gone :
    Reached (oneClaimed 1) ∧ 1 ≤ (oneClaimed 1).limit ∧
      ∃ name records, ((oneClaimed 1).write (.nat 2) 2 1).2 = .ok name ∧
        ((oneClaimed 1).write (.nat 2) 2 1).1.enumerate = .ok records ∧ name ∉ records := by
  have hwritten := reached_write_emptyStore 1
  refine ⟨.claimed hwritten rfl, Nat.le_refl 1, RecordName.ofStamp 2 1,
    [RecordName.ofStamp 1 0], rfl, rfl, ?_⟩
  decide

end CrashReporter.RecordStore
