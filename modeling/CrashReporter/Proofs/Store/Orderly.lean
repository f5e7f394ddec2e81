import CrashReporter.Proofs.Store.Order

-- Stores that hold what they wrote. Every record bears a name that the store gives,
-- with no later stamp than its last, and every claim is on a record that is there.
-- Each operation keeps this, and it makes the name of the next record a new one.

namespace CrashReporter.RecordStore

variable {α : Type} {s : RecordStore α} {f : Folder}

/-! ## The invariant -/

structure Orderly (s : RecordStore α) (f : Folder) : Prop where
  folder : s.place = .folder f
  files : ∀ name ∈ f.records, f.get? name ≠ some .folder
  named : ∀ name ∈ f.records, ∃ stamp tag, stamp ≤ s.lastStamp ∧ name = RecordName.ofStamp stamp tag
  last_le : s.lastStamp ≤ RecordName.lastStamp
  present : ∀ name ∈ s.reserved, name ∈ f.records

theorem Orderly.names_eq (h : Orderly s f) : s.names = f.records := names_of_folder h.folder

/-- What is claimed is there. -/
theorem Orderly.mem_names (h : Orderly s f) {name : String} (hname : name ∈ s.reserved) :
    name ∈ s.names := by
  rw [h.names_eq]
  exact h.present name hname

/-- Its names are among those that begin with a stamp. -/
theorem Orderly.dated (h : Orderly s f) : Dated s := by
  refine ⟨⟨f, h.folder⟩, ?_, h.last_le⟩
  intro name hname
  rw [h.names_eq] at hname
  obtain ⟨stamp, tag, hle, rfl⟩ := h.named name hname
  exact ⟨stamp, hle, RecordName.hasStamp_ofStamp stamp tag⟩

/-! ## What each operation keeps -/

/-- Opening a directory whose records a store wrote. -/
theorem orderly_openAt {kind : PayloadKind} {limit : Nat} {place : Place}
    (h : openAt kind limit place = .ok s) (hf : place.makeFolder = some f)
    (files : ∀ name ∈ f.records, f.get? name ≠ some .folder)
    (named : ∀ name ∈ f.records, ∃ stamp tag,
      stamp ≤ RecordName.lastStamp ∧ name = RecordName.ofStamp stamp tag) :
    Orderly s f.tidy := by
  obtain ⟨g, hg, rfl⟩ := openAt_eq_ok h
  obtain rfl : f = g := Option.some.inj (hf.symm.trans hg)
  refine ⟨rfl, ?_, ?_, Folder.largestStamp_le f, by simp⟩
  · intro name hname
    rw [Folder.records_tidy] at hname
    rw [Folder.get?_tidy (Folder.mem_records.1 hname).2]
    exact files name hname
  · intro name hname
    rw [Folder.records_tidy] at hname
    obtain ⟨stamp, tag, hle, hname'⟩ := named name hname
    refine ⟨stamp, tag, ?_, hname'⟩
    exact Folder.le_largestStamp hname (hname' ▸ RecordName.stamp?_ofStamp hle tag)

/-- Opening again where another store left off. -/
theorem orderly_reopen (h : Orderly s f) {kind : PayloadKind} {limit : Nat} {t : RecordStore α}
    (ht : openAt kind limit s.place = .ok t) : Orderly t f.tidy := by
  have hmake : s.place.makeFolder = some f := by
    rw [h.folder]
    rfl
  refine orderly_openAt ht hmake h.files ?_
  intro name hname
  obtain ⟨stamp, tag, hle, hname'⟩ := h.named name hname
  exact ⟨stamp, tag, Nat.le_trans hle h.last_le, hname'⟩

theorem orderly_claim (h : Orderly s f) {names : List String} {t : RecordStore α}
    (hc : s.claim = .ok (names, t)) : Orderly t f := by
  obtain ⟨rfl, rfl⟩ := claim_eq_ok hc
  refine ⟨h.folder, h.files, h.named, h.last_le, ?_⟩
  intro name hname
  rcases List.mem_append.1 hname with hname | hname
  · exact h.present name hname
  · exact h.names_eq ▸ (mem_unclaimed.1 hname).1

theorem orderly_cancel (h : Orderly s f) (names : List String) : Orderly (s.cancel names) f :=
  ⟨h.folder, h.files, h.named, h.last_le, fun name hname =>
    h.present name (List.mem_filter.1 hname).1⟩

/-- A directory that lost some files, with claims on what is left. -/
theorem orderly_of_fewer (h : Orderly s f) {g : Folder} {reserved : List String}
    (hg : ∀ name ∈ g.records, g.get? name = f.get? name)
    (hr : ∀ name ∈ reserved, name ∈ g.records) :
    Orderly ({ s with place := .folder g, reserved } : RecordStore α) g := by
  have hsub : ∀ name ∈ g.records, name ∈ f.records := by
    intro name hname
    have hname' := Folder.mem_records.1 hname
    exact Folder.mem_records.2 ⟨hg name hname ▸ hname'.1, hname'.2⟩
  refine ⟨rfl, ?_, fun name hname => h.named name (hsub name hname),
    h.last_le, hr⟩
  intro name hname
  rw [hg name hname]
  exact h.files name (hsub name hname)

theorem orderly_delete (h : Orderly s f) (gone : List String) :
    Orderly (s.delete gone) (gone.foldl Folder.removeFile f) := by
  have hget := Folder.get?_foldl_removeFile gone f
  rw [delete_of_folder h.folder]
  refine orderly_of_fewer h ?_ ?_
  · intro name hname
    rw [hget]
    split
    · next hgone =>
      have := (Folder.mem_records.1 hname).1
      simp [hget, hgone.1, hgone.2] at this
    · rfl
  · intro name hname
    obtain ⟨hres, hkeep⟩ := List.mem_filter.1 hname
    obtain ⟨hsome, hrecord⟩ := Folder.mem_records.1 (h.present name hres)
    have hnot : name ∉ gone := by simpa using hkeep
    refine Folder.mem_records.2 ⟨?_, hrecord⟩
    simpa [hget, hnot] using hsome

/-- Records that are deleted are gone, and no others. -/
theorem mem_names_deleteAll (h : Orderly s f) (gone : List String) (name : String) :
    name ∈ (s.delete gone).names ↔ name ∈ s.names ∧ name ∉ gone := by
  rw [(orderly_delete h gone).names_eq, h.names_eq, Folder.mem_records, Folder.mem_records,
    Folder.get?_foldl_removeFile]
  by_cases hgone : name ∈ gone
  · have hfile : RecordName.isRecord name = true → f.get? name ≠ some .folder := by
      intro hrecord hfolder
      exact h.files name (Folder.mem_records.2 ⟨by simp [hfolder], hrecord⟩) hfolder
    simp only [hgone, true_and, not_true, and_false, iff_false, not_and]
    intro hsome hrecord
    rw [if_pos (hfile hrecord)] at hsome
    cases hsome
  · simp [hgone]

theorem mem_names_delete (h : Orderly s f) (gone name : String) :
    name ∈ (s.delete [gone]).names ↔ name ∈ s.names ∧ name ≠ gone := by
  rw [mem_names_deleteAll h, List.mem_singleton]

theorem orderly_prune (h : Orderly s f) : Orderly s.prune (s.pruned f) := by
  rw [prune_of_folder h.folder]
  refine orderly_of_fewer h ?_ ?_
  · intro name hname
    rw [get?_pruned, if_neg ((mem_records_pruned s f name).1 hname).2]
  · intro name hname
    exact (mem_records_pruned s f name).2
      ⟨h.present name hname, not_mem_surplus_of_reserved hname⟩

/-! ## New names -/

/-- Something tells the name of the next record from those that are there: a stamp is
left, or no record has its tag. -/
def TellsApart (s : RecordStore α) (tag : Nat) : Prop :=
  s.lastStamp < RecordName.lastStamp ∨ ∀ stamp, RecordName.ofStamp stamp tag ∉ s.names

/-- As long as a stamp is left, the next record comes after all others. -/
theorem lt_newName (h : Orderly s f) {now : Nat} (hnow : now ≤ RecordName.lastStamp)
    (hleft : s.lastStamp < RecordName.lastStamp) (tag : Nat) :
    ∀ name ∈ f.records, name < s.newName now tag := by
  intro name hname
  rw [← h.names_eq] at hname
  exact h.dated.lt_newName hleft hnow tag hname

theorem newName_not_mem (h : Orderly s f) {now tag : Nat} (hnow : now ≤ RecordName.lastStamp)
    (htag : s.TellsApart tag) : s.newName now tag ∉ f.records := by
  rcases htag with hleft | hnew
  · intro hmem
    exact String.lt_irrefl _ (lt_newName h hnow hleft tag _ hmem)
  · exact h.names_eq ▸ hnew _

/-! ## Writing -/

variable [Storable α]

/-- The directory with the record of an item in place. -/
def folderWith (s : RecordStore α) (f : Folder) (item : α) (now tag : Nat) : Folder :=
  f.insert (s.newName now tag) (.file (.text (s.recordText item)))

theorem orderly_placed (h : Orderly s f) (item : α) {now : Nat}
    (hnow : now ≤ RecordName.lastStamp) (tag : Nat) :
    Orderly (s.placed item now tag) (s.folderWith f item now tag) := by
  have hmem := Folder.mem_records_insert (f := f) (e := .file (.text (s.recordText item)))
    (s.isRecord_newName hnow tag)
  rw [placed_of_folder h.folder]
  refine ⟨rfl, ?_, ?_, RecordName.stampAfter_le hnow,
    fun name hname => (hmem name).2 (.inr (h.present name hname))⟩
  · intro name hname
    rw [folderWith, Dict.get?_insert]
    split
    · simp
    · next hne => exact h.files name (((hmem name).1 hname).resolve_left hne)
  · intro name hname
    rcases (hmem name).1 hname with rfl | hname
    · exact ⟨_, tag, Nat.le_refl _, rfl⟩
    · obtain ⟨stamp, tag', hle, hname'⟩ := h.named name hname
      exact ⟨stamp, tag', Nat.le_trans hle (RecordName.le_stampAfter h.last_le now), hname'⟩

theorem orderly_write (h : Orderly s f) (item : α) {now : Nat}
    (hnow : now ≤ RecordName.lastStamp) (tag : Nat) :
    ∃ g, Orderly (s.write item now tag).1 g := by
  rw [write_of_folder h.folder]
  exact ⟨_, orderly_prune (orderly_placed h item hnow tag)⟩

end CrashReporter.RecordStore
