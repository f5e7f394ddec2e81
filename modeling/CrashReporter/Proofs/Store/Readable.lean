import CrashReporter.Proofs.Store.Contents

-- Which of some records can be read, and what becomes of a store once those that somebody has
-- claimed were deleted or given up.

namespace CrashReporter.RecordStore

/-! ## Records that can be read -/

section Reading

variable {α : Type} [Storable α] {s t : RecordStore α} {name : String} {records : List String}

/-- Those of the records that can be read, with their items. -/
def readable (s : RecordStore α) (records : List String) : List (String × α) :=
  records.filterMap fun name => (s.read name).toOption.map (name, ·)

/-- Those that cannot. -/
def unreadable (s : RecordStore α) (records : List String) : List String :=
  records.filter fun name => (s.read name).toOption.isNone

theorem readable_congr (h : ∀ name ∈ records, t.read name = s.read name) :
    t.readable records = s.readable records :=
  List.filterMap_congr fun name hname => by rw [h name hname]

theorem unreadable_congr (h : ∀ name ∈ records, t.read name = s.read name) :
    t.unreadable records = s.unreadable records :=
  List.filter_congr fun name hname => by rw [h name hname]

theorem readable_cons_of_read {item : α} (h : s.read name = .ok item) :
    s.readable (name :: records) = (name, item) :: s.readable records :=
  List.filterMap_cons_some (by rw [h]; rfl)

theorem readable_cons_of_error {e : ReportError} (h : s.read name = .error e) :
    s.readable (name :: records) = s.readable records :=
  List.filterMap_cons_none (by rw [h]; rfl)

theorem unreadable_cons_of_read {item : α} (h : s.read name = .ok item) :
    s.unreadable (name :: records) = s.unreadable records :=
  List.filter_cons_of_neg (by rw [h]; simp [Except.toOption])

theorem unreadable_cons_of_error {e : ReportError} (h : s.read name = .error e) :
    s.unreadable (name :: records) = name :: s.unreadable records :=
  List.filter_cons_of_pos (by rw [h]; rfl)

/-- Each record can be read or not. -/
theorem perm_readable_append (s : RecordStore α) (records : List String) :
    ((s.readable records).map (·.1) ++ s.unreadable records).Perm records := by
  induction records with
  | nil => exact List.Perm.refl _
  | cons name rest ih =>
    cases h : s.read name with
    | ok item =>
      rw [readable_cons_of_read h, unreadable_cons_of_read h, List.map_cons, List.cons_append]
      exact ih.cons name
    | error e =>
      rw [readable_cons_of_error h, unreadable_cons_of_error h]
      exact List.perm_middle.trans (ih.cons name)

theorem length_readable_add (s : RecordStore α) (records : List String) :
    (s.readable records).length + (s.unreadable records).length = records.length := by
  have hlength := (s.perm_readable_append records).length_eq
  rwa [List.length_append, List.length_map] at hlength

theorem read_of_mem_readable {e : String × α} (h : e ∈ s.readable records) :
    s.read e.1 = .ok e.2 := by
  obtain ⟨name, -, hread⟩ := List.mem_filterMap.1 h
  obtain ⟨item, hitem, rfl⟩ := Option.map_eq_some_iff.1 hread
  cases hresult : s.read name with
  | ok other =>
    rw [hresult] at hitem
    exact congrArg _ (Option.some.inj hitem)
  | error reason =>
    rw [hresult] at hitem
    cases hitem

theorem read_of_mem_unreadable (h : name ∈ s.unreadable records) :
    ∃ reason, s.read name = .error reason := by
  have hnone := (List.mem_filter.1 h).2
  cases hresult : s.read name with
  | ok item =>
    rw [hresult] at hnone
    cases hnone
  | error reason => exact ⟨reason, rfl⟩

end Reading

/-! ## Records that are taken away -/

variable {α : Type}

theorem cancel_nil (s : RecordStore α) : s.cancel [] = s := by
  simp [cancel]

theorem delete_nil (s : RecordStore α) : s.delete [] = s := by
  obtain ⟨kind, limit, reserved, lastStamp, place⟩ := s
  cases place <;> simp [delete, change, cancel]

/-- Deleting some records after others deletes all. -/
theorem delete_delete (s : RecordStore α) (names more : List String) :
    (s.delete names).delete more = s.delete (names ++ more) := by
  have hclaims : ∀ x, (!more.contains x && !names.contains x) = !(names ++ more).contains x := by
    intro x
    simp [Bool.and_comm]
  cases hplace : s.place <;>
    simp only [delete, change, cancel, hplace, List.foldl_append, List.filter_filter, hclaims]

/-- The store without some files, and all else as it was. -/
def withoutRecords (s : RecordStore α) (gone : List String) : RecordStore α :=
  s.change fun f => gone.foldl Folder.removeFile f

variable (s : RecordStore α) (gone : List String)

theorem withoutRecords_reserved (reserved : List String) :
    ({ s with reserved } : RecordStore α).withoutRecords gone =
      { s.withoutRecords gone with reserved } := by
  unfold withoutRecords change
  cases hplace : s.place <;> simp only [hplace]

theorem reserved_withoutRecords : (s.withoutRecords gone).reserved = s.reserved :=
  reserved_change s _

variable {s gone}

/-- A file is gone, a directory is not. -/
theorem found?_withoutRecords_eq (s : RecordStore α) (gone : List String) (name : String) :
    (s.withoutRecords gone).found? name =
      if name ∈ gone ∧ s.found? name ≠ some .folder then none else s.found? name :=
  s.found?_delete gone name

/-- As long as none of the names is that of a directory, they are gone. -/
theorem found?_withoutRecords (h : ∀ name ∈ gone, s.found? name ≠ some .folder) (name : String) :
    (s.withoutRecords gone).found? name = if name ∈ gone then none else s.found? name := by
  rw [found?_withoutRecords_eq]
  by_cases hgone : name ∈ gone
  · rw [if_pos ⟨hgone, h name hgone⟩, if_pos hgone]
  · rw [if_neg (fun both => hgone both.1), if_neg hgone]

/-- Once all that was claimed is deleted or given up, the claims are those of before. -/
theorem cancel_delete_claimed {left : List String}
    (h : ∀ name, name ∈ s.unclaimed s.names ↔ name ∈ gone ∨ name ∈ left) :
    (({ s with reserved := s.reserved ++ s.unclaimed s.names } : RecordStore α).delete gone).cancel
      left = s.withoutRecords gone := by
  have hgiven : ((s.reserved ++ s.unclaimed s.names).filter fun name => !gone.contains name).filter
      (fun name => !left.contains name) = s.reserved := by
    rw [List.filter_filter, List.filter_append, List.filter_eq_self.2, List.filter_eq_nil_iff.2,
      List.append_nil]
    · intro name hname
      rcases (h name).1 hname with hgone | hleft
      · simp [hgone]
      · simp [hleft]
    · intro name hname
      have hnot : ¬(name ∈ gone ∨ name ∈ left) := by
        rw [← h, mem_unclaimed]
        exact fun both => both.2 hname
      simpa [and_comm] using hnot
  have hclaimed := s.withoutRecords_reserved gone (s.reserved ++ s.unclaimed s.names)
  show ((({ s with reserved := s.reserved ++ s.unclaimed s.names } : RecordStore α).withoutRecords
    gone).cancel gone).cancel left = _
  rw [hclaimed, cancel, cancel, hgiven, ← s.reserved_withoutRecords gone]

end CrashReporter.RecordStore
