import CrashReporter.Proofs.Dict
import CrashReporter.Proofs.Store.Folder
import CrashReporter.Store.RecordStore
import Mathlib.Data.List.Basic

-- What each operation on a store does to its directory and to its claims, said once
-- for stores that have their directory. Every law about stores is built from these.

namespace CrashReporter.RecordStore

variable {α : Type} {s : RecordStore α} {f : Folder}

/-! ## Views -/

/-- The records of a store, oldest first. -/
def names (s : RecordStore α) : List String := (s.place.folder?.map Folder.records).getD []

/-- What stands under a name in the directory of a store. -/
def found? (s : RecordStore α) (name : String) : Option Entry :=
  s.place.folder?.bind fun f => f.get? name

/-- The records that someone has claimed. -/
def claimed (s : RecordStore α) : List String := s.names.filter fun name => s.reserved.contains name

theorem names_of_folder (h : s.place = .folder f) : s.names = f.records := by
  simp [names, h, Place.folder?]

theorem nodup_names (s : RecordStore α) : s.names.Nodup := by
  unfold names
  cases s.place.folder? with
  | none => exact List.nodup_nil
  | some f => exact f.nodup_records

theorem found?_of_folder (h : s.place = .folder f) (name : String) :
    s.found? name = f.get? name := by
  simp [found?, h, Place.folder?]

/-- What stands in a directory that is given by its entries is one of them. -/
theorem mem_of_found? {entries : List (String × Entry)} {name : String} {entry : Entry}
    (h : s.place = .folder (Dict.ofList entries)) (hfound : s.found? name = some entry) :
    (name, entry) ∈ entries := by
  rw [found?_of_folder h, Dict.get?_ofList] at hfound
  exact mem_of_lastOf hfound

theorem mem_names {name : String} :
    name ∈ s.names ↔ (s.found? name).isSome = true ∧ RecordName.isRecord name = true := by
  unfold names found?
  cases s.place.folder? with
  | none => simp
  | some f => exact Folder.mem_records

/-- Records are listed in the order of their names. -/
theorem names_pairwise (s : RecordStore α) : s.names.Pairwise (· < ·) := by
  unfold names
  cases s.place.folder? with
  | none => exact List.Pairwise.nil
  | some f => exact f.records_pairwise

theorem enumerate_of_folder (h : s.place = .folder f) : s.enumerate = .ok s.names := by
  simp [enumerate, names, h, Place.folder?]

theorem names_of_enumerate {records : List String} (h : s.enumerate = .ok records) :
    s.names = records := by
  unfold enumerate at h
  unfold names
  cases hfolder : s.place.folder? with
  | some f =>
    rw [hfolder] at h
    exact Except.ok.inj h
  | none =>
    rw [hfolder] at h
    cases h

theorem mem_unclaimed {records : List String} {name : String} :
    name ∈ s.unclaimed records ↔ name ∈ records ∧ name ∉ s.reserved := by
  simp [unclaimed]

/-- Each record is claimed or not. -/
theorem length_unclaimed_add (s : RecordStore α) :
    (s.unclaimed s.names).length + s.claimed.length = s.names.length := by
  unfold unclaimed claimed
  rw [Nat.add_comm, ← List.length_eq_length_filter_add fun name => s.reserved.contains name]

/-! ## Opening, claiming, giving up -/

theorem openAt_eq_ok {kind : PayloadKind} {limit : Nat} {place : Place}
    (h : openAt kind limit place = .ok s) :
    ∃ f, place.makeFolder = some f ∧
      s = { kind, limit, lastStamp := f.largestStamp, place := .folder f.tidy } := by
  unfold openAt at h
  split at h
  · next f hf => exact ⟨f, hf, (Except.ok.inj h).symm⟩
  · cases h

theorem claim_of_folder (h : s.place = .folder f) :
    s.claim =
      .ok (s.unclaimed s.names, { s with reserved := s.reserved ++ s.unclaimed s.names }) := by
  rw [claim, enumerate_of_folder h]
  rfl

/-- Claiming fails only where there is no directory to list. -/
theorem claim_cases (s : RecordStore α) :
    (∃ e, s.claim = .error e) ∨ ∃ f, s.place = .folder f := by
  unfold claim enumerate
  cases s.place with
  | nothing => exact .inl ⟨_, rfl⟩
  | file => exact .inl ⟨_, rfl⟩
  | folder f => exact .inr ⟨f, rfl⟩

/-- Where claiming fails there are no records. -/
theorem names_of_claim_error {e : ReportError} (h : s.claim = .error e) : s.names = [] := by
  cases hplace : s.place with
  | nothing => simp [names, hplace, Place.folder?]
  | file => simp [names, hplace, Place.folder?]
  | folder f =>
    rw [claim_of_folder hplace] at h
    cases h

/-- Claiming reserves every record that was free, and changes nothing else. -/
theorem claim_eq_ok {names : List String} {t : RecordStore α} (h : s.claim = .ok (names, t)) :
    names = s.unclaimed s.names ∧ t = { s with reserved := s.reserved ++ names } := by
  rcases claim_cases s with ⟨e, he⟩ | ⟨f, hf⟩
  · rw [he] at h
    cases h
  · rw [claim_of_folder hf] at h
    obtain ⟨rfl, rfl⟩ := Prod.mk.inj (Except.ok.inj h)
    exact ⟨rfl, rfl⟩

/-- While nothing is reserved, every record is free. -/
theorem unclaimed_of_unreserved (h : s.reserved = []) (records : List String) :
    s.unclaimed records = records := by
  unfold unclaimed
  rw [h]
  exact List.filter_eq_self.2 fun _ _ => rfl

/-- While nothing is reserved, whoever claims gets every record there is. -/
theorem claim_of_unreserved (h : s.reserved = []) {records : List String}
    (hlist : s.enumerate = .ok records) :
    s.claim = .ok (records, { s with reserved := records }) := by
  unfold claim
  rw [hlist]
  simp [Except.map, unclaimed_of_unreserved h, h]

theorem delete_of_folder (h : s.place = .folder f) (gone : List String) :
    s.delete gone =
      { s with
        place := .folder (gone.foldl Folder.removeFile f)
        reserved := s.reserved.filter fun name => !gone.contains name } := by
  simp [delete, change, h, cancel]

@[simp] theorem reserved_change (s : RecordStore α) (f : Folder → Folder) :
    (s.change f).reserved = s.reserved := by
  unfold change
  cases s.place <;> rfl

@[simp] theorem kind_change (s : RecordStore α) (f : Folder → Folder) :
    (s.change f).kind = s.kind := by
  unfold change
  cases s.place <;> rfl

@[simp] theorem lastStamp_change (s : RecordStore α) (f : Folder → Folder) :
    (s.change f).lastStamp = s.lastStamp := by
  unfold change
  cases s.place <;> rfl

@[simp] theorem lastStamp_delete (s : RecordStore α) (gone : List String) :
    (s.delete gone).lastStamp = s.lastStamp := by
  simp [delete, cancel]

@[simp] theorem kind_delete (s : RecordStore α) (gone : List String) :
    (s.delete gone).kind = s.kind := by
  simp [delete, cancel]

@[simp] theorem reserved_delete (s : RecordStore α) (gone : List String) :
    (s.delete gone).reserved = s.reserved.filter fun name => !gone.contains name := by
  simp [delete, cancel]

/-- A file that was deleted is gone; a directory in its place is not. -/
theorem found?_delete (s : RecordStore α) (gone : List String) (name : String) :
    (s.delete gone).found? name =
      if name ∈ gone ∧ s.found? name ≠ some .folder then none else s.found? name := by
  unfold delete change
  cases hplace : s.place with
  | nothing => simp [found?, cancel, hplace, Place.folder?]
  | file => simp [found?, cancel, hplace, Place.folder?]
  | folder f => simp [found?, cancel, hplace, Place.folder?, Folder.get?_foldl_removeFile]

/-- No record appears where some are deleted. -/
theorem mem_names_of_delete {gone : List String} {name : String}
    (h : name ∈ (s.delete gone).names) : name ∈ s.names := by
  obtain ⟨hthere, hrecord⟩ := mem_names.1 h
  rw [found?_delete] at hthere
  split at hthere
  · cases hthere
  · exact mem_names.2 ⟨hthere, hrecord⟩

/-! ## Retention -/

/-- What pruning takes away: the first unclaimed records beyond the limit. -/
def surplus (s : RecordStore α) (f : Folder) : List String :=
  (f.removable (s.unclaimed f.records)).take (f.records.length - s.limit)

/-- The directory that pruning leaves. -/
def pruned (s : RecordStore α) (f : Folder) : Folder :=
  Folder.removeUpTo (f.records.length - s.limit) (s.unclaimed f.records) f

theorem get?_pruned (s : RecordStore α) (f : Folder) (name : String) :
    (s.pruned f).get? name = if name ∈ s.surplus f then none else f.get? name :=
  Folder.get?_removeUpTo _ _ _ _

theorem mem_records_pruned (s : RecordStore α) (f : Folder) (name : String) :
    name ∈ (s.pruned f).records ↔ name ∈ f.records ∧ name ∉ s.surplus f := by
  rw [Folder.mem_records, Folder.mem_records, get?_pruned]
  by_cases h : name ∈ s.surplus f
  · simp [h]
  · simp [h]

theorem prune_of_folder (h : s.place = .folder f) :
    s.prune = { s with place := .folder (s.pruned f) } := by
  simp [prune, change, h, pruned]

/-- Pruning never takes a claimed record. -/
theorem not_mem_surplus_of_reserved {name : String} (h : name ∈ s.reserved) :
    name ∉ s.surplus f := by
  intro hmem
  have hfree := (List.mem_filter.1 (List.mem_of_mem_take hmem)).1
  exact (mem_unclaimed.1 hfree).2 h

/-! ## Writing -/

variable [Storable α]

/-- The name that the next record gets. -/
def newName (s : RecordStore α) (now tag : Nat) : String :=
  RecordName.ofStamp (RecordName.stampAfter s.lastStamp now) tag

/-- The store with the record of an item in place, before old records go. -/
def placed (s : RecordStore α) (item : α) (now tag : Nat) : RecordStore α :=
  { s with lastStamp := RecordName.stampAfter s.lastStamp now }.change fun f =>
    f.insert (s.newName now tag) (.file (.text (s.recordText item)))

theorem placed_of_folder (h : s.place = .folder f) (item : α) (now tag : Nat) :
    s.placed item now tag =
      { s with
        lastStamp := RecordName.stampAfter s.lastStamp now
        place := .folder
          (f.insert (s.newName now tag) (.file (.text (s.recordText item)))) } := by
  simp [placed, change, h]

@[simp] theorem reserved_write (s : RecordStore α) (item : α) (now tag : Nat) :
    (s.write item now tag).1.reserved = s.reserved := by
  unfold write
  cases s.place <;> simp [prune]

@[simp] theorem kind_write (s : RecordStore α) (item : α) (now tag : Nat) :
    (s.write item now tag).1.kind = s.kind := by
  unfold write
  cases s.place <;> simp [prune]

@[simp] theorem lastStamp_write (s : RecordStore α) (item : α) (now tag : Nat) :
    (s.write item now tag).1.lastStamp = RecordName.stampAfter s.lastStamp now := by
  unfold write
  cases s.place <;> simp [prune]

/-- What is there after a record was written is that record, or was there before. -/
theorem found?_write {item : α} {now tag : Nat} {name : String} {entry : Entry}
    (h : (s.write item now tag).1.found? name = some entry) :
    (s.write item now tag).2 = .ok name ∨ s.found? name = some entry := by
  unfold write at h ⊢
  cases hplace : s.place with
  | nothing =>
    simp [hplace, found?, Place.folder?] at h
  | file =>
    simp [hplace, found?, Place.folder?] at h
  | folder f =>
    simp only [hplace] at h ⊢
    rw [prune_of_folder rfl, found?_of_folder rfl, get?_pruned, Dict.get?_insert] at h
    split at h
    · cases h
    · split at h
      · next heq => exact .inl (heq ▸ rfl)
      · rw [found?_of_folder hplace]
        exact .inr h

/-- No record appears but the one that is written. -/
theorem mem_names_of_write {item : α} {now tag : Nat} {name : String}
    (h : name ∈ (s.write item now tag).1.names) :
    name ∈ s.names ∨ (s.write item now tag).2 = .ok name := by
  obtain ⟨hthere, hrecord⟩ := mem_names.1 h
  obtain ⟨entry, hentry⟩ := Option.isSome_iff_exists.1 hthere
  rcases found?_write hentry with hnew | hold
  · exact .inr hnew
  · exact .inl (mem_names.2 ⟨by rw [hold]; rfl, hrecord⟩)

theorem write_of_folder (h : s.place = .folder f) (item : α) (now tag : Nat) :
    s.write item now tag = ((s.placed item now tag).prune, .ok (s.newName now tag)) := by
  rw [placed_of_folder h]
  unfold write
  simp only [h]
  rfl

theorem folder_write (h : s.place = .folder f) (item : α) (now tag : Nat) :
    ∃ g, (s.write item now tag).1.place = .folder g := by
  rw [write_of_folder h, placed_of_folder h, prune_of_folder rfl]
  exact ⟨_, rfl⟩

/-! ## Reading -/

/-- What can be read is a file. -/
theorem found?_of_read {name : String} {item : α} (h : s.read name = .ok item) :
    ∃ content, s.found? name = some (.file content) := by
  unfold read at h
  unfold found?
  split at h
  · next content heq => exact ⟨content, heq⟩
  · cases h
  · cases h

end CrashReporter.RecordStore
