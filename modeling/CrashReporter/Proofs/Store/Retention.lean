import CrashReporter.Proofs.Store.Durability

-- What retention takes. Once a record is in place, the oldest records that nobody has claimed go,
-- as many as there are beyond the limit, or all of them if that is fewer. Nothing else goes.

namespace CrashReporter.RecordStore

variable {α : Type} {s : RecordStore α} {f : Folder}

/-! ## Pruning -/

/-- What pruning leaves is what was there, in its order. -/
theorem records_pruned (s : RecordStore α) (f : Folder) :
    (s.pruned f).records = f.records.filter fun name => name ∉ s.surplus f := by
  refine Folder.eq_of_mem_iff (Folder.records_pairwise _) (f.records_pairwise.filter _) ?_
  intro name
  rw [mem_records_pruned, List.mem_filter]
  simp

/-- A list without some of its members is shorter by their number. -/
theorem length_filter_not_mem {names gone : List String} (hnames : names.Nodup)
    (hgone : gone.Sublist names) :
    (names.filter fun name => name ∉ gone).length = names.length - gone.length := by
  have hperm : (names.filter fun name => name ∈ gone).Perm gone := by
    refine (List.perm_ext_iff_of_nodup (hnames.filter _) (hgone.nodup hnames)).2 ?_
    intro name
    simp only [List.mem_filter, decide_eq_true_eq, and_iff_right_iff_imp]
    exact fun hname => hgone.subset hname
  have hsplit := List.length_eq_length_filter_add (l := names) fun name => decide (name ∈ gone)
  have hnot : (names.filter fun name => !decide (name ∈ gone)) =
      names.filter fun name => name ∉ gone := by
    simp
  rw [hnot] at hsplit
  have := hperm.length_eq
  omega

/-- The records that nobody has claimed and those that someone has, by their numbers. -/
theorem length_free_add (names reserved : List String) :
    (names.filter fun name => name ∉ reserved).length +
      (names.filter fun name => name ∈ reserved).length = names.length := by
  have hsplit := List.length_eq_length_filter_add (l := names) fun name =>
    decide (name ∈ reserved)
  simp only [← decide_not] at hsplit
  omega

/-- Where records are files, pruning takes the first that nobody has claimed, as many as there are
beyond the limit, and leaves all else. -/
theorem prune_of_files (hplace : s.place = .folder f)
    (hfiles : ∀ name ∈ s.names, s.found? name ≠ some .folder) {gone : List String}
    (hgone : gone = (s.unclaimed s.names).take (s.names.length - s.limit)) :
    (∀ name, s.prune.found? name = if name ∈ gone then none else s.found? name) ∧
      s.prune.enumerate = .ok (s.names.filter fun name => name ∉ gone) := by
  have hsurplus : s.surplus f = gone := by
    rw [names_of_folder hplace] at hfiles hgone
    have hremovable := removable_of_files (s := s) fun name hname =>
      found?_of_folder hplace name ▸ hfiles name hname
    rw [surplus, hremovable, hgone]
  rw [prune_of_folder hplace, enumerate_of_folder rfl, names_of_folder rfl, records_pruned,
    hsurplus, names_of_folder hplace]
  refine ⟨fun name => ?_, rfl⟩
  rw [found?_of_folder rfl, found?_of_folder hplace, get?_pruned, hsurplus]

/-! ## Writing -/

variable [Storable α] {t : RecordStore α} {item : α} {now tag : Nat} {name : String}

/-- Writing succeeds where there is a directory. It puts the record in place, and then prunes. -/
theorem write_eq_ok (h : s.write item now tag = (t, .ok name)) :
    ∃ f, s.place = .folder f ∧ s.newName now tag = name ∧ (s.placed item now tag).prune = t := by
  cases hplace : s.place with
  | nothing =>
    unfold write at h
    rw [hplace] at h
    cases h
  | file =>
    unfold write at h
    rw [hplace] at h
    cases h
  | folder f =>
    rw [write_of_folder hplace] at h
    obtain ⟨hstore, hname⟩ := Prod.mk.inj h
    exact ⟨f, rfl, Except.ok.inj hname, hstore⟩

/-- Beside the new record, what was there is as it was. -/
theorem found?_placed (h : s.place = .folder f) (item : α) (now tag : Nat) (other : String) :
    (s.placed item now tag).found? other =
      if other = s.newName now tag then some (.file (.text (s.recordText item)))
      else s.found? other := by
  rw [placed_of_folder h, found?_of_folder rfl, found?_of_folder h, Dict.get?_insert]

/-- The new record is a file. -/
theorem files_placed (h : s.place = .folder f)
    (hfiles : ∀ record ∈ s.names, s.found? record ≠ some .folder) (item : α) (now tag : Nat) :
    ∀ record ∈ (s.placed item now tag).names,
      (s.placed item now tag).found? record ≠ some .folder := by
  intro record hrecord
  obtain ⟨hthere, hnamed⟩ := mem_names.1 hrecord
  rw [found?_placed h] at hthere ⊢
  by_cases hnew : record = s.newName now tag
  · simp [hnew]
  · rw [if_neg hnew] at hthere ⊢
    exact hfiles record (mem_names.2 ⟨hthere, hnamed⟩)

/-! ## The law -/

/-- Retention is exact. A record that is written is put in place, and all else is as it was. Of
the records that are listed then, the first that nobody has claimed go, as many as there are beyond
the limit or all of them if that is fewer. Nothing else goes or changes: the claimed records are
all there, the records that are left keep their order, and there are as many as the limit allows
or more if more are claimed. -/
theorem retention_takes_the_oldest_unclaimed (hwrite : s.write item now tag = (t, .ok name))
    (hfiles : ∀ record ∈ s.names, s.found? record ≠ some .folder) :
    ∃ (listed gone : List String) (n c : Nat),
      (s.placed item now tag).enumerate = .ok listed ∧
      (∀ other, (s.placed item now tag).found? other =
        if other = name then some (.file (.text (s.recordText item))) else s.found? other) ∧
      n = listed.length ∧ c = (listed.filter fun record => record ∈ s.reserved).length ∧
      gone = (listed.filter fun record => record ∉ s.reserved).take
        (min (n - s.limit) (n - c)) ∧
      gone.length = min (n - s.limit) (n - c) ∧
      (∀ other, t.found? other =
        if other ∈ gone then none else (s.placed item now tag).found? other) ∧
      (∀ other ∈ gone, RecordName.isRecord other = true ∧ other ∉ t.reserved) ∧
      t.reserved = s.reserved ∧
      t.enumerate = .ok (listed.filter fun record => record ∉ gone) ∧
      t.length = max (min n s.limit) c := by
  obtain ⟨f, hplace, rfl, rfl⟩ := write_eq_ok hwrite
  have hfound := found?_placed hplace item now tag
  have hplaced := placed_of_folder hplace item now tag
  have hthere := files_placed hplace hfiles item now tag
  have hreserved : (s.placed item now tag).reserved = s.reserved := by simp [hplaced]
  have hlimit : (s.placed item now tag).limit = s.limit := by simp [hplaced]
  have hpruned : (s.placed item now tag).prune.reserved = s.reserved := by simp [prune, hreserved]
  have hfolder : ∃ g, (s.placed item now tag).place = .folder g := ⟨_, by rw [hplaced]⟩
  generalize s.placed item now tag = placed at hfound hthere hreserved hlimit hpruned hfolder ⊢
  obtain ⟨g, hg⟩ := hfolder
  obtain ⟨n, hn⟩ : ∃ n, n = placed.names.length := ⟨_, rfl⟩
  obtain ⟨c, hc⟩ : ∃ c, c = (placed.names.filter fun record => record ∈ s.reserved).length :=
    ⟨_, rfl⟩
  obtain ⟨gone, hgone⟩ : ∃ gone, gone = (placed.names.filter fun record => record ∉ s.reserved).take
    (min (n - s.limit) (n - c)) := ⟨_, rfl⟩
  have hfree : placed.unclaimed placed.names =
      placed.names.filter fun record => record ∉ s.reserved := by
    simp [unclaimed, hreserved]
  have hsum := length_free_add placed.names s.reserved
  have hlength : gone.length = min (n - s.limit) (n - c) := by
    rw [hgone, List.length_take]
    omega
  have hsub : gone.Sublist placed.names :=
    hgone ▸ (List.take_sublist _ _).trans List.filter_sublist
  -- There are `n - c` records that nobody has claimed, so taking more takes no more.
  have htaken : gone = (placed.unclaimed placed.names).take
      (placed.names.length - placed.limit) := by
    rw [hgone, hfree, hlimit, List.take_eq_take_iff]
    omega
  obtain ⟨hleft, hlist⟩ := prune_of_files hg hthere htaken
  refine ⟨placed.names, gone, n, c, enumerate_of_folder hg, hfound, hn, hc, hgone, hlength, hleft,
    ?_, hpruned, hlist, ?_⟩
  · intro other hother
    rw [hpruned]
    rw [hgone] at hother
    obtain ⟨hname, hnot⟩ := List.mem_filter.1 (List.mem_of_mem_take hother)
    exact ⟨(mem_names.1 hname).2, of_decide_eq_true hnot⟩
  · unfold length
    rw [hlist]
    show (placed.names.filter fun record => record ∉ gone).length = _
    rw [length_filter_not_mem placed.nodup_names hsub, hlength]
    omega

/-- A store that keeps two records by now, in a directory with three and a note. The first is
claimed. -/
def crowdedStore : RecordStore Json :=
  { kind := .event
    limit := 2
    reserved := [RecordName.ofStamp 1 0]
    lastStamp := 3
    place := .folder (Dict.ofList
      [(RecordName.ofStamp 1 0, .file (.text "")), (RecordName.ofStamp 2 0, .file (.bytes [])),
        (RecordName.ofStamp 3 0, .file (.text "")), ("notes.json", .file (.text ""))]) }

/-- Where a fourth record is written, the second and the third go. The claimed one and the note
are there as they were. -/
theorem two_records_make_room_for_a_fourth :
    ∃ t, crowdedStore.write (.nat 4) 9 0 = (t, .ok (RecordName.ofStamp 9 0)) ∧
      (∀ record ∈ crowdedStore.names, crowdedStore.found? record ≠ some .folder) ∧
      t.length = 2 ∧ t.found? (RecordName.ofStamp 2 0) = none ∧
      t.found? (RecordName.ofStamp 3 0) = none ∧
      t.found? (RecordName.ofStamp 1 0) = some (.file (.text "")) ∧
      t.found? "notes.json" = some (.file (.text "")) := by
  have hfiles : ∀ record ∈ crowdedStore.names, crowdedStore.found? record ≠ some .folder := by
    intro record _ hfolder
    have hentry := mem_of_found? (s := crowdedStore) rfl hfolder
    simp at hentry
  have hwrite : crowdedStore.write (.nat 4) 9 0 =
      ((crowdedStore.placed (.nat 4) 9 0).prune, .ok (RecordName.ofStamp 9 0)) :=
    write_of_folder rfl _ _ _
  obtain ⟨listed, gone, n, c, hlisted, hplaced, rfl, rfl, hgone, -, hleft, -, -, -, hlength⟩ :=
    retention_takes_the_oldest_unclaimed hwrite hfiles
  obtain rfl : listed = [RecordName.ofStamp 1 0, RecordName.ofStamp 2 0, RecordName.ofStamp 3 0,
      RecordName.ofStamp 9 0] := (Except.ok.inj hlisted).symm.trans (by rfl)
  obtain rfl : gone = [RecordName.ofStamp 2 0, RecordName.ofStamp 3 0] := hgone.trans (by decide)
  refine ⟨_, hwrite, hfiles, hlength, ?_, ?_, ?_, ?_⟩ <;>
    rw [hleft] <;> rfl

end CrashReporter.RecordStore
