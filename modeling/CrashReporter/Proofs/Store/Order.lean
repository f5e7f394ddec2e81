import CrashReporter.Proofs.Store.Operations

-- The order of records. Whatever the clock shows and however often the store is opened
-- again, a record that is written has a later stamp than all that are there, so that the
-- records are listed in the order they were written.

namespace CrashReporter.RecordStore

variable {α : Type} {s t : RecordStore α} {old new wrote : List String}

/-! ## Stamps -/

/-- Every record begins with a stamp, which is none after the last one of the store. -/
structure Dated (s : RecordStore α) : Prop where
  folder : ∃ f, s.place = .folder f
  stamped : ∀ name ∈ s.names, ∃ stamp, stamp ≤ s.lastStamp ∧ RecordName.HasStamp name stamp
  last_le : s.lastStamp ≤ RecordName.lastStamp

/-- Opening finds the latest stamp again. -/
theorem dated_openAt {kind : PayloadKind} {limit : Nat} {place : Place} {f : Folder}
    (h : openAt kind limit place = .ok s) (hf : place.makeFolder = some f)
    (hstamped : ∀ name ∈ f.records, ∃ stamp, stamp ≤ RecordName.lastStamp ∧
      RecordName.HasStamp name stamp) : Dated s := by
  obtain ⟨g, hg, rfl⟩ := openAt_eq_ok h
  obtain rfl : f = g := Option.some.inj (hf.symm.trans hg)
  refine ⟨⟨_, rfl⟩, ?_, Folder.largestStamp_le f⟩
  intro name hname
  rw [names_of_folder rfl, Folder.records_tidy] at hname
  obtain ⟨stamp, hle, hstamp⟩ := hstamped name hname
  exact ⟨stamp, Folder.le_largestStamp hname (hstamp.stamp?_eq hle), hstamp⟩

/-- The next record comes after all that are there. -/
theorem Dated.lt_newName (h : Dated s) (hleft : s.lastStamp < RecordName.lastStamp)
    {now : Nat} (hnow : now ≤ RecordName.lastStamp) (tag : Nat) {name : String}
    (hname : name ∈ s.names) : name < s.newName now tag := by
  obtain ⟨stamp, hle, hstamp⟩ := h.stamped name hname
  have hlater := RecordName.lt_stampAfter hleft now
  exact hstamp.lt (RecordName.hasStamp_ofStamp _ tag) (by omega) (RecordName.stampAfter_le hnow)

theorem isRecord_newName (s : RecordStore α) {now : Nat} (hnow : now ≤ RecordName.lastStamp)
    (tag : Nat) : RecordName.isRecord (s.newName now tag) = true :=
  RecordName.isRecord_ofStamp (RecordName.stampAfter_le hnow) tag

/-! ## The first record -/

/-- The record comes before all others, and before all that are yet to be written. -/
structure Leads (s : RecordStore α) (name : String) : Prop where
  folder : ∃ f, s.place = .folder f
  mem : name ∈ s.names
  first : ∀ other ∈ s.names, other = name ∨ name < other
  stamp : ∃ stamp, RecordName.HasStamp name stamp ∧ stamp ≤ s.lastStamp ∧
    stamp < RecordName.lastStamp

/-- What comes first is listed first. -/
theorem Leads.names_eq {name : String} (h : s.Leads name) : ∃ rest, s.names = name :: rest := by
  have hmem := h.mem
  have hfirst := h.first
  have hsorted := s.names_pairwise
  cases hnames : s.names with
  | nil =>
    rw [hnames] at hmem
    cases hmem
  | cons first rest =>
    rw [hnames] at hmem hfirst hsorted
    rcases hfirst first List.mem_cons_self with rfl | hlt
    · exact ⟨rest, rfl⟩
    · rcases List.mem_cons.1 hmem with rfl | hrest
      · exact ⟨rest, rfl⟩
      · exact absurd (List.rel_of_pairwise_cons hsorted hrest) (String.lt_asymm hlt)

/-- While it is claimed, the first record stays the first one whatever is written, and holds what
it held. -/
theorem Leads.write [Storable α] {name : String} (h : s.Leads name)
    (hclaimed : name ∈ s.reserved) (item : α) (now tag : Nat) :
    (s.write item now tag).1.Leads name ∧
      (s.write item now tag).1.found? name = s.found? name := by
  obtain ⟨f, hplace⟩ := h.folder
  obtain ⟨stamp, hstamp, hlast, hleft⟩ := h.stamp
  have hlater : stamp < RecordName.stampAfter s.lastStamp now := by
    unfold RecordName.stampAfter
    omega
  have hafter : RecordName.isRecord (s.newName now tag) = true → name < s.newName now tag :=
    fun hrecord => hstamp.lt (RecordName.hasStamp_ofStamp _ tag) hlater
      (RecordName.le_of_isRecord_ofStamp hrecord)
  have hrecord := (mem_names.1 h.mem).2
  have hne : s.newName now tag ≠ name := by
    intro heq
    have hlt := hafter (heq ▸ hrecord)
    rw [heq] at hlt
    exact String.lt_irrefl _ hlt
  have hsame : (s.write item now tag).1.found? name = s.found? name := by
    rw [write_of_folder hplace, placed_of_folder hplace, prune_of_folder rfl, found?_of_folder rfl,
      get?_pruned, if_neg, Dict.get?_insert, if_neg hne.symm,
      found?_of_folder hplace]
    exact not_mem_surplus_of_reserved hclaimed
  refine ⟨⟨folder_write hplace item now tag, ?_, ?_, stamp, hstamp, ?_, hleft⟩, hsame⟩
  · exact mem_names.2 ⟨hsame ▸ (mem_names.1 h.mem).1, hrecord⟩
  · intro other hother
    rcases mem_names_of_write hother with hold | hnew
    · exact h.first other hold
    · rw [write_of_folder hplace] at hnew
      obtain rfl := Except.ok.inj hnew
      exact .inr (hafter (mem_names.1 hother).2)
  · rw [lastStamp_write]
    exact hlater.le

/-! ## Steps of a store -/

/-- The present time as a store takes it from a clock that shows so many microseconds since
1970: nothing before that. -/
def stampTime (reading : Int64) : Nat := reading.toInt.toNat

theorem stampTime_le (reading : Int64) : stampTime reading ≤ RecordName.lastStamp := by
  have hlt := reading.toInt_lt
  have hlast : RecordName.lastStamp = 2 ^ 64 - 1 := rfl
  unfold stampTime
  omega

/-- The stamp of a record that is written fits. -/
theorem newStamp_le (s : RecordStore α) (reading : Int64) :
    RecordName.stampAfter s.lastStamp (stampTime reading) ≤ RecordName.lastStamp :=
  RecordName.stampAfter_le (stampTime_le reading)

/-- Those of the names that something in the directory still bears. -/
def present (s : RecordStore α) (names : List String) : List String :=
  names.filter fun name => (s.found? name).isSome

theorem mem_present {names : List String} {name : String} :
    name ∈ s.present names ↔ name ∈ names ∧ (s.found? name).isSome = true := by
  simp [present]

variable [Storable α]

/-- What can be done with a store, and the names of the records that it writes. A record is
written only while a stamp is left. -/
inductive Step (s : RecordStore α) : List String → RecordStore α → Prop
  | write (item : α) (reading : Int64) (tag : Nat) (hleft : s.lastStamp < RecordName.lastStamp) :
      Step s (s.write item (stampTime reading) tag).2.toOption.toList
        (s.write item (stampTime reading) tag).1
  | claim {names : List String} {t : RecordStore α} (h : s.claim = .ok (names, t)) : Step s [] t
  | cancel (names : List String) : Step s [] (s.cancel names)
  | delete (names : List String) : Step s [] (s.delete names)
  | reopen {kind : PayloadKind} {limit : Nat} {t : RecordStore α}
      (h : openAt kind limit s.place = .ok t) : Step s [] t

/-- A store since it was opened on a directory whose records have names of its own form, with
what the directory still has of the records that were found there, in the order of their names,
and of those that were written, in the order of writing. -/
inductive Chronicled : RecordStore α → List String → List String → Prop
  | opened {kind : PayloadKind} {limit : Nat} {place : Place} {f : Folder} {s : RecordStore α}
      {old : List String} (hf : place.makeFolder = some f)
      (hold : ∀ name, name ∈ old ↔ (f.get? name).isSome ∧ RecordName.isRecord name = true)
      (sorted : old.Pairwise (· < ·)) (own : ∀ name ∈ old, RecordName.OwnForm name)
      (h : openAt kind limit place = .ok s) : Chronicled s old []
  | step {s t : RecordStore α} {old new wrote : List String} (before : Chronicled s old new)
      (h : Step s wrote t) : Chronicled t (t.present old) (t.present (new ++ wrote))

/-! ## What a step does to the records -/

namespace Step

/-- No record appears but what is written. -/
theorem appears (h : Step s wrote t) {name : String} (hname : name ∈ t.names) :
    name ∈ s.names ∨ name ∈ wrote := by
  cases h with
  | write item reading tag hleft =>
    rcases mem_names_of_write hname with hold | hnew
    · exact .inl hold
    · rw [hnew]
      exact .inr List.mem_cons_self
  | claim h =>
    obtain ⟨-, rfl⟩ := claim_eq_ok h
    exact .inl hname
  | cancel names => exact .inl hname
  | delete names => exact .inl (mem_names_of_delete hname)
  | reopen h =>
    obtain ⟨f, hf, rfl⟩ := openAt_eq_ok h
    rw [names_of_folder rfl, Folder.records_tidy] at hname
    cases hplace : s.place with
    | nothing =>
      rw [hplace] at hf
      obtain rfl := Option.some.inj hf
      cases hname
    | file =>
      rw [hplace] at hf
      cases hf
    | folder g =>
      rw [hplace] at hf
      obtain rfl := Option.some.inj hf
      exact .inl (names_of_folder hplace ▸ hname)

/-- What is written bears the name of a record. -/
theorem isRecord_of_wrote (h : Step s wrote t) (hs : Dated s) :
    ∀ name ∈ wrote, RecordName.isRecord name = true := by
  cases h with
  | write item reading tag hleft =>
    obtain ⟨f, hf⟩ := hs.folder
    rw [write_of_folder hf]
    intro name hname
    obtain rfl := List.mem_singleton.1 hname
    exact s.isRecord_newName (stampTime_le reading) tag
  | _ => exact fun _ hname => nomatch hname

/-- What is written comes after all that is there. -/
theorem comes_after (h : Step s wrote t) (hs : Dated s) :
    (s.names ++ wrote).Pairwise (· < ·) := by
  cases h with
  | write item reading tag hleft =>
    obtain ⟨f, hf⟩ := hs.folder
    rw [write_of_folder hf]
    apply List.pairwise_append.2
    refine ⟨s.names_pairwise, List.pairwise_singleton _ _, ?_⟩
    intro name hname later hlater
    obtain rfl := List.mem_singleton.1 hlater
    exact hs.lt_newName hleft (stampTime_le reading) tag hname
  | _ => simpa using s.names_pairwise

/-- Stamps never go back, and every new record bears the last one. -/
theorem dated (h : Step s wrote t) (hs : Dated s) : Dated t := by
  cases h with
  | write item reading tag hleft =>
    obtain ⟨f, hf⟩ := hs.folder
    have hwritten := write_of_folder hf item (stampTime reading) tag
    have hlast : (s.write item (stampTime reading) tag).1.lastStamp =
        RecordName.stampAfter s.lastStamp (stampTime reading) := by
      rw [hwritten, placed_of_folder hf, prune_of_folder rfl]
    refine ⟨?_, ?_, ?_⟩
    · rw [hwritten, placed_of_folder hf, prune_of_folder rfl]
      exact ⟨_, rfl⟩
    · intro name hname
      rw [hlast]
      rcases (Step.write item reading tag hleft).appears hname with hold | hnew
      · obtain ⟨stamp, hle, hstamp⟩ := hs.stamped name hold
        have hlater := RecordName.le_stampAfter hs.last_le (stampTime reading)
        exact ⟨stamp, Nat.le_trans hle hlater, hstamp⟩
      · rw [hwritten] at hnew
        obtain rfl := List.mem_singleton.1 hnew
        exact ⟨_, Nat.le_refl _, RecordName.hasStamp_ofStamp _ tag⟩
    · rw [hlast]
      exact RecordName.stampAfter_le (stampTime_le reading)
  | claim h =>
    obtain ⟨-, rfl⟩ := claim_eq_ok h
    exact ⟨hs.folder, hs.stamped, hs.last_le⟩
  | cancel names => exact ⟨hs.folder, hs.stamped, hs.last_le⟩
  | delete names =>
    obtain ⟨f, hf⟩ := hs.folder
    have hdeleted := delete_of_folder hf names
    refine ⟨⟨_, by rw [hdeleted]⟩, ?_, by rw [hdeleted]; exact hs.last_le⟩
    intro name hname
    have hold := ((Step.delete names).appears hname).resolve_right (by simp)
    rw [hdeleted]
    exact hs.stamped name hold
  | reopen h =>
    obtain ⟨f, hf⟩ := hs.folder
    have hmake : s.place.makeFolder = some f := by
      rw [hf]
      rfl
    apply dated_openAt h hmake
    intro name hname
    rw [← names_of_folder hf] at hname
    obtain ⟨stamp, hle, hstamp⟩ := hs.stamped name hname
    exact ⟨stamp, Nat.le_trans hle hs.last_le, hstamp⟩

end Step

/-! ## The order of records -/

theorem Chronicled.dated (h : Chronicled s old new) : Dated s := by
  induction h with
  | opened hf hold _ own h =>
    apply dated_openAt h hf
    intro name hname
    have hrecord := Folder.mem_records.1 hname
    exact (own name ((hold name).2 hrecord)).hasStamp hrecord.2
  | step _ h ih => exact h.dated ih

/-- The records are those that are left, in this very order. -/
theorem Chronicled.names_eq (h : Chronicled s old new) : s.names = old ++ new := by
  induction h with
  | @opened kind limit place f s old hf hold sorted _ h =>
    obtain ⟨g, hg, rfl⟩ := openAt_eq_ok h
    obtain rfl : f = g := Option.some.inj (hf.symm.trans hg)
    rw [names_of_folder rfl, Folder.records_tidy, List.append_nil]
    exact Folder.eq_of_mem_iff (Folder.records_pairwise f) sorted fun name =>
      Folder.mem_records.trans (hold name).symm
  | @step s t old new wrote before h ih =>
    have hup : (t.present (s.names ++ wrote)).Pairwise (· < ·) :=
      (h.comes_after before.dated).filter _
    have hleft : t.present old ++ t.present (new ++ wrote) = t.present (s.names ++ wrote) := by
      simp [present, ih]
    rw [hleft]
    apply Folder.eq_of_mem_iff t.names_pairwise hup
    intro name
    rw [mem_present, List.mem_append]
    constructor
    · intro hname
      exact ⟨h.appears hname, (mem_names.1 hname).1⟩
    · rintro ⟨hold | hwrote, hthere⟩
      · exact mem_names.2 ⟨hthere, (mem_names.1 hold).2⟩
      · exact mem_names.2 ⟨hthere, h.isRecord_of_wrote before.dated name hwrote⟩

/-! ## The law -/

/-- A store lists all records that the directory still has: first those that were found when it
was opened, and after them those that it wrote since, in the order of writing. No name is listed
twice, and a record that is written gets a name of the store's own form that no record has and that
comes after all of them. -/
theorem records_are_listed_in_the_order_they_were_written {s : RecordStore α}
    {old new : List String} (h : Chronicled s old new) :
    s.enumerate = .ok (old ++ new) ∧ (old ++ new).Nodup ∧
      ∀ (item : α) (reading : Int64) (tag : Nat), s.lastStamp < RecordName.lastStamp →
        ∃ name, (s.write item (stampTime reading) tag).2 = .ok name ∧
          RecordName.OwnForm name ∧ name ∉ old ++ new ∧ ∀ other ∈ old ++ new, other < name := by
  obtain ⟨f, hf⟩ := h.dated.folder
  rw [← h.names_eq]
  refine ⟨enumerate_of_folder hf, s.nodup_names, ?_⟩
  intro item reading tag hleft
  have hafter : ∀ other ∈ s.names, other < s.newName (stampTime reading) tag :=
    fun other hother => h.dated.lt_newName hleft (stampTime_le reading) tag hother
  refine ⟨s.newName (stampTime reading) tag, by rw [write_of_folder hf],
    RecordName.ownForm_ofStamp (s.newStamp_le reading) tag, ?_, hafter⟩
  intro hmem
  exact String.lt_irrefl _ (hafter _ hmem)

/-- A directory with one record, whose name has the form that a store gives. -/
def foundFolder : Folder := Dict.empty.insert "00000000000000000005_found.json" (.file (.text ""))

/-- The store that is opened there. -/
def foundStore : RecordStore Json :=
  { kind := .event, limit := 9, lastStamp := 5, place := .folder foundFolder }

/-- One record is written while the clock is before 1970, and one with the same tag after the
store was opened again, while the clock is still behind the stamps. Both are listed after the
record that was there, in the order of writing. -/
theorem records_stay_in_order_under_a_slow_clock :
    ∃ (s : RecordStore Json) (old new : List String), Chronicled s old new ∧
      s.enumerate = .ok ["00000000000000000005_found.json", RecordName.ofStamp 6 0,
        RecordName.ofStamp 7 0] := by
  have hown : ∀ name ∈ foundFolder.records, RecordName.OwnForm name := by
    intro name hname
    obtain rfl : name = "00000000000000000005_found.json" := List.mem_singleton.1 hname
    exact ⟨"00000000000000000005".toList, "found".toList, rfl, List.all_eq_true.1 rfl, rfl⟩
  have hopened : openAt .event 9 (.folder foundFolder) = .ok foundStore := by
    rfl
  have hfound : Chronicled foundStore foundFolder.records [] :=
    .opened rfl (fun _ => Folder.mem_records) (Folder.records_pairwise foundFolder) hown hopened
  have hfirst := hfound.step (.write (.nat 1) (-7) 0 (by decide))
  have hagain := hfirst.step (@Step.reopen _ _ _ .event 4 _ rfl)
  have hsecond := hagain.step (.write (.nat 2) 3 0 (by decide))
  obtain ⟨hlist, -, -⟩ := records_are_listed_in_the_order_they_were_written hsecond
  exact ⟨_, _, _, hsecond, hlist⟩

end CrashReporter.RecordStore
