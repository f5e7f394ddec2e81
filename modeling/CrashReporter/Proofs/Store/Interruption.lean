import CrashReporter.Proofs.Store.Calls
import CrashReporter.Proofs.Store.Orderly

-- Writing that is interrupted. A record is saved in an unfinished file, which shows nowhere, and
-- then takes its name in one step. Wherever writing stops, a directory that is opened again has
-- the records it had and the new one with all it holds, or it has the new one not at all.

namespace CrashReporter

/-! ## Bytes -/

namespace Content

def toBytes : Content → List UInt8
  | .text t => t.toUTF8.data.toList
  | .bytes b => b

theorem ofBytes_toUTF8 (t : String) : ofBytes t.toUTF8.data.toList = .text t := by
  simp [ofBytes, String.fromUTF8?, String.toUTF8, t.isValidUTF8, String.fromUTF8]

theorem toBytes_ofBytes (bytes : List UInt8) : (ofBytes bytes).toBytes = bytes := by
  unfold ofBytes String.fromUTF8?
  split
  · next h =>
    split at h
    · obtain rfl := Option.some.inj h
      simp [toBytes, String.fromUTF8, String.toUTF8]
    · cases h
  · rfl

end Content

/-! ## Steps on a directory -/

/-- A single step on the files of a directory. -/
inductive FileStep
  | create (name : String)
  | append (name : String) (bytes : List UInt8)
  | sync (name : String)
  /-- The file goes by another name from now on, in place of any that had it. -/
  | rename (name target : String)
  | remove (name : String)
deriving DecidableEq

namespace FileStep

def perform (f : Folder) : FileStep → Folder
  | create name => f.insert name (.file (.ofBytes []))
  | append name bytes =>
    match f.get? name with
    | some (.file content) => f.insert name (.file (.ofBytes (content.toBytes ++ bytes)))
    | _ => f
  | sync _ => f
  | rename name target =>
    match f.get? name with
    | some entry => (f.erase name).insert target entry
    | none => f
  | remove name => f.removeFile name

variable {f : Folder} {name other : String}

theorem get?_append_of_ne (bytes : List UInt8) (h : other ≠ name) :
    (perform f (.append name bytes)).get? other = f.get? other := by
  simp only [perform]
  split
  · rw [Dict.get?_insert, if_neg h]
  · rfl

theorem get?_append {content : Content} (bytes : List UInt8)
    (h : f.get? name = some (.file content)) :
    (perform f (.append name bytes)).get? name =
      some (.file (.ofBytes (content.toBytes ++ bytes))) := by
  simp only [perform, h]
  rw [Dict.get?_insert, if_pos rfl]

theorem get?_rename {entry : Entry} (target : String) (h : f.get? name = some entry) :
    (perform f (.rename name target)).get? other =
      if other = target then some entry else if other = name then none else f.get? other := by
  simp only [perform, h]
  rw [Dict.get?_insert, Dict.get?_erase]

end FileStep

namespace Folder

variable {f : Folder} {temp name : String}

def perform (f : Folder) (steps : List FileStep) : Folder := steps.foldl FileStep.perform f

theorem perform_append (f : Folder) (steps more : List FileStep) :
    f.perform (steps ++ more) = (f.perform steps).perform more := List.foldl_append

theorem perform_remove (f : Folder) (gone : List String) :
    f.perform (gone.map .remove) = gone.foldl removeFile f := by
  unfold perform
  rw [List.foldl_map]
  rfl

/-! ## Saving -/

/-- The steps that save bytes in an unfinished file, so many at a time. -/
def savingSteps (temp : String) (pieces : List (List UInt8)) : List FileStep :=
  .create temp :: pieces.map (.append temp) ++ [.sync temp]

/-- What saves to a file touches no other. -/
theorem get?_perform_saving {pieces : List (List UInt8)} {steps : List FileStep}
    (h : ∀ step ∈ steps, step ∈ savingSteps temp pieces) (f : Folder) (hne : name ≠ temp) :
    (f.perform steps).get? name = f.get? name := by
  induction steps generalizing f with
  | nil => rfl
  | cons step rest ih =>
    have hrest := ih (fun other hother => h other (List.mem_cons_of_mem _ hother)) (step.perform f)
    have hstep : (step.perform f).get? name = f.get? name := by
      have hsaves := h step List.mem_cons_self
      simp only [savingSteps, List.mem_append, List.mem_cons, List.mem_map, List.not_mem_nil,
        or_false] at hsaves
      rcases hsaves with (rfl | ⟨bytes, -, rfl⟩) | rfl
      · exact (Dict.get?_insert _ _ _ _).trans (if_neg hne)
      · exact FileStep.get?_append_of_ne bytes hne
      · rfl
    exact hrest.trans hstep

/-- What was appended piece by piece follows what the file held. -/
theorem get?_perform_appends (pieces : List (List UInt8)) {bytes : List UInt8}
    (h : f.get? temp = some (.file (.ofBytes bytes))) :
    (f.perform (pieces.map (.append temp))).get? temp =
      some (.file (.ofBytes (bytes ++ pieces.flatten))) := by
  induction pieces generalizing f bytes with
  | nil => simpa [perform] using h
  | cons piece rest ih =>
    have hstep := FileStep.get?_append piece h
    rw [Content.toBytes_ofBytes] at hstep
    have hrest := ih hstep
    rw [List.append_assoc] at hrest
    exact hrest

theorem get?_perform_savingSteps (f : Folder) (temp : String) (pieces : List (List UInt8)) :
    (f.perform (savingSteps temp pieces)).get? temp =
      some (.file (.ofBytes pieces.flatten)) := by
  have hcreated : (FileStep.perform f (.create temp)).get? temp = some (.file (.ofBytes [])) :=
    (Dict.get?_insert _ _ _ _).trans (if_pos rfl)
  have happended := get?_perform_appends pieces hcreated
  rw [savingSteps, perform_append]
  exact happended

/-! ## Unfinished files -/

variable {entry : Entry}

theorem get?_insert_unfinished (htemp : RecordName.isUnfinished temp = true)
    (hname : RecordName.isRecord name = true) : (f.insert temp entry).get? name = f.get? name := by
  rw [Dict.get?_insert, if_neg (RecordName.ne_of_isRecord hname htemp)]

/-- An unfinished file is no record. -/
theorem records_insert_unfinished (htemp : RecordName.isUnfinished temp = true) :
    records (f.insert temp entry) = f.records := by
  apply eq_of_mem_iff (records_pairwise _) (records_pairwise _)
  intro x
  rw [mem_records, mem_records]
  constructor
  · rintro ⟨hthere, hrecord⟩
    rw [get?_insert_unfinished htemp hrecord] at hthere
    exact ⟨hthere, hrecord⟩
  · rintro ⟨hthere, hrecord⟩
    rw [get?_insert_unfinished htemp hrecord]
    exact ⟨hthere, hrecord⟩

/-- Tidying takes the unfinished files and nothing else. -/
theorem get?_tidy_eq (f : Folder) (name : String) :
    f.tidy.get? name =
      if RecordName.isUnfinished name = true ∧ f.get? name ≠ some .folder then none
      else f.get? name := by
  rw [tidy, get?_foldl_removeFile]
  by_cases hunfinished : RecordName.isUnfinished name = true
  · cases hthere : f.get? name with
    | none => simp
    | some entry =>
      have hkey : name ∈ f.keys := Dict.mem_keys.2 (by rw [hthere]; rfl)
      simp [hunfinished, hkey]
  · simp [hunfinished]

end Folder

namespace RecordStore

open Folder (savingSteps)

variable {α : Type} {s : RecordStore α} {f : Folder} {temp name : String}

/-! ## Unfinished files in a store -/

/-- What pruning takes is the same with an unfinished file there. -/
theorem surplus_insert_unfinished (htemp : RecordName.isUnfinished temp = true) (entry : Entry) :
    s.surplus (f.insert temp entry) = s.surplus f := by
  unfold surplus Folder.removable
  rw [Folder.records_insert_unfinished htemp]
  congr 1
  apply List.filter_congr
  intro name hname
  have hrecord := (Folder.mem_records.1 (mem_unclaimed.1 hname).1).2
  rw [Folder.get?_insert_unfinished htemp hrecord]

/-- Listing, claiming and retention go on as if an unfinished file were not there. -/
theorem unfinished_is_not_seen (s : RecordStore α) (htemp : RecordName.isUnfinished temp = true)
    (entry : Entry) :
    (s.change fun f => f.insert temp entry).enumerate = s.enumerate ∧
      (s.change fun f => f.insert temp entry).claim.map Prod.fst = s.claim.map Prod.fst ∧
      (s.change fun f => f.insert temp entry).prune.enumerate = s.prune.enumerate := by
  cases hplace : s.place with
  | nothing => simp [change, hplace]
  | file => simp [change, hplace]
  | folder f =>
    have hrecords : Folder.records (f.insert temp entry) = f.records :=
      Folder.records_insert_unfinished htemp
    have hpruned : (s.pruned (f.insert temp entry)).records = (s.pruned f).records := by
      apply Folder.eq_of_mem_iff (Folder.records_pairwise _) (Folder.records_pairwise _)
      intro name
      rw [mem_records_pruned, mem_records_pruned, surplus_insert_unfinished htemp, hrecords]
    have hchange : (s.change fun f => f.insert temp entry) =
        { s with place := .folder (f.insert temp entry) } := by
      simp [change, hplace]
    have hlist : (s.change fun f => f.insert temp entry).enumerate = s.enumerate := by
      rw [hchange, enumerate_of_folder rfl, enumerate_of_folder hplace, names_of_folder rfl,
        names_of_folder hplace, hrecords]
    refine ⟨hlist, ?_, ?_⟩
    · unfold claim
      rw [hlist]
      simp only [enumerate, hplace, Place.folder?, Except.map, unclaimed, reserved_change]
    · rw [hchange, prune_of_folder rfl, prune_of_folder hplace, enumerate_of_folder rfl,
        enumerate_of_folder rfl, names_of_folder rfl, names_of_folder rfl]
      exact congrArg Except.ok hpruned

/-- Opening takes the unfinished files away, unless they are directories, and lists the records
that are there. -/
theorem openAt_folder (kind : PayloadKind) (limit : Nat) (f : Folder) :
    ∃ t : RecordStore α, openAt kind limit (.folder f) = .ok t ∧ t.enumerate = .ok f.records ∧
      ∀ name, t.found? name =
        if RecordName.isUnfinished name = true ∧ f.get? name ≠ some .folder then none
        else f.get? name := by
  refine ⟨_, rfl, ?_, ?_⟩
  · rw [enumerate_of_folder rfl, names_of_folder rfl, Folder.records_tidy]
  · intro name
    rw [found?_of_folder rfl, Folder.get?_tidy_eq]

/-! ## Writing, step by step -/

variable [Storable α] {item : α} {now tag : Nat} {pieces : List (List UInt8)}

/-- The steps of writing: the record is saved, it takes its name, and old records go. -/
def writingSteps (s : RecordStore α) (f : Folder) (item : α) (now tag : Nat) (temp : String)
    (pieces : List (List UInt8)) : List FileStep :=
  savingSteps temp pieces ++
    .rename temp (s.newName now tag) :: (s.surplus (s.folderWith f item now tag)).map .remove

/-- The entry of the record of an item. -/
def recordEntry (s : RecordStore α) (item : α) : Entry := .file (.text (s.recordText item))

/-- What is there once the record has its name, and some old records are gone. -/
theorem get?_perform_renamed (htemp : RecordName.isUnfinished temp = true)
    (hbytes : pieces.flatten = (s.recordText item).toUTF8.data.toList) {gone : List String}
    (hgone : gone <+: s.surplus (s.folderWith f item now tag)) (name : String) :
    (f.perform (savingSteps temp pieces ++
        .rename temp (s.newName now tag) :: gone.map .remove)).get? name =
      if name ∈ gone then none
      else if name = s.newName now tag then some (s.recordEntry item)
      else if name = temp then none else f.get? name := by
  have hsaved := Folder.get?_perform_savingSteps f temp pieces
  rw [hbytes, Content.ofBytes_toUTF8] at hsaved
  have hrenamed : (FileStep.perform (f.perform (savingSteps temp pieces))
      (.rename temp (s.newName now tag))).get? name =
        if name = s.newName now tag then some (s.recordEntry item)
        else if name = temp then none else f.get? name := by
    rw [FileStep.get?_rename (s.newName now tag) hsaved]
    by_cases hne : name = temp
    · rw [if_pos hne, if_pos hne]
      rfl
    · rw [Folder.get?_perform_saving (fun _ h => h) f hne]
      rfl
  rw [Folder.perform_append]
  show (Folder.perform (FileStep.perform _ _) (gone.map .remove)).get? name = _
  rw [Folder.perform_remove, Folder.get?_foldl_removeFile, hrenamed]
  by_cases hmem : name ∈ gone
  · -- Retention picked it, so it is a record and no directory.
    have hpicked := List.mem_filter.1 (List.mem_of_mem_take (hgone.subset hmem))
    have hrecord := (Folder.mem_records.1 (mem_unclaimed.1 hpicked.1).1).2
    have hfile := hpicked.2
    simp only [folderWith, Dict.get?_insert, bne_iff_ne] at hfile
    rw [if_neg (RecordName.ne_of_isRecord hrecord htemp), if_pos ⟨hmem, hfile⟩, if_pos hmem]
  · rw [if_neg (fun h => hmem h.1), if_neg hmem]

/-! ## Writing that stops -/

theorem rename_not_mem_savingSteps (target : String) :
    FileStep.rename temp target ∉ savingSteps temp pieces := by
  simp [savingSteps]

theorem remove_not_mem_savingSteps (gone : String) :
    FileStep.remove gone ∉ savingSteps temp pieces := by
  simp [savingSteps]

/-- Writing stops while the record is saved, or with the record in place and some old ones
gone. -/
theorem prefix_writingSteps {done : List FileStep}
    (h : done <+: s.writingSteps f item now tag temp pieces) :
    done <+: savingSteps temp pieces ∨
      ∃ gone, gone <+: s.surplus (s.folderWith f item now tag) ∧
        done = savingSteps temp pieces ++ .rename temp (s.newName now tag) :: gone.map .remove := by
  rcases Nat.le_total done.length (savingSteps temp pieces).length with hshort | hlong
  · exact .inl (List.prefix_of_prefix_length_le h (List.prefix_append _ _) hshort)
  · obtain ⟨rest, rfl⟩ :=
      List.prefix_of_prefix_length_le (List.prefix_append _ _) h hlong
    have hrest := (List.prefix_append_right_inj _).1 h
    cases rest with
    | nil => exact .inl (by simp)
    | cons step removals =>
      obtain ⟨rfl, hremovals⟩ := List.cons_prefix_cons.1 hrest
      obtain ⟨gone, hgone, rfl⟩ := List.prefix_map_iff.1 hremovals
      exact .inr ⟨gone, hgone, rfl⟩

/-- What is left of the directory when writing stops after these steps. If a step failed before
the record had its name, the unfinished file may have been taken away. -/
def Leaves (f : Folder) (temp name : String) (done : List FileStep) (left : Folder) : Prop :=
  left = f.perform done ∨
    .rename temp name ∉ done ∧ left = (f.perform done).removeFile temp

theorem get?_of_leaves (htemp : RecordName.isUnfinished temp = true)
    (hbytes : pieces.flatten = (s.recordText item).toUTF8.data.toList) {done : List FileStep}
    {left : Folder} (hdone : done <+: s.writingSteps f item now tag temp pieces)
    (hleft : Leaves f temp (s.newName now tag) done left)
    (hname : RecordName.isRecord name = true) :
    left.get? name =
      if .remove name ∈ done then none
      else if name = s.newName now tag ∧ .rename temp (s.newName now tag) ∈ done then
        some (s.recordEntry item)
      else f.get? name := by
  have hne := RecordName.ne_of_isRecord hname htemp
  rcases prefix_writingSteps hdone with hsaving | ⟨gone, hgone, rfl⟩
  · have hremove : FileStep.remove name ∉ done :=
      fun hmem => remove_not_mem_savingSteps name (hsaving.subset hmem)
    have hrename : FileStep.rename temp (s.newName now tag) ∉ done :=
      fun hmem => rename_not_mem_savingSteps _ (hsaving.subset hmem)
    rw [if_neg hremove, if_neg (fun h => hrename h.2)]
    have hkept := Folder.get?_perform_saving (fun _ h => hsaving.subset h) f hne
    rcases hleft with rfl | ⟨-, rfl⟩
    · exact hkept
    · rw [Folder.get?_removeFile, if_neg (fun h => hne h.1), hkept]
  · have hrename : FileStep.rename temp (s.newName now tag) ∈
        savingSteps temp pieces ++ .rename temp (s.newName now tag) :: gone.map .remove := by
      simp
    have hremove : FileStep.remove name ∈
        savingSteps temp pieces ++ .rename temp (s.newName now tag) :: gone.map .remove ↔
          name ∈ gone := by
      simp [remove_not_mem_savingSteps]
    rcases hleft with rfl | ⟨hnot, -⟩
    · rw [get?_perform_renamed htemp hbytes hgone, if_neg hne]
      simp only [hremove, hrename, and_true]
    · exact absurd hrename hnot

/-- Old records go only once the new one has its name. -/
theorem rename_mem_of_remove_mem {done : List FileStep}
    (hdone : done <+: s.writingSteps f item now tag temp pieces)
    (hremove : .remove name ∈ done) : .rename temp (s.newName now tag) ∈ done := by
  rcases prefix_writingSteps hdone with hsaving | ⟨gone, -, rfl⟩
  · exact absurd (hsaving.subset hremove) (remove_not_mem_savingSteps name)
  · simp

/-- All steps together are writing. -/
theorem get?_perform_writingSteps (hplace : s.place = .folder f)
    (htemp : RecordName.isUnfinished temp = true) (hfree : f.get? temp = none)
    (hbytes : pieces.flatten = (s.recordText item).toUTF8.data.toList) (name : String) :
    (f.perform (s.writingSteps f item now tag temp pieces)).get? name =
      (s.write item now tag).1.found? name := by
  have hwritten : (s.write item now tag).1.found? name =
      if name ∈ s.surplus (s.folderWith f item now tag) then none
      else if name = s.newName now tag then some (s.recordEntry item) else f.get? name := by
    rw [write_of_folder hplace, placed_of_folder hplace, prune_of_folder rfl,
      found?_of_folder rfl, get?_pruned, Dict.get?_insert]
    rfl
  rw [hwritten, writingSteps, get?_perform_renamed htemp hbytes (List.prefix_refl _)]
  by_cases hname : name = temp
  · rw [if_pos hname, hname, hfree]
  · rw [if_neg hname]

/-- The records that are there when writing stops: those that were there and the new one, if it
has its name, less those that went. -/
theorem mem_records_of_leaves (hplace : s.place = .folder f)
    (htemp : RecordName.isUnfinished temp = true)
    (hbytes : pieces.flatten = (s.recordText item).toUTF8.data.toList)
    (hnew : RecordName.isRecord (s.newName now tag) = true) {done : List FileStep} {left : Folder}
    (hdone : done <+: s.writingSteps f item now tag temp pieces)
    (hleft : Leaves f temp (s.newName now tag) done left) (name : String) :
    name ∈ left.records ↔
      (name ∈ s.names ∨ name = s.newName now tag ∧ .rename temp (s.newName now tag) ∈ done) ∧
        .remove name ∉ done := by
  rw [Folder.mem_records, names_of_folder hplace, Folder.mem_records]
  constructor
  · rintro ⟨hthere, hrecord⟩
    rw [get?_of_leaves htemp hbytes hdone hleft hrecord] at hthere
    split at hthere
    · cases hthere
    · next hkept =>
      refine ⟨?_, hkept⟩
      split at hthere
      · next hwritten => exact .inr hwritten
      · exact .inl ⟨hthere, hrecord⟩
  · rintro ⟨hsource, hkept⟩
    have hrecord : RecordName.isRecord name = true := by
      rcases hsource with ⟨-, hrecord⟩ | ⟨rfl, -⟩
      · exact hrecord
      · exact hnew
    refine ⟨?_, hrecord⟩
    rw [get?_of_leaves htemp hbytes hdone hleft hrecord, if_neg hkept]
    split
    · rfl
    · next hold => exact (hsource.resolve_right hold).1

/-! ## The law -/

/-- Writing is all or nothing. Its steps save the record in a file of an unfinished name, whatever
the pieces in which the bytes get there, and give it its own name, which no record had. Wherever
it stops, or fails before the record has its name, the directory that is opened again lists the
records that were there, each as it was, and the new one with all it holds if and only if it had
its name, less those that were removed by then; and none is removed before that. What is left of
an unfinished file, whatever it holds, is not listed, not claimed and not counted among the records
that are kept; opening takes it away if it is a file, and takes nothing else. -/
theorem an_interrupted_write_is_all_or_nothing {past : List (Deed α)} (h : History past s)
    (hplace : s.place = .folder f) (item : α) (reading : Int64) (tag : Nat)
    (distinct : Distinct past s (.write item reading tag)) (temp : String)
    (htemp : RecordName.isUnfinished temp = true) (hfree : f.get? temp = none)
    (pieces : List (List UInt8))
    (hbytes : pieces.flatten = (s.recordText item).toUTF8.data.toList) :
    (∃ name, (s.write item (stampTime reading) tag).2 = .ok name ∧ name ∉ s.names ∧
      (∀ k, (f.perform (s.writingSteps f item (stampTime reading) tag temp pieces)).get? k =
        (s.write item (stampTime reading) tag).1.found? k) ∧
      ∀ done left, done <+: s.writingSteps f item (stampTime reading) tag temp pieces →
        Leaves f temp name done left → ∀ kind limit, ∃ (t : RecordStore α) (records : List String),
          openAt kind limit (.folder left) = .ok t ∧ t.enumerate = .ok records ∧
          (∀ k, k ∈ records ↔
            (k ∈ s.names ∨ k = name ∧ .rename temp name ∈ done) ∧ .remove k ∉ done) ∧
          (∀ k ∈ records,
            t.found? k = if k = name then some (s.recordEntry item) else s.found? k) ∧
          ∀ k, .remove k ∈ done → .rename temp name ∈ done) ∧
    (∀ (entry : Entry) (u : RecordStore α),
      (u.change fun g => g.insert temp entry).enumerate = u.enumerate ∧
      (u.change fun g => g.insert temp entry).claim.map Prod.fst = u.claim.map Prod.fst ∧
      (u.change fun g => g.insert temp entry).prune.enumerate = u.prune.enumerate) ∧
    ∀ (g : Folder) (kind : PayloadKind) (limit : Nat), ∃ t : RecordStore α,
      openAt kind limit (.folder g) = .ok t ∧ ∀ k, t.found? k =
        if RecordName.isUnfinished k = true ∧ g.get? k ≠ some .folder then none else g.get? k := by
  have hrecord := s.isRecord_newName (stampTime_le reading) tag
  have hnew : s.newName (stampTime reading) tag ∉ s.names :=
    fun hthere => h.newName_not_known distinct (.inl hthere)
  refine ⟨⟨s.newName (stampTime reading) tag, by rw [write_of_folder hplace], hnew,
    get?_perform_writingSteps hplace htemp hfree hbytes, ?_⟩,
    fun entry u => u.unfinished_is_not_seen htemp entry, ?_⟩
  · intro done left hdone hleft kind limit
    obtain ⟨t, hopened, hlist, hfound⟩ := openAt_folder (α := α) kind limit left
    have hrecords := mem_records_of_leaves hplace htemp hbytes hrecord hdone hleft
    refine ⟨t, left.records, hopened, hlist, hrecords, ?_,
      fun k hremove => rename_mem_of_remove_mem hdone hremove⟩
    intro k hk
    obtain ⟨hsource, hkept⟩ := (hrecords k).1 hk
    have hkrecord := (Folder.mem_records.1 hk).2
    rw [hfound, if_neg (fun hgone => by simp [RecordName.not_isUnfinished hkrecord] at hgone),
      get?_of_leaves htemp hbytes hdone hleft hkrecord, if_neg hkept, found?_of_folder hplace]
    by_cases hkname : k = s.newName (stampTime reading) tag
    · subst hkname
      have hrenamed := (hsource.resolve_left hnew).2
      rw [if_pos ⟨rfl, hrenamed⟩, if_pos rfl]
    · rw [if_neg (fun hboth => hkname hboth.1), if_neg hkname]
  · intro g kind limit
    obtain ⟨t, hopened, -, hfound⟩ := openAt_folder (α := α) kind limit g
    exact ⟨t, hopened, hfound⟩

/-- The store that is opened on a directory with one record, of which it keeps one. -/
def fullStore : RecordStore Json := { foundStore with limit := 1 }

/-- A second record is written in two pieces, and writing stops when it has its name. Both
records are there when the store is opened again, although writing would have dropped the first,
and the second is there with all it holds. -/
theorem writing_that_stops_before_retention_leaves_both :
    ∃ (left : Folder) (t : RecordStore Json) (records : List String),
      openAt .event 1 (.folder left) = .ok t ∧ t.enumerate = .ok records ∧
      "00000000000000000005_found.json" ∈ records ∧ RecordName.ofStamp 6 0 ∈ records ∧
      t.found? (RecordName.ofStamp 6 0) =
        some (.file (.text "\x7b\"version\":1,\"kind\":\"event\",\"item\":1\x7d")) ∧
      (fullStore.write (.nat 1) 0 0).1.found? "00000000000000000005_found.json" = none := by
  have hopened := @History.opened Json _ .event 1 (.folder foundFolder) fullStore rfl
  let bytes := (fullStore.recordText (.nat 1)).toUTF8.data.toList
  let pieces := [bytes.take 3, bytes.drop 3]
  have hbytes : pieces.flatten = bytes := by simp [pieces]
  obtain ⟨⟨name, hname, -, -, hstops⟩, -, -⟩ :=
    an_interrupted_write_is_all_or_nothing hopened rfl (.nat 1) 0 0 (.inl (by decide))
      ".tmp-a.json" (by decide) (by decide) pieces hbytes
  obtain rfl : RecordName.ofStamp 6 0 = name := Except.ok.inj hname
  let done := savingSteps ".tmp-a.json" pieces ++
    [.rename ".tmp-a.json" (RecordName.ofStamp 6 0)]
  have hdone : done <+: fullStore.writingSteps foundFolder (.nat 1) 0 0 ".tmp-a.json" pieces :=
    (List.prefix_append_right_inj _).2 (List.cons_prefix_cons.2 ⟨rfl, List.nil_prefix⟩)
  obtain ⟨t, records, ht, hlist, hrecords, hfound, -⟩ :=
    hstops done (foundFolder.perform done) hdone (.inl rfl) .event 1
  have hnone : ∀ k, FileStep.remove k ∉ done := by simp [done, savingSteps]
  have hold : "00000000000000000005_found.json" ∈ records :=
    (hrecords _).2 ⟨.inl (by decide), hnone _⟩
  have hnew : RecordName.ofStamp 6 0 ∈ records :=
    (hrecords _).2 ⟨.inr ⟨rfl, by simp [done]⟩, hnone _⟩
  refine ⟨_, t, records, ht, hlist, hold, hnew, ?_, by decide⟩
  rw [hfound _ hnew, if_pos rfl]
  rfl

end RecordStore

end CrashReporter
