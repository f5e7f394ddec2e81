import CrashReporter.Proofs.Store.Durability
import Mathlib.Data.Multiset.Filter

-- What the records of a store hold, taken together. Writing adds one item and loses what
-- pruning takes, deleting a record loses its item, and nothing else changes anything.

namespace CrashReporter.RecordStore

variable {α : Type} [Storable α] {s : RecordStore α} {f : Folder}

/-! ## Reading -/

/-- What is read under a name depends only on what is there, and on the kind. -/
theorem read_congr {t : RecordStore α} (hkind : t.kind = s.kind) {name : String}
    (h : t.found? name = s.found? name) : t.read name = s.read name := by
  unfold found? at h
  unfold read accept
  rw [h, hkind]

/-- The item reads back from the record that the store makes of it. -/
def Legible (s : RecordStore α) (item : α) : Prop :=
  parse (.text (s.recordText item)) = .ok ⟨StoredRecord.currentVersion, s.kind, item⟩

theorem Legible.congr {item : α} (h : s.Legible item) {t : RecordStore α}
    (hkind : t.kind = s.kind) : t.Legible item := by
  unfold Legible recordText
  rw [hkind]
  exact h

theorem Legible.read_eq {item : α} (h : s.Legible item) {t : RecordStore α}
    (hkind : t.kind = s.kind) {name : String}
    (hfound : t.found? name = some (.file (.text (s.recordText item)))) :
    t.read name = .ok item := by
  have hparse : parse (.text (s.recordText item)) =
      .ok (⟨StoredRecord.currentVersion, s.kind, item⟩ : StoredRecord α) := h
  unfold found? at hfound
  unfold read
  rw [hfound]
  simp only [hparse, bind, Except.bind]
  unfold accept
  rw [if_neg (by simp), if_neg (by simp [hkind])]

/-! ## Items -/

/-- The items of some records, as far as they can be read. -/
def itemsOf (s : RecordStore α) (names : List String) : Multiset α :=
  ↑(names.filterMap fun name => (s.read name).toOption)

/-- The items of all records. -/
def items (s : RecordStore α) : Multiset α := s.itemsOf s.names

/-- The items of the records that pruning takes away when another is written. -/
def evicted (s : RecordStore α) (item : α) (now tag : Nat) : Multiset α :=
  let placed := s.placed item now tag
  placed.itemsOf (placed.names.filter fun name => name ∉ placed.prune.names)

theorem itemsOf_congr {t : RecordStore α} {names : List String}
    (h : ∀ name ∈ names, t.read name = s.read name) : t.itemsOf names = s.itemsOf names := by
  unfold itemsOf
  rw [List.filterMap_congr fun name hname => by rw [h name hname]]

theorem itemsOf_perm (s : RecordStore α) {names more : List String} (h : names.Perm more) :
    s.itemsOf names = s.itemsOf more :=
  Multiset.coe_eq_coe.2 (h.filterMap _)

theorem itemsOf_append (s : RecordStore α) (names more : List String) :
    s.itemsOf (names ++ more) = s.itemsOf names + s.itemsOf more := by
  unfold itemsOf
  rw [List.filterMap_append, Multiset.coe_add]

theorem itemsOf_cons {name : String} {item : α} (h : s.read name = .ok item)
    (names : List String) : s.itemsOf (name :: names) = item ::ₘ s.itemsOf names := by
  unfold itemsOf
  rw [List.filterMap_cons_some (by rw [h]; rfl), Multiset.cons_coe]

/-- The items of records that were all read. -/
theorem itemsOf_read {found : List (String × α)} (h : ∀ e ∈ found, s.read e.1 = .ok e.2) :
    s.itemsOf (found.map (·.1)) = ↑(found.map (·.2)) := by
  induction found with
  | nil => rfl
  | cons e rest ih =>
    rw [List.map_cons, List.map_cons, itemsOf_cons (h e List.mem_cons_self),
      ih fun other hother => h other (List.mem_cons_of_mem _ hother), Multiset.cons_coe]

/-- What can be read under a name is among the items. -/
theorem mem_items {name : String} {item : α} (hname : name ∈ s.names) (h : s.read name = .ok item) :
    item ∈ s.items :=
  Multiset.mem_coe.2 (List.mem_filterMap.2 ⟨name, hname, by rw [h]; rfl⟩)

/-! ## Deleting -/

theorem read_deleteAll {name : String} {gone : List String} (h : name ∉ gone) :
    (s.delete gone).read name = s.read name := by
  refine read_congr (s.kind_delete gone) ?_
  rw [found?_delete, if_neg (by simp [h])]

theorem read_delete {name gone : String} (h : name ≠ gone) :
    (s.delete [gone]).read name = s.read name :=
  read_deleteAll (by simpa using h)

/-- Deleting records loses their items. -/
theorem items_deleteAll (h : Orderly s f) {gone : List String} (hnodup : gone.Nodup)
    (hthere : ∀ name ∈ gone, name ∈ s.names) :
    s.items = s.itemsOf gone + (s.delete gone).items := by
  have hmem := mem_names_deleteAll h gone
  have hnodup' : (gone ++ (s.delete gone).names).Nodup := by
    refine List.nodup_append.2 ⟨hnodup, nodup_names _, ?_⟩
    rintro x hx _ hleft rfl
    exact ((hmem x).1 hleft).2 hx
  have hperm : s.names.Perm (gone ++ (s.delete gone).names) := by
    refine (List.perm_ext_iff_of_nodup s.nodup_names hnodup').2 ?_
    intro x
    rw [List.mem_append, hmem]
    by_cases hx : x ∈ gone
    · simp [hx, hthere x hx]
    · simp [hx]
  have hsame : (s.delete gone).items = s.itemsOf (s.delete gone).names :=
    itemsOf_congr fun x hx => read_deleteAll ((hmem x).1 hx).2
  rw [hsame, items, itemsOf_perm s hperm, itemsOf_append]

/-- Deleting a record that can be read loses its item. -/
theorem items_delete (h : Orderly s f) {name : String} {item : α} (hname : name ∈ s.names)
    (hread : s.read name = .ok item) : s.items = item ::ₘ (s.delete [name]).items := by
  have hthere : ∀ x ∈ [name], x ∈ s.names := by
    intro x hx
    exact List.mem_singleton.1 hx ▸ hname
  rw [items_deleteAll h (List.nodup_singleton name) hthere, itemsOf_cons hread []]
  exact Multiset.singleton_add item _

/-! ## Writing -/

theorem read_placed (h : Orderly s f) (item : α) (now tag : Nat) {name : String}
    (hne : name ≠ s.newName now tag) : (s.placed item now tag).read name = s.read name := by
  refine read_congr ?_ ?_
  · rw [placed_of_folder h.folder]
  · rw [placed_of_folder h.folder, found?_of_folder rfl, found?_of_folder h.folder,
      Dict.get?_insert, if_neg hne]

theorem read_placed_newName (h : Orderly s f) {item : α} (hlegible : s.Legible item)
    (now tag : Nat) : (s.placed item now tag).read (s.newName now tag) = .ok item := by
  refine hlegible.read_eq ?_ ?_
  · rw [placed_of_folder h.folder]
  · rw [placed_of_folder h.folder, found?_of_folder rfl, Dict.get?_insert, if_pos rfl]

/-- What pruning leaves reads as before. -/
theorem read_prune {name : String} (h : Orderly s f) (hname : name ∈ s.prune.names) :
    s.prune.read name = s.read name := by
  rw [(orderly_prune h).names_eq] at hname
  have hnot := ((mem_records_pruned s f name).1 hname).2
  refine read_congr ?_ ?_
  · rw [prune_of_folder h.folder]
  · rw [prune_of_folder h.folder, found?_of_folder rfl, found?_of_folder h.folder, get?_pruned,
      if_neg hnot]

/-- The items of all records are those that pruning leaves and those that it takes. -/
theorem items_prune (h : Orderly s f) :
    s.items = s.prune.items + s.itemsOf (s.names.filter fun name => name ∉ s.prune.names) := by
  have hkept : s.prune.names = s.names.filter fun name => name ∈ s.prune.names := by
    refine Folder.eq_of_mem_iff ?_ ?_ ?_
    · rw [(orderly_prune h).names_eq]
      exact Folder.records_pairwise _
    · rw [h.names_eq]
      exact (Folder.records_pairwise _).filter _
    · intro x
      rw [List.mem_filter, h.names_eq, (orderly_prune h).names_eq, decide_eq_true_eq,
        mem_records_pruned]
      exact ⟨fun hx => ⟨hx.1, hx⟩, fun hx => hx.2⟩
  have hitems : s.prune.items = s.itemsOf s.prune.names :=
    itemsOf_congr fun x hx => read_prune h hx
  have hsplit := List.filter_append_perm (fun name => decide (name ∈ s.prune.names)) s.names
  rw [hitems, items, ← itemsOf_perm s hsplit, itemsOf_append, ← hkept]
  simp

/-- A record that is written adds its item, and pruning takes some. -/
theorem items_write (h : Orderly s f) {item : α} (hlegible : s.Legible item) {now tag : Nat}
    (hnow : now ≤ RecordName.lastStamp) (htag : s.TellsApart tag) :
    item ::ₘ s.items = (s.write item now tag).1.items + s.evicted item now tag := by
  have hnew := newName_not_mem h hnow htag
  have hplaced := orderly_placed h item hnow tag
  have hwrite : (s.write item now tag).1 = (s.placed item now tag).prune := by
    rw [write_of_folder h.folder]
  have hall : (s.placed item now tag).items = item ::ₘ s.items := by
    have hperm := records_folderWith_perm item hnow hnew
    have hsame : (s.placed item now tag).itemsOf f.records = s.itemsOf f.records :=
      itemsOf_congr fun x hx => read_placed h item now tag fun heq => hnew (heq ▸ hx)
    rw [items, hplaced.names_eq, itemsOf_perm _ hperm,
      itemsOf_cons (read_placed_newName h hlegible now tag), hsame, items, h.names_eq]
  rw [← hall, items_prune hplaced, hwrite, evicted]

/-- What is read after a record was written is that record, or is read as before. -/
theorem read_write (h : Orderly s f) {item : α} (hlegible : s.Legible item) {now tag : Nat}
    (hnow : now ≤ RecordName.lastStamp) {name : String}
    (hname : name ∈ (s.write item now tag).1.names) :
    (name = s.newName now tag ∧ (s.write item now tag).1.read name = .ok item) ∨
      (name ≠ s.newName now tag ∧ name ∈ s.names ∧
        (s.write item now tag).1.read name = s.read name) := by
  have hplaced := orderly_placed h item hnow tag
  have hwrite : (s.write item now tag).1 = (s.placed item now tag).prune := by
    rw [write_of_folder h.folder]
  rw [hwrite] at hname ⊢
  rw [read_prune hplaced hname]
  by_cases hnew : name = s.newName now tag
  · subst hnew
    exact .inl ⟨rfl, read_placed_newName h hlegible now tag⟩
  · rw [(orderly_prune hplaced).names_eq, mem_records_pruned, folderWith,
      Folder.mem_records_insert (s.isRecord_newName hnow tag)] at hname
    have hold : name ∈ s.names := h.names_eq ▸ hname.1.resolve_left hnew
    exact .inr ⟨hnew, hold, read_placed h item now tag hnew⟩

/-- A claimed record reads as before after another was written. -/
theorem read_write_reserved (h : Orderly s f) {item : α} (hlegible : s.Legible item)
    {now tag : Nat} (hnow : now ≤ RecordName.lastStamp) (htag : s.TellsApart tag) {name : String}
    (hname : name ∈ s.reserved) : (s.write item now tag).1.read name = s.read name := by
  obtain ⟨g, hg⟩ := orderly_write h item hnow tag
  have hthere : name ∈ (s.write item now tag).1.names := by
    apply hg.mem_names
    rw [reserved_write]
    exact hname
  rcases read_write h hlegible hnow hthere with ⟨rfl, _⟩ | ⟨_, _, hsame⟩
  · exact absurd (h.present _ hname) (newName_not_mem h hnow htag)
  · exact hsame

/-! ## Opening again -/

/-- A store that opens without records holds nothing. -/
theorem openAt_empty {kind : PayloadKind} {limit : Nat} {place : Place}
    (h : openAt kind limit place = .ok s) (empty : s.names = []) :
    (∃ f, Orderly s f) ∧ s.kind = kind ∧ s.items = 0 := by
  obtain ⟨f, hf, hopened⟩ := openAt_eq_ok h
  have hplace : s.place = .folder f.tidy := by rw [hopened]
  have hnone : f.records = [] := by
    rw [← empty, names_of_folder hplace, Folder.records_tidy]
  refine ⟨⟨_, orderly_openAt h hf (by simp [hnone]) (by simp [hnone])⟩, by rw [hopened], ?_⟩
  unfold items
  rw [empty]
  rfl

/-- A store that is opened where another left off holds the same. -/
theorem openAt_again (h : Orderly s f) {t : RecordStore α} {limit : Nat}
    (ht : openAt s.kind limit s.place = .ok t) :
    (∃ g, Orderly t g) ∧ t.kind = s.kind ∧ t.names = s.names ∧
      (∀ name ∈ t.names, t.read name = s.read name) ∧ t.items = s.items := by
  obtain ⟨g, hg, hopened⟩ := openAt_eq_ok ht
  rw [h.folder] at hg
  obtain rfl : f = g := Option.some.inj hg
  have hplace : t.place = .folder f.tidy := by rw [hopened]
  have hkind : t.kind = s.kind := by rw [hopened]
  have hnames : t.names = s.names := by
    rw [names_of_folder hplace, Folder.records_tidy, h.names_eq]
  have hread : ∀ name ∈ t.names, t.read name = s.read name := by
    rw [names_of_folder hplace, Folder.records_tidy]
    refine fun name hname => read_congr hkind ?_
    rw [found?_of_folder hplace, found?_of_folder h.folder,
      Folder.get?_tidy (Folder.mem_records.1 hname).2]
  refine ⟨⟨_, orderly_reopen h ht⟩, hkind, hnames, hread, ?_⟩
  unfold items
  rw [itemsOf_congr hread, hnames]

end CrashReporter.RecordStore
