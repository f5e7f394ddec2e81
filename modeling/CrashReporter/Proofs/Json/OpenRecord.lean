import CrashReporter.Proofs.Json.Reading

-- An open record keeps every member that it is given: its fields by name, the others beside
-- them. So what is written of it says of every key what the text said that it was read from.

namespace CrashReporter.Reader

variable {α : Type}

/-! ## Fields as free-form values -/

/-- What the reader takes a tree for is what the tree says as free-form JSON. -/
def Echoes (r : Reader α) (f : α → Json) : Prop :=
  ∀ ⦃room : Nat⦄ ⦃t : Tree⦄ ⦃x : α⦄, r room t = some x → json room t = some (f x)

theorem echoes_string : Echoes string .str := by
  intro room t s h
  unfold string at h
  split at h
  · obtain rfl := h
    rfl
  · cases h

theorem echoes_bool : Echoes bool .bool := by
  intro room t b h
  unfold bool at h
  split at h
  · cases h
    rfl
  · cases h

theorem echoes_uint64 : Echoes uint64 fun n => .nat n.toNat := by
  intro room t n h
  obtain ⟨m, hm, rfl⟩ := Option.map_eq_some_iff.1 h
  unfold natTo at hm
  split at hm
  · next m' =>
    split at hm
    · next hle =>
      cases hm
      have hsize : m < UInt64.size := Nat.lt_of_le_sub_one (by decide) hle
      have hback : m.toUInt64.toNat = m := UInt64.toNat_ofNat_of_lt' hsize
      simp only [hback]
      rfl
    · cases hm
  · cases hm

/-- A field as it is written again: null where it is missing. -/
def Parts.shown? (p : Parts) (name : String) : Option Json :=
  match p.field? name with
  | some t => json p.room t
  | none => some .null

theorem Echoes.shown? {r : Reader α} {f : α → Json} (h : Echoes r f) {p : Parts} {name : String}
    {o : Option α} (hread : p.nullable name r = some o) :
    p.shown? name = some ((o.map f).getD .null) := by
  cases hfield : p.field? name with
  | none =>
    have hmissing : (if p.positional then none else some none) = some o := by
      unfold Parts.nullable at hread
      rw [hfield] at hread
      exact hread
    rw [Parts.shown?, hfield]
    cases hpositional : p.positional with
    | true => simp [hpositional] at hmissing
    | false =>
      obtain rfl : none = o := by simpa [hpositional] using hmissing
      rfl
  | some t =>
    have hgiven : option r p.room t = some o := by
      unfold Parts.nullable at hread
      rw [hfield] at hread
      exact hread
    rw [Parts.shown?, hfield]
    unfold option at hgiven
    split at hgiven
    · cases hgiven
      rfl
    · obtain ⟨x, hx, rfl⟩ := Option.map_eq_some_iff.1 hgiven
      exact h hx

theorem shown?_string {p : Parts} {name : String} {o : Option String}
    (h : p.nullable name string = some o) : p.shown? name = some (.strOrNull o) := by
  rw [echoes_string.shown? h, Json.strOrNull_eq]

/-! ## Members -/

theorem exists_mapM {β : Type} {f : α → Option β} {xs : List α} (h : ∀ x ∈ xs, ∃ y, f x = some y) :
    ∃ ys, xs.mapM f = some ys := by
  induction xs with
  | nil => exact ⟨[], rfl⟩
  | cons x xs ih =>
    obtain ⟨y, hy⟩ := h x List.mem_cons_self
    obtain ⟨ys, hys⟩ := ih fun x hx => h x (List.mem_cons_of_mem _ hx)
    exact ⟨y :: ys, by simp [List.mapM_cons, hy, hys]⟩

/-- Under each key, what was read is what the tree under that key says. -/
theorem lastOf_read {r : Reader α} {given : List (String × Tree)} {room : Nat}
    {entries : List (String × α)}
    (h : given.mapM (fun m => readEntry r room m.1 m.2) = some entries) (key : String) :
    lastOf key entries = (lastOf key given).bind (r room) := by
  have hmap : (lastOf key given).map (r room) = (lastOf key entries).map some := by
    induction given generalizing entries with
    | nil =>
      cases h
      rfl
    | cons m rest ih =>
      rw [List.mapM_cons] at h
      obtain ⟨e, he, h⟩ := Option.bind_eq_some_iff.1 h
      obtain ⟨more, hmore, h⟩ := Option.bind_eq_some_iff.1 h
      cases h
      obtain ⟨hkey, hvalue⟩ := readEntry_eq_some.1 he
      rw [lastOf, lastOf, Option.map_or, Option.map_or, ih hmore, hkey]
      split
      · rw [Option.map_some, Option.map_some, hvalue]
      · rfl
  calc lastOf key entries = ((lastOf key entries).map some).join := by
        cases lastOf key entries <;> rfl
    _ = ((lastOf key given).map (r room)).join := by rw [hmap]
    _ = (lastOf key given).bind (r room) := by cases lastOf key given <;> rfl

/-- An object whose members all have a value has that value under each key. -/
theorem dict_of_given {given : List (String × Tree)} {room : Nat}
    (h : ∀ m ∈ given, ∃ v, json room m.2 = some v) :
    ∃ said : Dict Json,
      dict json (room + 1) (.obj (given.map fun m => (some m.1, m.2))) = some said ∧
        ∀ key, said.get? key = (lastOf key given).bind (json room) := by
  have hread : ∀ m ∈ given, ∃ e, readEntry json room m.1 m.2 = some e := by
    intro m hm
    obtain ⟨v, hv⟩ := h m hm
    exact ⟨(m.1, v), readEntry_eq_some.2 ⟨rfl, hv⟩⟩
  obtain ⟨entries, hentries⟩ := exists_mapM hread
  refine ⟨Dict.ofList entries, ?_, ?_⟩
  · refine dict_eq_some.2 ⟨room, _, entries, rfl, rfl, ?_, rfl⟩
    rw [List.mapM_map]
    exact hentries
  · intro key
    rw [Dict.get?_ofList, lastOf_read hentries]

/-! ## Open records -/

section OpenRecord

variable {names : List String} {given : List (String × Tree)} {p : Parts} {extra : Dict Json}

theorem Sorted.field?_eq (h : Sorted names given p) {name : String} (hname : name ∈ names) :
    p.field? name = lastOf name given := by
  have hfirst : p.field? name = lastOf name p.fields := (lastOf_of_nodup h.nodup).symm
  rw [hfirst, h.fields_eq, lastOf_filter (fun k => names.contains k), if_pos (by simpa using hname)]

theorem Sorted.get?_extra (h : Sorted names given p) (hextra : p.extra = some extra) {key : String}
    (hkey : key ∉ names) : extra.get? key = (lastOf key given).bind (json p.room) := by
  obtain ⟨entries, hentries, rfl⟩ := extra_eq_some hextra
  rw [Dict.get?_ofList, lastOf_read hentries, h.others_eq,
    lastOf_filter (fun k => !names.contains k), if_pos (by simpa using hkey)]

/-- Every member of an open record that was read has a free-form value. -/
theorem Sorted.exists_json (h : Sorted names given p) (hextra : p.extra = some extra)
    (hfields : ∀ name ∈ names, ∃ v, p.shown? name = some v) :
    ∀ m ∈ given, ∃ v, json p.room m.2 = some v := by
  intro m hm
  by_cases hname : m.1 ∈ names
  · have hmem : m ∈ p.fields := by
      rw [h.fields_eq]
      exact List.mem_filter.2 ⟨hm, by simpa using hname⟩
    have hfield : p.field? m.1 = some m.2 := by
      rw [Parts.field?, ← lastOf_of_nodup h.nodup]
      exact lastOf_of_mem h.nodup hmem
    obtain ⟨v, hv⟩ := hfields m.1 hname
    rw [Parts.shown?, hfield] at hv
    exact ⟨v, hv⟩
  · have hmem : m ∈ p.others := by
      rw [h.others_eq]
      exact List.mem_filter.2 ⟨hm, by simpa using hname⟩
    obtain ⟨entries, hentries, _⟩ := extra_eq_some hextra
    obtain ⟨e, he⟩ := read_of_mapM hentries hmem
    exact ⟨e.2, (readEntry_eq_some.1 he).2⟩

/-- The fields and the other members say of every key what was given, and null of a field that
was not. -/
theorem Sorted.keeps (h : Sorted names given p) (hextra : p.extra = some extra)
    {fields : List (String × Json)} (hkeys : fields.map (·.1) = names) (hnodup : names.Nodup)
    (hfields : ∀ m ∈ fields, p.shown? m.1 = some m.2) :
    ∃ said : Dict Json,
      dict json (p.room + 1) (.obj (given.map fun m => (some m.1, m.2))) = some said ∧
        ∀ key, lastOf key (fields ++ extra.toList) =
          (said.get? key).or (if key ∈ names then some .null else none) := by
  have hshown : ∀ name ∈ names, ∃ v, p.shown? name = some v := by
    intro name hname
    obtain ⟨m, hm, rfl⟩ := List.mem_map.1 (hkeys ▸ hname : name ∈ fields.map (·.1))
    exact ⟨m.2, hfields m hm⟩
  obtain ⟨said, hsaid, hget⟩ := dict_of_given (h.exists_json hextra hshown)
  refine ⟨said, hsaid, ?_⟩
  intro key
  rw [lastOf_append, ← Dict.get?_eq_lastOf, hget]
  by_cases hname : key ∈ names
  · have hnone : extra.get? key = none := by
      by_contra hsome
      have hkey : key ∈ extra.keys := Dict.mem_keys.2 (Option.isSome_iff_ne_none.2 hsome)
      exact h.unclashing hextra key hkey hname
    obtain ⟨m, hm, rfl⟩ := List.mem_map.1 (hkeys ▸ hname : key ∈ fields.map (·.1))
    have hfield := lastOf_of_mem (hkeys.symm ▸ hnodup : (fields.map (·.1)).Nodup) hm
    have hshown := hfields m hm
    rw [hnone, hfield, if_pos hname, Option.none_or]
    unfold Parts.shown? at hshown
    rw [h.field?_eq hname] at hshown
    cases hgiven : lastOf m.1 given with
    | none =>
      rw [hgiven] at hshown
      exact hshown.symm
    | some t =>
      rw [hgiven] at hshown
      have hsaid : json p.room t = some m.2 := hshown
      rw [Option.bind_some, hsaid, Option.some_or]
  · have hnone : lastOf key fields = none := lastOf_eq_none (hkeys.symm ▸ hname)
    rw [hnone, if_neg hname, Option.or_none, Option.or_none, h.get?_extra hextra hname]

theorem Parts.Whole.fits_shown? (hp : p.Whole) {name : String} {v : Json}
    (h : p.shown? name = some v) : v.Fits p.room := by
  unfold Parts.shown? at h
  split at h
  · next t hfield => exact gives_json (hp.of_field? hfield) h
  · cases h
    exact .of_exact trivial trivial rfl

theorem json_ofJson {v : Json} {room : Nat} (h : v.Fits room) :
    json room (Tree.ofJson v) = some v := by
  unfold json
  rw [Tree.json?_ofJson v h.ordered, if_pos h.depth_le]

/-- What is written of members says of each key what the last of them with it says. -/
theorem json_members {members : List (String × Json)} {room : Nat}
    (h : ∀ m ∈ members, m.2.Fits room) :
    ∃ again : Dict Json,
      json (room + 1) (Tree.ofJson (.obj members)) = some (.obj again.toList) ∧
        ∀ key, again.get? key = lastOf key members := by
  have hvalues : ∀ m ∈ members.map treeOf, ∃ v, json room m.2 = some v := by
    intro m hm
    obtain ⟨m, hmem, rfl⟩ := List.mem_map.1 hm
    exact ⟨m.2, json_ofJson (h m hmem)⟩
  obtain ⟨again, hagain, hget⟩ := dict_of_given hvalues
  refine ⟨again, ?_, ?_⟩
  · rw [Tree.ofJson, Tree.ofMembers_eq_map, json, json?_obj]
    rw [List.map_map] at hagain
    exact congrArg (Option.map fun d => Json.obj d.toList) hagain
  · intro key
    have hlast : lastOf key (members.map treeOf) = (lastOf key members).map Tree.ofJson :=
      lastOf_map Tree.ofJson members
    rw [hget, hlast]
    cases hv : lastOf key members with
    | none => rfl
    | some v => exact json_ofJson (h (key, v) (mem_of_lastOf hv))

theorem Sorted.fits (h : Sorted names given p) (hwhole : ∀ m ∈ given, m.2.Whole)
    (hextra : p.extra = some extra) {fields : List (String × Json)}
    (hfields : ∀ m ∈ fields, p.shown? m.1 = some m.2) :
    ∀ m ∈ fields ++ extra.toList, m.2.Fits p.room := by
  intro m hm
  rcases List.mem_append.1 hm with hfield | hother
  · exact (h.whole hwhole).fits_shown? (hfields m hfield)
  · exact (h.whole hwhole).fits_extra hextra m hother

end OpenRecord

/-- A tree that was read, within some room, as an open record: what is written of the record are
its fields, each as it was shown, and then the other members. -/
inductive ReadOpen (names : List String) : Nat → Tree → Dict Json → Json → Prop
  | sorted {given : List (String × Tree)} {p : Parts} {extra : Dict Json}
      {fields : List (String × Json)} (hsorted : Sorted names given p)
      (hextra : p.extra = some extra) (hkeys : fields.map (·.1) = names)
      (hfields : ∀ m ∈ fields, p.shown? m.1 = some m.2) :
      ReadOpen names (p.room + 1) (.obj (given.map fun m => (some m.1, m.2))) extra
        (.obj (fields ++ extra.toList))

namespace ReadOpen

variable {names : List String} {room : Nat} {t : Tree} {extra : Dict Json} {v : Json}

theorem unclashing (h : ReadOpen names room t extra v) : ∀ key ∈ extra.keys, key ∉ names := by
  cases h with
  | sorted hsorted hextra _ _ => exact hsorted.unclashing hextra

/-- What is written of the record nests no deeper than the tree was allowed to. -/
theorem fits (h : ReadOpen names room t extra v) (ht : t.Whole) :
    (∀ e ∈ extra.toList, e.2.Exact ∧ e.2.Ordered) ∧ v.depth ≤ room := by
  cases h with
  | sorted hsorted hextra _ hfields =>
    have hfits := hsorted.fits (whole_of_given ht) hextra hfields
    refine ⟨fun e he => ?_, ?_⟩
    · have hother := hfits e (List.mem_append_right _ he)
      exact ⟨hother.exact, hother.ordered⟩
    · exact Nat.succ_le_succ (Json.depthMembers_le.2 fun m hm => (hfits m hm).depth_le)

/-- What is written of the record says of every key what the tree says of it, and null of a field
of which the tree says nothing. -/
theorem same_members (h : ReadOpen names room t extra v) (ht : t.Whole) (hnodup : names.Nodup) :
    ∃ said again : Dict Json,
      json room t = some (.obj said.toList) ∧
        json room (Tree.ofJson v) = some (.obj again.toList) ∧
        ∀ key, again.get? key =
          (said.get? key).or (if key ∈ names then some .null else none) := by
  cases h with
  | sorted hsorted hextra hkeys hfields =>
    obtain ⟨said, hsaid, hkeeps⟩ := hsorted.keeps hextra hkeys hnodup hfields
    obtain ⟨again, hagain, hlast⟩ :=
      json_members (hsorted.fits (whole_of_given ht) hextra hfields)
    refine ⟨said, again, ?_, hagain, fun key => (hlast key).trans (hkeeps key)⟩
    rw [json, json?_obj]
    exact congrArg (Option.map fun d => Json.obj d.toList) hsaid

end ReadOpen

end CrashReporter.Reader
