import CrashReporter.Proofs.Dict
import CrashReporter.Proofs.Json.Reader

-- What readers make of any tree of whole numbers, be it written by the library or not. A value
-- that comes of one can be written, comes back from its tree, and nests no deeper than the tree
-- was allowed to.

namespace CrashReporter

/-! ## Trees of whole numbers -/

namespace Json

theorem orderedItems_iff {items : List Json} : OrderedItems items ↔ ∀ v ∈ items, v.Ordered := by
  induction items with
  | nil => simp [OrderedItems]
  | cons v rest ih => simp [OrderedItems, ih]

theorem orderedMembers_iff {members : List (String × Json)} :
    OrderedMembers members ↔ ∀ m ∈ members, m.2.Ordered := by
  induction members with
  | nil => simp [OrderedMembers]
  | cons m rest ih => simp [OrderedMembers, ih]

/-- A free-form value of whole numbers whose keys go up, nested at most so many levels. -/
structure Fits (room : Nat) (v : Json) : Prop where
  exact : v.Exact
  ordered : v.Ordered
  depth_le : v.depth ≤ room

theorem Fits.of_exact {v : Json} {room : Nat} (h : v.Exact) (hordered : v.Ordered)
    (hflat : v.depth = 0) : Fits room v :=
  ⟨h, hordered, hflat ▸ Nat.zero_le room⟩

theorem fits_arr {items : List Json} {room : Nat} (h : ∀ v ∈ items, v.Fits room) :
    (arr items).Fits (room + 1) :=
  ⟨exactItems_iff.2 fun v hv => (h v hv).exact, orderedItems_iff.2 fun v hv => (h v hv).ordered,
    Nat.succ_le_succ (depthItems_le.2 fun v hv => (h v hv).depth_le)⟩

theorem fits_obj {members : List (String × Json)} {room : Nat} (hup : KeysUp members)
    (h : ∀ m ∈ members, m.2.Fits room) : (obj members).Fits (room + 1) :=
  ⟨exactMembers_iff.2 fun m hm => (h m hm).exact,
    ⟨hup, orderedMembers_iff.2 fun m hm => (h m hm).ordered⟩,
    Nat.succ_le_succ (depthMembers_le.2 fun m hm => (h m hm).depth_le)⟩

end Json

namespace Tree

mutual

/-- Every number in a tree is a whole number of 64 bits, as numbers are read: `1.0` and `-0`
are doubles. -/
def Whole : Tree → Prop
  | null => True
  | bool _ => True
  | num n => ∃ m ∈ n, m.Exact
  | str _ => True
  | arr items => WholeItems items
  | obj members => WholeMembers members

def WholeItems : List Tree → Prop
  | [] => True
  | t :: rest => t.Whole ∧ WholeItems rest

def WholeMembers : List (Option String × Tree) → Prop
  | [] => True
  | (_, t) :: rest => t.Whole ∧ WholeMembers rest

end

theorem wholeItems_iff {items : List Tree} : WholeItems items ↔ ∀ t ∈ items, t.Whole := by
  induction items with
  | nil => simp [WholeItems]
  | cons t rest ih => simp [WholeItems, ih]

theorem wholeMembers_iff {members : List (Option String × Tree)} :
    WholeMembers members ↔ ∀ m ∈ members, m.2.Whole := by
  induction members with
  | nil => simp [WholeMembers]
  | cons m rest ih => simp [WholeMembers, ih]

end Tree

namespace Reader

variable {α β : Type}

/-- Whatever the reader takes from a tree of whole numbers, within some room, is so. -/
def Gives (r : Reader α) (P : Nat → α → Prop) : Prop :=
  ∀ ⦃room : Nat⦄ ⦃t : Tree⦄ ⦃x : α⦄, t.Whole → r room t = some x → P room x

/-- A value that is sound is taken wherever it fits. -/
theorem Recovers.of_sound {r : Reader α} {v : Json} {x : α} {sound : Prop}
    (h : Recovers r v x sound) (hsound : sound) : Recovers r v x True := by
  refine ⟨h.exact, ?_⟩
  intro room y
  rw [h.reads]
  exact and_congr_left fun _ => iff_of_true hsound trivial

/-! ## Lists and dictionaries -/

theorem Gives.option {r : Reader α} {P : Nat → α → Prop} (h : Gives r P) :
    Gives (option r) fun room o => ∀ x ∈ o, P room x := by
  intro room t o ht hread
  unfold Reader.option at hread
  split at hread
  · cases hread
    exact fun x hx => nomatch hx
  · obtain ⟨x, hx, rfl⟩ := Option.map_eq_some_iff.1 hread
    intro y hy
    cases hy
    exact h ht hx

/-- What is read one by one is read if each is, and in the same order. -/
theorem mapM_eq_some {f : α → Option β} {xs : List α} {ys : List β} :
    xs.mapM f = some ys ↔ xs.map f = ys.map some := by
  induction xs generalizing ys with
  | nil => cases ys <;> simp
  | cons x xs ih =>
    rw [List.mapM_cons]
    cases hx : f x with
    | none => cases ys <;> simp [hx]
    | some y =>
      cases ys with
      | nil => cases hxs : xs.mapM f <;> simp
      | cons y' ys =>
        have hrest : xs.mapM f = some ys ↔ xs.map f = ys.map some := ih
        cases hxs : xs.mapM f <;> simp_all

/-- Each item that was read comes of one of the trees. -/
theorem exists_of_mapM {f : α → Option β} {xs : List α} {ys : List β} (h : xs.mapM f = some ys)
    {y : β} (hy : y ∈ ys) : ∃ x ∈ xs, f x = some y := by
  have hmem : some y ∈ xs.map f := by
    rw [mapM_eq_some.1 h]
    exact List.mem_map_of_mem hy
  exact List.mem_map.1 hmem

/-- Each tree was read as one of the items. -/
theorem read_of_mapM {f : α → Option β} {xs : List α} {ys : List β} (h : xs.mapM f = some ys)
    {x : α} (hx : x ∈ xs) : ∃ y, f x = some y := by
  have hmem : f x ∈ ys.map some := by
    rw [← mapM_eq_some.1 h]
    exact List.mem_map_of_mem hx
  obtain ⟨y, _, hy⟩ := List.mem_map.1 hmem
  exact ⟨y, hy.symm⟩

theorem readEntry_eq_some {r : Reader α} {room : Nat} {key : String} {t : Tree}
    {e : String × α} : readEntry r room key t = some e ↔ key = e.1 ∧ r room t = some e.2 := by
  obtain ⟨k, x⟩ := e
  unfold readEntry
  rw [Option.bind_eq_some_iff]
  constructor
  · rintro ⟨y, hy, heq⟩
    cases heq
    exact ⟨rfl, hy⟩
  · rintro ⟨rfl, hx⟩
    exact ⟨x, hx, rfl⟩

theorem readMember_eq_some {r : Reader α} {room : Nat} {m : Option String × Tree}
    {e : String × α} : readMember r room m = some e ↔ m.1 = some e.1 ∧ r room m.2 = some e.2 := by
  unfold readMember
  rw [Option.bind_eq_some_iff]
  constructor
  · rintro ⟨key, hkey, hread⟩
    obtain ⟨rfl, hx⟩ := readEntry_eq_some.1 hread
    exact ⟨hkey, hx⟩
  · rintro ⟨hkey, hx⟩
    exact ⟨e.1, hkey, readEntry_eq_some.2 ⟨rfl, hx⟩⟩

theorem dict_eq_some {r : Reader α} {room : Nat} {t : Tree} {d : Dict α} :
    dict r room t = some d ↔ ∃ inner members entries, room = inner + 1 ∧ t = .obj members ∧
      members.mapM (readMember r inner) = some entries ∧ d = Dict.ofList entries := by
  constructor
  · intro h
    unfold dict at h
    split at h
    · next inner members =>
      obtain ⟨entries, hentries, heq⟩ := Option.bind_eq_some_iff.1 h
      cases heq
      exact ⟨inner, members, entries, rfl, rfl, hentries, rfl⟩
    · cases h
  · rintro ⟨inner, members, entries, rfl, rfl, hentries, rfl⟩
    exact Option.bind_eq_some_iff.2 ⟨entries, hentries, rfl⟩

theorem list_eq_some {r : Reader α} {room : Nat} {t : Tree} {xs : List α} :
    list r room t = some xs ↔ ∃ inner items, room = inner + 1 ∧ t = .arr items ∧
      items.mapM (r inner) = some xs := by
  constructor
  · intro h
    unfold list at h
    split at h
    · next inner items => exact ⟨inner, items, rfl, rfl, h⟩
    · cases h
  · rintro ⟨inner, items, rfl, rfl, h⟩
    exact h

theorem Gives.list {r : Reader α} {P : Nat → α → Prop} (h : Gives r P) :
    Gives (list r) fun room xs => ∃ inner, room = inner + 1 ∧ ∀ x ∈ xs, P inner x := by
  intro room t xs ht hread
  obtain ⟨inner, items, rfl, rfl, hitems⟩ := list_eq_some.1 hread
  refine ⟨inner, rfl, ?_⟩
  intro x hx
  obtain ⟨item, hitem, hread⟩ := exists_of_mapM hitems hx
  exact h (Tree.wholeItems_iff.1 ht item hitem) hread

theorem Gives.dict {r : Reader α} {P : Nat → α → Prop} (h : Gives r P) :
    Gives (dict r) fun room d => ∃ inner, room = inner + 1 ∧ ∀ e ∈ d.toList, P inner e.2 := by
  intro room t d ht hread
  obtain ⟨inner, members, entries, rfl, rfl, hentries, rfl⟩ := dict_eq_some.1 hread
  refine ⟨inner, rfl, ?_⟩
  intro e he
  obtain ⟨m, hm, hread⟩ := exists_of_mapM hentries (Dict.mem_of_mem_ofList he)
  exact h (Tree.wholeMembers_iff.1 ht m hm) (readMember_eq_some.1 hread).2

/-! ## Free-form values -/

/-- The value of an object is its dictionary. -/
theorem jsonMembers?_eq (room : Nat) (members : List (Option String × Tree))
    (found : List (String × Json)) :
    Tree.jsonMembers? room members found = (members.mapM (readMember json room)).map
      fun entries => entries.foldl (fun found e => insertEntry e.1 e.2 found) found := by
  induction members generalizing found with
  | nil => rfl
  | cons m rest ih =>
    obtain ⟨key, t⟩ := m
    rw [List.mapM_cons]
    cases hm : readMember json room (key, t) with
    | none =>
      cases key with
      | none => rfl
      | some key =>
        cases hv : Tree.json? room t with
        | none => simp [Tree.jsonMembers?, hv]
        | some v => simp [readMember, readEntry, json, hv] at hm
    | some e =>
      obtain ⟨rfl, hv⟩ : key = some e.1 ∧ Tree.json? room t = some e.2 := readMember_eq_some.1 hm
      have hrest := ih (insertEntry e.1 e.2 found)
      simp only [Tree.jsonMembers?, hv, Option.bind_eq_bind, Option.bind_some, hrest]
      cases List.mapM (readMember json room) rest <;> rfl

theorem json?_obj (room : Nat) (members : List (Option String × Tree)) :
    Tree.json? room (.obj members) =
      (dict json room (.obj members)).map fun d => .obj d.toList := by
  have hfold : ∀ (entries : List (String × Json)) (d : Dict Json),
      (entries.foldl (fun d e => d.insert e.1 e.2) d).toList =
        entries.foldl (fun found e => insertEntry e.1 e.2 found) d.toList := by
    intro entries
    induction entries with
    | nil => exact fun _ => rfl
    | cons e rest ih => exact fun d => ih (d.insert e.1 e.2)
  cases room with
  | zero => rfl
  | succ room =>
    have hdict : dict json (room + 1) (.obj members) =
        (members.mapM (readMember json room)).bind fun entries => some (Dict.ofList entries) := rfl
    simp only [Tree.json?, jsonMembers?_eq, hdict]
    cases List.mapM (readMember json room) members with
    | none => rfl
    | some entries =>
      have hentries := hfold entries Dict.empty
      exact congrArg (fun found => some (Json.obj found)) hentries.symm

theorem fits_dict {room : Nat} {d : Dict Json} (h : ∀ e ∈ d.toList, e.2.Fits room) :
    (Json.obj d.toList).Fits (room + 1) := Json.fits_obj d.sorted h

mutual

/-- A free-form value of whole numbers fits where it was read. -/
theorem fits_json? : (t : Tree) → t.Whole → ∀ {room : Nat} {v : Json},
    Tree.json? room t = some v → v.Fits room
  | .null, _, room, v, h => by
    cases h
    exact .of_exact trivial trivial rfl
  | .bool b, _, room, v, h => by
    cases h
    exact .of_exact trivial trivial rfl
  | .num n, hwhole, room, v, h => by
    obtain ⟨m, hm, hexact⟩ := hwhole
    obtain rfl : n = some m := hm
    cases h
    exact .of_exact hexact trivial rfl
  | .str s, _, room, v, h => by
    obtain ⟨text, rfl, rfl⟩ := Option.map_eq_some_iff.1 h
    exact .of_exact trivial trivial rfl
  | .arr items, hwhole, 0, v, h => by cases h
  | .arr items, hwhole, room + 1, v, h => by
    obtain ⟨vs, hvs, rfl⟩ := Option.map_eq_some_iff.1 h
    exact Json.fits_arr (fits_jsonItems? items hwhole hvs)
  | .obj members, hwhole, room, v, h => by
    rw [json?_obj] at h
    obtain ⟨d, hd, rfl⟩ := Option.map_eq_some_iff.1 h
    obtain ⟨inner, members', entries, rfl, heq, hentries, rfl⟩ := dict_eq_some.1 hd
    cases heq
    refine fits_dict ?_
    intro e he
    obtain ⟨m, hm, hread⟩ := exists_of_mapM hentries (Dict.mem_of_mem_ofList he)
    exact fits_jsonMembers members hwhole m hm (readMember_eq_some.1 hread).2

theorem fits_jsonItems? : (items : List Tree) → Tree.WholeItems items → ∀ {room : Nat}
    {vs : List Json}, Tree.jsonItems? room items = some vs → ∀ v ∈ vs, v.Fits room
  | [], _, room, vs, h => by
    cases h
    exact fun v hv => nomatch hv
  | t :: rest, hwhole, room, vs, h => by
    obtain ⟨v, hv, h⟩ := Option.bind_eq_some_iff.1 h
    obtain ⟨rest', hrest, h⟩ := Option.bind_eq_some_iff.1 h
    cases h
    exact List.forall_mem_cons.2 ⟨fits_json? t hwhole.1 hv, fits_jsonItems? rest hwhole.2 hrest⟩

theorem fits_jsonMembers : (members : List (Option String × Tree)) → Tree.WholeMembers members →
    ∀ m ∈ members, ∀ {room : Nat} {v : Json}, Tree.json? room m.2 = some v → v.Fits room
  | [], _, m, hm, _, _, _ => nomatch hm
  | (key, t) :: rest, hwhole, m, hm, room, v, h => by
    rcases List.mem_cons.1 hm with rfl | hm
    · exact fits_json? t hwhole.1 h
    · exact fits_jsonMembers rest hwhole.2 m hm h

end

theorem gives_json : Gives json fun room v => v.Fits room := fun _ t _ ht h => fits_json? t ht h

/-! ## Records -/

/-- The members of an object as they are sorted: each has a key, and no field is given twice. -/
theorem sortMembers_eq_some {names : List String} {members : List (Option String × Tree)}
    {found p : Parts} (h : sortMembers names members found = some p) :
    ∃ given : List (String × Tree), members = (given.map fun m => (some m.1, m.2)) ∧
      p = { found with
        fields := found.fields ++ given.filter fun m => names.contains m.1
        others := found.others ++ given.filter fun m => !names.contains m.1 } ∧
      ((found.fields.map (·.1)).Nodup → (p.fields.map (·.1)).Nodup) := by
  induction members generalizing found with
  | nil =>
    cases h
    exact ⟨[], rfl, by simp, id⟩
  | cons m rest ih =>
    obtain ⟨key, t⟩ := m
    obtain ⟨key, rfl, hsort⟩ := Option.bind_eq_some_iff.1 h
    by_cases hname : names.contains key = true
    · rw [if_pos hname] at hsort
      by_cases htwice : (found.fields.any fun f => f.1 == key) = true
      · rw [if_pos htwice] at hsort
        cases hsort
      · rw [if_neg htwice] at hsort
        obtain ⟨given, rfl, rfl, hnodup⟩ := ih hsort
        have hfields := List.filter_cons_of_pos (l := given) (a := (key, t))
          (p := fun m => names.contains m.1) hname
        have hothers := List.filter_cons_of_neg (l := given) (a := (key, t))
          (p := fun m => !names.contains m.1) (by simpa using hname)
        refine ⟨(key, t) :: given, rfl, ?_, ?_⟩
        · simp only [hfields, hothers, List.append_assoc, List.singleton_append]
        · intro hfound
          apply hnodup
          rw [List.map_append]
          refine List.nodup_append.2 ⟨hfound, List.pairwise_singleton _ key, ?_⟩
          rintro k hk _ hkey rfl
          obtain ⟨f, hf, hfk⟩ := List.mem_map.1 hk
          rw [List.mem_singleton.1 hkey] at hfk
          exact htwice (List.any_eq_true.2 ⟨f, hf, by simp [hfk]⟩)
    · rw [if_neg hname] at hsort
      obtain ⟨given, rfl, rfl, hnodup⟩ := ih hsort
      have hfields := List.filter_cons_of_neg (l := given) (a := (key, t))
        (p := fun m => names.contains m.1) hname
      have hothers := List.filter_cons_of_pos (l := given) (a := (key, t))
        (p := fun m => !names.contains m.1) (by simpa using hname)
      refine ⟨(key, t) :: given, rfl, ?_, hnodup⟩
      simp only [hfields, hothers, List.append_assoc, List.singleton_append]

/-- The trees of a record are trees of whole numbers. -/
structure Parts.Whole (p : Parts) : Prop where
  fields : ∀ m ∈ p.fields, m.2.Whole
  others : ∀ m ∈ p.others, m.2.Whole

/-- An object as an open record sees it: its members, the fields among them, and the others. -/
structure Sorted (names : List String) (given : List (String × Tree)) (p : Parts) : Prop where
  fields_eq : p.fields = given.filter fun m => names.contains m.1
  others_eq : p.others = given.filter fun m => !names.contains m.1
  nodup : (p.fields.map (·.1)).Nodup

theorem sorted_of_sortMembers {names : List String} {members : List (Option String × Tree)}
    {room : Nat} {p : Parts} (h : sortMembers names members ⟨[], [], false, room⟩ = some p) :
    ∃ given : List (String × Tree), members = (given.map fun m => (some m.1, m.2)) ∧
      p.room = room ∧ Sorted names given p := by
  obtain ⟨given, hmembers, rfl, hnodup⟩ := sortMembers_eq_some h
  exact ⟨given, hmembers, rfl, by simp, by simp, hnodup List.nodup_nil⟩

theorem Sorted.whole {names : List String} {given : List (String × Tree)} {p : Parts}
    (h : Sorted names given p) (hwhole : ∀ m ∈ given, m.2.Whole) : p.Whole := by
  refine ⟨?_, ?_⟩
  · intro m hm
    rw [h.fields_eq] at hm
    exact hwhole m (List.mem_filter.1 hm).1
  · intro m hm
    rw [h.others_eq] at hm
    exact hwhole m (List.mem_filter.1 hm).1

theorem whole_of_given {given : List (String × Tree)}
    (h : Tree.WholeMembers (given.map fun m => (some m.1, m.2))) : ∀ m ∈ given, m.2.Whole :=
  fun m hm => Tree.wholeMembers_iff.1 h (some m.1, m.2) (List.mem_map.2 ⟨m, hm, rfl⟩)

theorem openParts?_eq_some {names : List String} {room : Nat} {t : Tree} {p : Parts}
    (h : openParts? names room t = some p) :
    ∃ given : List (String × Tree), t = .obj (given.map fun m => (some m.1, m.2)) ∧
      room = p.room + 1 ∧ Sorted names given p := by
  unfold openParts? at h
  split at h
  · next inner members =>
    obtain ⟨given, rfl, rfl, hsorted⟩ := sorted_of_sortMembers h
    exact ⟨given, rfl, rfl, hsorted⟩
  · cases h

theorem whole_of_parts? {names : List String} {room : Nat} {t : Tree} {p : Parts}
    (ht : t.Whole) (h : parts? names room t = some p) : p.Whole ∧ room = p.room + 1 := by
  unfold parts? at h
  split at h
  · next inner members =>
    obtain ⟨given, rfl, rfl, hsorted⟩ := sorted_of_sortMembers h
    exact ⟨hsorted.whole (whole_of_given ht), rfl⟩
  · next inner items =>
    split at h
    · cases h
      refine ⟨⟨?_, fun m hm => nomatch hm⟩, rfl⟩
      intro m hm
      exact Tree.wholeItems_iff.1 ht m.2 (List.of_mem_zip hm).2
    · cases h
  · cases h

section Fields

variable {r : Reader α} {P : Nat → α → Prop} {p : Parts} {name : String} {x default : α}

theorem Parts.Whole.of_field? (h : p.Whole) {t : Tree} (hfield : p.field? name = some t) :
    t.Whole := by
  obtain ⟨m, hm, rfl⟩ := Option.map_eq_some_iff.1 hfield
  exact h.fields m (List.mem_of_find?_eq_some hm)

theorem Gives.required (h : Gives r P) (hp : p.Whole) (hread : p.required name r = some x) :
    P p.room x := by
  obtain ⟨t, hfield, hread⟩ := Option.bind_eq_some_iff.1 hread
  exact h (hp.of_field? hfield) hread

theorem Gives.optional (h : Gives r P) (hp : p.Whole)
    (hread : p.optional name r default = some x) (hdefault : P p.room default) : P p.room x := by
  unfold Parts.optional at hread
  split at hread
  · next t hfield => exact h (hp.of_field? hfield) hread
  · cases hread
    exact hdefault

theorem extra_eq_some {d : Dict Json} (h : p.extra = some d) :
    ∃ entries, p.others.mapM (fun m => readEntry json p.room m.1 m.2) = some entries ∧
      d = Dict.ofList entries := by
  obtain ⟨entries, hentries, heq⟩ := Option.bind_eq_some_iff.1 h
  cases heq
  exact ⟨entries, hentries, rfl⟩

theorem mem_extra {d : Dict Json} (h : p.extra = some d) {e : String × Json} (he : e ∈ d.toList) :
    ∃ m ∈ p.others, m.1 = e.1 ∧ json p.room m.2 = some e.2 := by
  obtain ⟨entries, hentries, rfl⟩ := extra_eq_some h
  obtain ⟨m, hm, hread⟩ := exists_of_mapM hentries (Dict.mem_of_mem_ofList he)
  obtain ⟨hkey, hvalue⟩ := readEntry_eq_some.1 hread
  exact ⟨m, hm, hkey, hvalue⟩

/-- Free-form values that were read beside the fields. -/
theorem Parts.Whole.fits_extra (hp : p.Whole) {d : Dict Json} (h : p.extra = some d) :
    ∀ e ∈ d.toList, e.2.Fits p.room := by
  intro e he
  obtain ⟨m, hm, _, hread⟩ := mem_extra h he
  exact gives_json (hp.others m hm) hread

/-- No other member bears the name of a field. -/
theorem Sorted.unclashing {names : List String} {given : List (String × Tree)}
    (hp : Sorted names given p) {d : Dict Json} (h : p.extra = some d) :
    ∀ key ∈ d.keys, key ∉ names := by
  intro key hkey hname
  obtain ⟨e, he, rfl⟩ := List.mem_map.1 hkey
  obtain ⟨m, hm, hkey, _⟩ := mem_extra h he
  rw [hp.others_eq] at hm
  have hother := (List.mem_filter.1 hm).2
  rw [hkey] at hother
  simp [hname] at hother

end Fields

end Reader

end CrashReporter
