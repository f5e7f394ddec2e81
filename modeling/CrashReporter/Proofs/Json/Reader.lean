import CrashReporter.Json.Reader
import CrashReporter.Proofs.Json.Nesting

-- Readers that recover what was written. Each law says both when a value is read and what
-- comes of it, so that a record is read exactly if all of its fields are.

namespace CrashReporter.Reader

variable {α β : Type}

/-- The reader takes the value for `x` if that is sound and the value nests within the
limit, and refuses it otherwise. -/
structure Recovers (r : Reader α) (v : Json) (x : α) (sound : Prop) : Prop where
  exact : v.Exact
  reads : ∀ room y, r room (Tree.ofJson v) = some y ↔ sound ∧ v.depth ≤ room ∧ y = x

/-! ## Plain values -/

theorem recovers_string (s : String) : Recovers string (.str s) s True := by
  refine ⟨trivial, ?_⟩
  intro room y
  simp [string, Tree.ofJson, Json.depth, eq_comm]

theorem recovers_bool (b : Bool) : Recovers bool (.bool b) b True := by
  refine ⟨trivial, ?_⟩
  intro room y
  simp [bool, Tree.ofJson, Json.depth, eq_comm]

theorem recovers_uint32 (n : UInt32) : Recovers uint32 (.nat n.toNat) n True := by
  have hlt := n.toNat_lt
  have hle : n.toNat ≤ 2 ^ 32 - 1 := by omega
  refine ⟨⟨by omega, by omega⟩, ?_⟩
  intro room y
  have hread : uint32 room (Tree.ofJson (.nat n.toNat)) = some n := by
    show (if n.toNat ≤ 2 ^ 32 - 1 then some n.toNat else none).map Nat.toUInt32 = some n
    rw [if_pos hle]
    simp
  rw [hread]
  simp [Json.nat, Json.int, Json.depth, eq_comm]

theorem recovers_uint64 (n : UInt64) : Recovers uint64 (.nat n.toNat) n True := by
  have hlt := n.toNat_lt
  have hle : n.toNat ≤ 2 ^ 64 - 1 := by omega
  refine ⟨⟨by omega, by omega⟩, ?_⟩
  intro room y
  have hread : uint64 room (Tree.ofJson (.nat n.toNat)) = some n := by
    show (if n.toNat ≤ 2 ^ 64 - 1 then some n.toNat else none).map Nat.toUInt64 = some n
    rw [if_pos hle]
    simp
  rw [hread]
  simp [Json.nat, Json.int, Json.depth, eq_comm]

theorem recovers_json {v : Json} (hexact : v.Exact) (hordered : v.Ordered) :
    Recovers json v v True := by
  refine ⟨hexact, ?_⟩
  intro room y
  unfold json
  rw [Tree.json?_ofJson v hordered]
  by_cases hdepth : v.depth ≤ room
  · simp [hdepth, eq_comm]
  · simp [hdepth]

theorem recovers_word {meaning : String → Option α} {text : String} {x : α}
    (h : meaning text = some x) : Recovers (word meaning) (.str text) x True := by
  refine ⟨trivial, ?_⟩
  intro room y
  simp [word, Tree.ofJson, Json.depth, h, eq_comm]

/-! ## Values in sequence -/

theorem some_iff {x y : α} : some x = some y ↔ y = x := by
  rw [Option.some.injEq, eq_comm]

theorem bind_iff {o : Option β} {b : β} {sound : Prop} (h : ∀ y, o = some y ↔ sound ∧ y = b)
    (k : β → Option α) (y : α) : o.bind k = some y ↔ sound ∧ k b = some y := by
  rw [Option.bind_eq_some_iff]
  constructor
  · rintro ⟨b', hb', hk⟩
    obtain ⟨hsound, rfl⟩ := (h b').1 hb'
    exact ⟨hsound, hk⟩
  · rintro ⟨hsound, hk⟩
    exact ⟨b, (h b).2 ⟨hsound, rfl⟩, hk⟩

/-- What is read one by one is read if each is. -/
theorem mapM_iff {xs : List α} {f : α → β} {g : β → Option α} {sound : α → Prop}
    (h : ∀ x ∈ xs, ∀ y, g (f x) = some y ↔ sound x ∧ y = x) (ys : List α) :
    (xs.map f).mapM g = some ys ↔ (∀ x ∈ xs, sound x) ∧ ys = xs := by
  induction xs generalizing ys with
  | nil => simp [eq_comm]
  | cons x xs ih =>
    have hx := h x List.mem_cons_self
    have hxs := ih fun y hy => h y (List.mem_cons_of_mem _ hy)
    rw [List.map_cons, List.mapM_cons]
    simp only [bind, pure]
    rw [bind_iff hx, bind_iff hxs, List.forall_mem_cons, Option.some.injEq, and_assoc,
      eq_comm (a := x :: xs)]

theorem recovers_option {r : Reader α} {f : α → Json} {o : Option α}
    (h : ∀ x ∈ o, Recovers r (f x) x True ∧ (f x).isNull = false) :
    Recovers (option r) ((o.map f).getD .null) o True := by
  cases o with
  | none =>
    refine ⟨trivial, ?_⟩
    intro room y
    simp [option, Tree.ofJson, Json.depth, eq_comm]
  | some x =>
    obtain ⟨⟨hexact, hreads⟩, hnull⟩ := h x rfl
    refine ⟨hexact, ?_⟩
    intro room y
    have hsome : option r room (Tree.ofJson (f x)) = (r room (Tree.ofJson (f x))).map some := by
      cases hv : f x <;> first | rfl | simp [hv, Json.isNull] at hnull
    simp only [Option.map_some, Option.getD_some, hsome, Option.map_eq_some_iff, hreads]
    constructor
    · rintro ⟨_, ⟨_, hdepth, rfl⟩, rfl⟩
      exact ⟨trivial, hdepth, rfl⟩
    · rintro ⟨_, hdepth, rfl⟩
      exact ⟨x, ⟨trivial, hdepth, rfl⟩, rfl⟩

theorem recovers_list {r : Reader α} {f : α → Json} {xs : List α}
    (h : ∀ x ∈ xs, Recovers r (f x) x True) : Recovers (list r) (.arr (xs.map f)) xs True := by
  refine ⟨?_, ?_⟩
  · apply Json.exactItems_iff.2
    intro v hv
    obtain ⟨x, hx, rfl⟩ := List.mem_map.1 hv
    exact (h x hx).exact
  · intro room ys
    cases room with
    | zero => simp [list, Json.depth]
    | succ room =>
      have hreads : ∀ x ∈ xs, ∀ y, r room ((Tree.ofJson ∘ f) x) = some y ↔
          (f x).depth ≤ room ∧ y = x := by
        intro x hx y
        rw [Function.comp_apply, (h x hx).reads, true_and]
      simp only [Tree.ofJson, Tree.ofItems_eq_map, List.map_map, list]
      rw [mapM_iff hreads]
      simp [Json.depth, Json.depthItems_le]

/-- A member of a dictionary is read with its key. -/
def readEntry (r : Reader α) (room : Nat) (key : String) (t : Tree) : Option (String × α) :=
  (r room t).bind fun x => some (key, x)

def readMember (r : Reader α) (room : Nat) (m : Option String × Tree) : Option (String × α) :=
  m.1.bind fun key => readEntry r room key m.2

theorem readEntry_iff {r : Reader α} {v : Json} {e : String × α} (h : Recovers r v e.2 True)
    (room : Nat) (y : String × α) :
    readEntry r room e.1 (Tree.ofJson v) = some y ↔ v.depth ≤ room ∧ y = e := by
  have hvalue : ∀ x, r room (Tree.ofJson v) = some x ↔ v.depth ≤ room ∧ x = e.2 := by
    intro x
    rw [h.reads, true_and]
  unfold readEntry
  rw [bind_iff hvalue, Option.some.injEq, eq_comm]

theorem recovers_dict {r : Reader α} {f : α → Json} {d : Dict α}
    (h : ∀ e ∈ d.toList, Recovers r (f e.2) e.2 True) :
    Recovers (dict r) (.obj (d.toList.map fun e => (e.1, f e.2))) d True := by
  refine ⟨?_, ?_⟩
  · apply Json.exactMembers_iff.2
    intro m hm
    obtain ⟨e, he, rfl⟩ := List.mem_map.1 hm
    exact (h e he).exact
  · intro room y
    cases room with
    | zero => simp [dict, Json.depth]
    | succ room =>
      have hdict : dict r (room + 1) (Tree.ofJson (.obj (d.toList.map fun e => (e.1, f e.2)))) =
          ((d.toList.map fun e => (some e.1, Tree.ofJson (f e.2))).mapM (readMember r room)).bind
            fun entries => some (Dict.ofList entries) := by
        simp only [Tree.ofJson, Tree.ofMembers_eq_map, List.map_map]
        rfl
      have hreads : ∀ e ∈ d.toList, ∀ y, readMember r room (some e.1, Tree.ofJson (f e.2)) =
          some y ↔ (f e.2).depth ≤ room ∧ y = e := fun e he => readEntry_iff (h e he) room
      rw [hdict, bind_iff (mapM_iff hreads), Dict.ofList_toList, Json.depth,
        Nat.add_le_add_iff_right, Json.depthMembers_le, List.forall_mem_map, true_and,
        Option.some.injEq, eq_comm (a := d)]

/-! ## Records -/

/-- The value under a name. -/
def valueAt (members : List (String × Json)) (name : String) : Option Json :=
  (members.find? fun m => m.1 == name).map (·.2)

/-- A member as a reader finds it. -/
def treeOf (m : String × Json) : String × Tree := (m.1, Tree.ofJson m.2)

/-- The parts of a record that was written as an object. -/
def Parts.ofMembers (fields others : List (String × Json)) (room : Nat) : Parts :=
  ⟨fields.map treeOf, others.map treeOf, false, room⟩

@[simp] theorem Parts.room_ofMembers (fields others : List (String × Json)) (room : Nat) :
    (Parts.ofMembers fields others room).room = room := rfl

/-- Those of the members that are fields of a record. -/
def fieldsAmong (names : List String) (members : List (String × Json)) : List (String × Json) :=
  members.filter fun m => names.contains m.1

def othersAmong (names : List String) (members : List (String × Json)) : List (String × Json) :=
  members.filter fun m => !names.contains m.1

theorem among_of_mem {names : List String} {members : List (String × Json)}
    (h : ∀ m ∈ members, m.1 ∈ names) :
    fieldsAmong names members = members ∧ othersAmong names members = [] := by
  refine ⟨List.filter_eq_self.2 ?_, List.filter_eq_nil_iff.2 ?_⟩
  · intro m hm
    simpa using h m hm
  · intro m hm
    simpa using h m hm

theorem among_of_not_mem {names : List String} {members : List (String × Json)}
    (h : ∀ m ∈ members, m.1 ∉ names) :
    fieldsAmong names members = [] ∧ othersAmong names members = members := by
  refine ⟨List.filter_eq_nil_iff.2 ?_, List.filter_eq_self.2 ?_⟩
  · intro m hm
    simpa using h m hm
  · intro m hm
    simpa using h m hm

theorem among_append (names : List String) (members more : List (String × Json)) :
    fieldsAmong names (members ++ more) = fieldsAmong names members ++ fieldsAmong names more ∧
      othersAmong names (members ++ more) = othersAmong names members ++ othersAmong names more :=
  ⟨List.filter_append _ _, List.filter_append _ _⟩

/-- Members are sorted as long as no field is given twice. -/
theorem sortMembers_iff {names : List String} (members : List (String × Json)) {found p : Parts}
    (h : (found.fields.map (·.1)).Nodup) :
    sortMembers names (Tree.ofMembers members) found = some p ↔
      (found.fields.map (·.1) ++ (fieldsAmong names members).map (·.1)).Nodup ∧
        p = { found with
          fields := found.fields ++ (fieldsAmong names members).map treeOf
          others := found.others ++ (othersAmong names members).map treeOf } := by
  induction members generalizing found with
  | nil => simp [Tree.ofMembers, sortMembers, fieldsAmong, othersAmong, h, eq_comm]
  | cons m rest ih =>
    obtain ⟨key, v⟩ := m
    simp only [Tree.ofMembers, sortMembers, bind, Option.bind_some]
    by_cases hname : names.contains key = true
    · have hfields : fieldsAmong names ((key, v) :: rest) = (key, v) :: fieldsAmong names rest :=
        List.filter_cons_of_pos hname
      have hothers : othersAmong names ((key, v) :: rest) = othersAmong names rest :=
        List.filter_cons_of_neg (by simpa using hname)
      rw [if_pos hname, hfields, hothers]
      by_cases htwice : key ∈ found.fields.map (·.1)
      · have hany : (found.fields.any fun f => f.1 == key) = true := by
          simpa using htwice
        rw [if_pos hany]
        simp only [reduceCtorEq, false_iff, not_and]
        intro hnodup
        exact absurd rfl ((List.nodup_append.1 hnodup).2.2 key htwice key (by simp))
      · have hany : ¬(found.fields.any fun f => f.1 == key) = true := by
          simpa using htwice
        have hnodup : ((found.fields ++ [(key, Tree.ofJson v)]).map (·.1)).Nodup := by
          rw [List.map_append]
          refine List.nodup_append.2 ⟨h, by simp, ?_⟩
          intro a ha b hb
          rw [List.mem_singleton.1 hb]
          rintro rfl
          exact htwice ha
        rw [if_neg hany]
        refine (ih hnodup).trans ?_
        simp [treeOf]
    · have hfields : fieldsAmong names ((key, v) :: rest) = fieldsAmong names rest :=
        List.filter_cons_of_neg hname
      have hothers : othersAmong names ((key, v) :: rest) = (key, v) :: othersAmong names rest :=
        List.filter_cons_of_pos (by simpa using hname)
      rw [if_neg hname, hfields, hothers]
      refine (ih ?_).trans ?_
      · exact h
      · simp [treeOf]

/-- A record is read if its fields are: they are all there is, each given once. -/
theorem recovers_record {names : List String} {members : List (String × Json)}
    {build : Parts → Option α} {x : α} {sound : Prop} (hexact : Json.ExactMembers members)
    (hkeys : (members.map (·.1)).Sublist names) (hnames : names.Nodup)
    (h : ∀ room y, build (Parts.ofMembers members [] room) = some y ↔
      sound ∧ Json.depthMembers members ≤ room ∧ y = x) :
    Recovers (fun room t => (parts? names room t).bind build) (.obj members) x sound := by
  refine ⟨hexact, ?_⟩
  intro room y
  cases room with
  | zero => simp [parts?, Json.depth]
  | succ room =>
    have hmem : ∀ m ∈ members, m.1 ∈ names := fun m hm => hkeys.subset (List.mem_map_of_mem hm)
    obtain ⟨hfields, hothers⟩ := among_of_mem hmem
    have hparts : parts? names (room + 1) (Tree.ofJson (.obj members)) =
        some (Parts.ofMembers members [] room) := by
      simp only [Tree.ofJson, parts?]
      rw [sortMembers_iff members (by simp), hfields, hothers]
      exact ⟨by simpa using hkeys.nodup hnames, rfl⟩
    rw [hparts, Option.bind_some, h, Json.depth, Nat.add_le_add_iff_right]

/-- An open record is read if its fields are, and no other member bears the name of one. -/
theorem recovers_openRecord {names : List String} {fields : List (String × Json)}
    {extra : Dict Json} {build : Parts → Option α} {x : α}
    (hexact : Json.ExactMembers (fields ++ extra.toList)) (hnames : fields.map (·.1) = names)
    (hnodup : names.Nodup)
    (h : ∀ room y, build (Parts.ofMembers fields extra.toList room) = some y ↔
      Json.depthMembers (fields ++ extra.toList) ≤ room ∧ y = x) :
    Recovers (fun room t => (openParts? names room t).bind build)
      (.obj (fields ++ extra.toList)) x (∀ key ∈ extra.keys, key ∉ names) := by
  refine ⟨hexact, ?_⟩
  intro room y
  cases room with
  | zero => simp [openParts?, Json.depth]
  | succ room =>
    have hparts : ∀ p, openParts? names (room + 1)
        (Tree.ofJson (.obj (fields ++ extra.toList))) = some p ↔
          (∀ key ∈ extra.keys, key ∉ names) ∧ p = Parts.ofMembers fields extra.toList room := by
      intro p
      have hmem : ∀ m ∈ fields, m.1 ∈ names := fun m hm => hnames ▸ List.mem_map_of_mem hm
      obtain ⟨hfields, hothers⟩ := among_of_mem hmem
      obtain ⟨hfields', hothers'⟩ := among_append names fields extra.toList
      simp only [Tree.ofJson, openParts?]
      rw [sortMembers_iff _ (by simp), hfields', hothers', hfields, hothers]
      simp only [List.map_nil, List.nil_append, List.map_append, hnames]
      have hfree : (∀ key ∈ extra.keys, key ∉ names) →
          fieldsAmong names extra.toList = [] ∧ othersAmong names extra.toList = extra.toList :=
        fun hkeys => among_of_not_mem fun m hm => hkeys m.1 (List.mem_map_of_mem hm)
      constructor
      · rintro ⟨hdistinct, rfl⟩
        have hkeys : ∀ key ∈ extra.keys, key ∉ names := by
          intro key hkey hname
          obtain ⟨e, he, rfl⟩ := List.mem_map.1 hkey
          have hamong : e.1 ∈ (fieldsAmong names extra.toList).map (·.1) :=
            List.mem_map_of_mem (List.mem_filter.2 ⟨he, by simpa using hname⟩)
          exact (List.nodup_append.1 hdistinct).2.2 e.1 hname e.1 hamong rfl
        obtain ⟨hnone, hall⟩ := hfree hkeys
        rw [hnone, hall]
        exact ⟨hkeys, by simp [Parts.ofMembers]⟩
      · rintro ⟨hkeys, rfl⟩
        obtain ⟨hnone, hall⟩ := hfree hkeys
        rw [hnone, hall]
        exact ⟨by simpa using hnodup, by simp [Parts.ofMembers]⟩
    rw [bind_iff hparts, h, Json.depth, Nat.add_le_add_iff_right]

/-! ## Fields -/

@[simp] theorem valueAt_nil (name : String) : valueAt [] name = none := rfl

@[simp] theorem valueAt_cons (key : String) (v : Json) (rest : List (String × Json))
    (name : String) :
    valueAt ((key, v) :: rest) name = if key = name then some v else valueAt rest name := by
  unfold valueAt
  by_cases h : key = name
  · simp [h]
  · simp [h]

@[simp] theorem valueAt_append (members more : List (String × Json)) (name : String) :
    valueAt (members ++ more) name = (valueAt members name).or (valueAt more name) := by
  unfold valueAt
  rw [List.find?_append]
  cases members.find? fun m => m.1 == name <;> rfl

/-- A member that is left out where there is nothing to write. -/
@[simp] theorem valueAt_optional (key : String) (f : α → Json) (o : Option α) (name : String) :
    valueAt (o.map fun x => (key, f x)).toList name = if key = name then o.map f else none := by
  cases o with
  | none => simp [valueAt]
  | some x => exact valueAt_cons key (f x) [] name

theorem optional_sublist (key : String) (f : α → Json) (o : Option α) :
    ((o.map fun x => (key, f x)).toList.map (·.1)).Sublist [key] := by
  cases o with
  | none => exact List.nil_sublist _
  | some x => exact List.Sublist.refl _

theorem depthMembers_optional (key : String) (f : α → Json) (o : Option α) :
    Json.depthMembers (o.map fun x => (key, f x)).toList = ((o.map f).getD .null).depth := by
  cases o with
  | none => rfl
  | some x => exact Nat.max_zero _

theorem exactMembers_optional {key : String} {f : α → Json} {o : Option α}
    (h : ∀ x ∈ o, (f x).Exact) : Json.ExactMembers (o.map fun x => (key, f x)).toList := by
  cases o with
  | none => trivial
  | some x => exact ⟨h x rfl, trivial⟩

section Fields

variable {fields others : List (String × Json)} {room : Nat} {name : String} {r : Reader α}
  {v : Json} {x : α} {sound : Prop}

theorem field?_ofMembers :
    (Parts.ofMembers fields others room).field? name = (valueAt fields name).map Tree.ofJson := by
  unfold Parts.field? valueAt Parts.ofMembers
  rw [List.find?_map, Option.map_map, Option.map_map]
  rfl

theorem required_iff (hv : valueAt fields name = some v) (h : Recovers r v x sound) (y : α) :
    (Parts.ofMembers fields others room).required name r = some y ↔
      (sound ∧ v.depth ≤ room) ∧ y = x := by
  unfold Parts.required
  rw [field?_ofMembers, hv, Option.map_some, Option.bind_some, and_assoc]
  exact h.reads room y

theorem optional_iff {default : α} (hv : valueAt fields name = some v)
    (h : Recovers r v x sound) (y : α) :
    (Parts.ofMembers fields others room).optional name r default = some y ↔
      (sound ∧ v.depth ≤ room) ∧ y = x := by
  unfold Parts.optional
  rw [field?_ofMembers, hv, Option.map_some, and_assoc]
  exact h.reads room y

/-- A field that is no array and no object is read whatever the limit. -/
theorem required_of_flat (hv : valueAt fields name = some v) (h : Recovers r v x True)
    (hflat : v.depth = 0) : (Parts.ofMembers fields others room).required name r = some x :=
  (required_iff hv h x).2 ⟨⟨trivial, hflat ▸ Nat.zero_le room⟩, rfl⟩

/-- A field that is left out where there is nothing to write. -/
theorem optional_iff_of_none {f : α → Json} {o : Option α}
    (hv : valueAt fields name = o.map f)
    (h : ∀ x ∈ o, Recovers r (f x) x True ∧ (f x).isNull = false) (y : Option α) :
    (Parts.ofMembers fields others room).optional name (option r) none = some y ↔
      ((o.map f).getD .null).depth ≤ room ∧ y = o := by
  have hoption := (recovers_option h).reads room y
  unfold Parts.optional
  rw [field?_ofMembers, hv]
  cases o with
  | none => simp [Json.depth, eq_comm]
  | some x => simpa using hoption

theorem optional_string {o : Option String} (hv : valueAt fields name = o.map Json.str) :
    (Parts.ofMembers fields others room).optional name (option string) none = some o := by
  refine (optional_iff_of_none hv (fun s _ => ⟨recovers_string s, rfl⟩) o).2 ⟨?_, rfl⟩
  rw [Json.depth_optional fun _ => rfl]
  exact Nat.zero_le room

theorem nullable_iff {f : α → Json} {o : Option α}
    (hv : valueAt fields name = some ((o.map f).getD .null))
    (h : ∀ x ∈ o, Recovers r (f x) x True ∧ (f x).isNull = false) (y : Option α) :
    (Parts.ofMembers fields others room).nullable name r = some y ↔
      ((o.map f).getD .null).depth ≤ room ∧ y = o := by
  have hoption := (recovers_option h).reads room y
  unfold Parts.nullable
  rw [field?_ofMembers, hv, Option.map_some]
  simpa using hoption

theorem nullable_of_flat {f : α → Json} {o : Option α}
    (hv : valueAt fields name = some ((o.map f).getD .null))
    (h : ∀ x, Recovers r (f x) x True ∧ (f x).isNull = false ∧ (f x).depth = 0) :
    (Parts.ofMembers fields others room).nullable name r = some o := by
  refine (nullable_iff hv (fun x _ => ⟨(h x).1, (h x).2.1⟩) o).2 ⟨?_, rfl⟩
  cases o with
  | none => exact Nat.zero_le room
  | some x =>
    have hflat : (f x).depth = 0 := (h x).2.2
    simp [hflat]

theorem nullable_string {o : Option String} (hv : valueAt fields name = some (.strOrNull o)) :
    (Parts.ofMembers fields others room).nullable name string = some o := by
  rw [Json.strOrNull_eq] at hv
  exact nullable_of_flat hv fun s => ⟨recovers_string s, rfl, rfl⟩

/-- Other members are read as free-form values. -/
theorem extra_iff {d : Dict Json} (h : ∀ e ∈ d.toList, e.2.Exact ∧ e.2.Ordered) (y : Dict Json) :
    (Parts.ofMembers fields d.toList room).extra = some y ↔
      Json.depthMembers d.toList ≤ room ∧ y = d := by
  have hextra : (Parts.ofMembers fields d.toList room).extra =
      ((d.toList.map treeOf).mapM fun m => readEntry json room m.1 m.2).bind
        fun entries => some (Dict.ofList entries) := rfl
  have hreads : ∀ e ∈ d.toList, ∀ y, readEntry json room (treeOf e).1 (treeOf e).2 = some y ↔
      e.2.depth ≤ room ∧ y = e :=
    fun e he => readEntry_iff (recovers_json (h e he).1 (h e he).2) room
  rw [hextra, bind_iff (mapM_iff hreads), Dict.ofList_toList, Json.depthMembers_le,
    Option.some.injEq, eq_comm (a := d)]

end Fields

end CrashReporter.Reader
