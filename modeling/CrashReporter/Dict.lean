-- Dictionaries with text keys, kept in key order. A dictionary is its sorted
-- list of entries, so two of them with the same look-ups are equal.

namespace CrashReporter

/-! ## Sorted lists of entries -/

/-- Puts an entry into a sorted list, in place of an entry with its key. -/
def insertEntry {α : Type} (key : String) (value : α) : List (String × α) → List (String × α)
  | [] => [(key, value)]
  | (k, v) :: rest =>
    if key < k then (key, value) :: (k, v) :: rest
    else if key = k then (key, value) :: rest
    else (k, v) :: insertEntry key value rest

/-- The keys go up. -/
def KeysUp {α : Type} (entries : List (String × α)) : Prop :=
  entries.Pairwise fun a b => a.1 < b.1

theorem mem_insertEntry {α : Type} {key : String} {value : α} {entries : List (String × α)}
    {e : String × α} (h : e ∈ insertEntry key value entries) : e.1 = key ∨ e ∈ entries := by
  induction entries with
  | nil => simp only [insertEntry, List.mem_singleton] at h; exact .inl (h ▸ rfl)
  | cons p rest ih =>
    simp only [insertEntry] at h
    split at h
    · rcases List.mem_cons.1 h with rfl | h
      · exact .inl rfl
      · exact .inr h
    · split at h
      · rcases List.mem_cons.1 h with rfl | h
        · exact .inl rfl
        · exact .inr (List.mem_cons_of_mem _ h)
      · rcases List.mem_cons.1 h with rfl | h
        · exact .inr List.mem_cons_self
        · exact (ih h).imp_right (List.mem_cons_of_mem _)

theorem lt_of_not_lt_of_ne {a b : String} (h : ¬a < b) (hne : a ≠ b) : b < a :=
  String.not_le.1 fun hab => hne (String.le_antisymm hab (String.not_lt.1 h))

theorem keysUp_insertEntry {α : Type} (key : String) (value : α) {entries : List (String × α)}
    (h : KeysUp entries) : KeysUp (insertEntry key value entries) := by
  induction entries with
  | nil => simp [insertEntry, KeysUp]
  | cons p rest ih =>
    obtain ⟨hp, hrest⟩ := List.pairwise_cons.1 h
    simp only [insertEntry]
    split
    · next hlt =>
      refine List.pairwise_cons.2 ⟨fun e he => ?_, h⟩
      rcases List.mem_cons.1 he with rfl | he
      · exact hlt
      · exact String.lt_trans hlt (hp e he)
    · next hlt =>
      split
      · next heq => exact List.pairwise_cons.2 ⟨fun e he => by simpa [heq] using hp e he, hrest⟩
      · next hne =>
        refine List.pairwise_cons.2 ⟨fun e he => ?_, ih hrest⟩
        rcases mem_insertEntry he with hk | he
        · rw [hk]; exact lt_of_not_lt_of_ne hlt hne
        · exact hp e he

theorem find?_insertEntry {α : Type} (key : String) (value : α) (entries : List (String × α))
    (k : String) :
    (insertEntry key value entries).find? (fun e => e.1 == k) =
      if k = key then some (key, value) else entries.find? fun e => e.1 == k := by
  induction entries with
  | nil =>
    by_cases h : k = key
    · subst h; simp [insertEntry]
    · simp [insertEntry, h, Ne.symm h]
  | cons p rest ih =>
    by_cases h : k = key
    · subst h
      simp only [insertEntry]
      split
      · simp
      · next hlt =>
        split
        · simp
        · next hne => simp [ih, Ne.symm hne]
    · simp only [h, if_false] at ih ⊢
      simp only [insertEntry]
      split
      · simp [Ne.symm h]
      · split
        · next heq => subst heq; simp [Ne.symm h]
        · simp [ih, List.find?_cons]

/-- An entry with a key after all others goes behind them. -/
theorem insertEntry_of_lt {α : Type} {key : String} {value : α} {entries : List (String × α)}
    (h : ∀ e ∈ entries, e.1 < key) : insertEntry key value entries = entries ++ [(key, value)] := by
  induction entries with
  | nil => rfl
  | cons p rest ih =>
    have hp : p.1 < key := h p List.mem_cons_self
    have hnot : ¬key < p.1 := fun hlt => String.lt_irrefl _ (String.lt_trans hp hlt)
    have hne : key ≠ p.1 := by
      rintro rfl
      exact hnot hp
    have hrest := ih fun e he => h e (List.mem_cons_of_mem _ he)
    simp [insertEntry, hnot, hne, hrest]

/-! ## Dictionaries -/

/-- A finite map from text to `α`. -/
structure Dict (α : Type) where
  entries : List (String × α)
  sorted : KeysUp entries

namespace Dict

variable {α β : Type}

def empty : Dict α := ⟨[], List.Pairwise.nil⟩

instance : Inhabited (Dict α) := ⟨empty⟩
instance : EmptyCollection (Dict α) := ⟨empty⟩

def isEmpty (d : Dict α) : Bool := d.entries.isEmpty

/-- The value under a key. -/
def get? (d : Dict α) (key : String) : Option α :=
  (d.entries.find? fun e => e.1 == key).map (·.2)

def insert (d : Dict α) (key : String) (value : α) : Dict α :=
  ⟨insertEntry key value d.entries, keysUp_insertEntry key value d.sorted⟩

def erase (d : Dict α) (key : String) : Dict α :=
  ⟨d.entries.filter fun e => e.1 != key, d.sorted.filter _⟩

/-- The dictionary of a list of entries; a later entry wins. -/
def ofList (entries : List (String × α)) : Dict α :=
  entries.foldl (fun d e => d.insert e.1 e.2) empty

def toList (d : Dict α) : List (String × α) := d.entries

def keys (d : Dict α) : List String := d.entries.map (·.1)

theorem keysUp_map (f : α → β) {entries : List (String × α)} (h : KeysUp entries) :
    KeysUp (entries.map fun e => (e.1, f e.2)) :=
  List.pairwise_map.2 h

def map (f : α → β) (d : Dict α) : Dict β :=
  ⟨d.entries.map fun e => (e.1, f e.2), keysUp_map f d.sorted⟩

/-- Entries whose keys come after all that are there are put behind them. -/
theorem entries_foldl_insert (entries : List (String × α)) (d : Dict α)
    (h : KeysUp (d.entries ++ entries)) :
    (entries.foldl (fun d e => d.insert e.1 e.2) d).entries = d.entries ++ entries := by
  induction entries generalizing d with
  | nil => simp
  | cons e rest ih =>
    have hlast : ∀ a ∈ d.entries, a.1 < e.1 := fun a ha =>
      (List.pairwise_append.1 h).2.2 a ha e List.mem_cons_self
    have hinsert : (d.insert e.1 e.2).entries = d.entries ++ [e] := insertEntry_of_lt hlast
    have hup : KeysUp ((d.insert e.1 e.2).entries ++ rest) := by
      rw [hinsert]
      simpa using h
    rw [List.foldl_cons, ih _ hup, hinsert]
    simp

/-- A dictionary is made again of its own entries. -/
theorem ofList_toList (d : Dict α) : ofList d.toList = d := by
  obtain ⟨entries, sorted⟩ := d
  have hentries := entries_foldl_insert entries empty sorted
  unfold ofList toList
  generalize entries.foldl (fun d e => d.insert e.1 e.2) (empty : Dict α) = made at hentries ⊢
  cases made
  simpa [empty] using hentries

/-! ## Looking up -/

@[simp] theorem get?_empty (k : String) : (empty : Dict α).get? k = none := rfl

theorem get?_insert (d : Dict α) (key : String) (value : α) (k : String) :
    (d.insert key value).get? k = if k = key then some value else d.get? k := by
  simp only [get?, insert, find?_insertEntry]
  split <;> rfl

theorem get?_erase (d : Dict α) (key k : String) :
    (d.erase key).get? k = if k = key then none else d.get? k := by
  simp only [get?, erase, List.find?_filter]
  split
  · next h => subst h; simp
  · next h =>
    congr 2
    funext e
    by_cases he : e.1 = k
    · simp [he, h]
    · simp [he]

theorem mem_keys {d : Dict α} {k : String} : k ∈ d.keys ↔ (d.get? k).isSome := by
  simp [keys, get?, List.find?_isSome]

theorem keys_pairwise (d : Dict α) : d.keys.Pairwise (· < ·) := List.pairwise_map.2 d.sorted

theorem nodup_keys (d : Dict α) : d.keys.Nodup :=
  d.keys_pairwise.imp fun h => by rintro rfl; exact String.lt_irrefl _ h

theorem mem_keys_insert {d : Dict α} {key k : String} {value : α} :
    k ∈ (d.insert key value).keys ↔ k = key ∨ k ∈ d.keys := by
  rw [mem_keys, mem_keys, get?_insert]
  split
  · next h => simp [h]
  · next h => simp [h]

end Dict

end CrashReporter
