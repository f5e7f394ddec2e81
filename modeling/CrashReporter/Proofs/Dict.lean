import CrashReporter.Dict

-- Looking up in a list of entries in which a key may be given twice. The dictionary of the
-- entries has the last value under each key.

namespace CrashReporter

/-- The value under a key; of two with one key the later counts. -/
def lastOf {α : Type} (key : String) : List (String × α) → Option α
  | [] => none
  | (k, x) :: rest => (lastOf key rest).or (if k = key then some x else none)

section Entries

variable {α β : Type} {key : String}

theorem lastOf_map (f : α → β) (entries : List (String × α)) :
    lastOf key (entries.map fun e => (e.1, f e.2)) = (lastOf key entries).map f := by
  induction entries with
  | nil => rfl
  | cons e rest ih =>
    simp only [List.map_cons, lastOf, ih, Option.map_or]
    split <;> rfl

theorem lastOf_filter (p : String → Bool) (entries : List (String × α)) :
    lastOf key (entries.filter fun e => p e.1) = if p key then lastOf key entries else none := by
  induction entries with
  | nil => simp [lastOf]
  | cons e rest ih =>
    obtain ⟨k, x⟩ := e
    by_cases hk : k = key
    · subst hk
      cases hp : p k <;> simp [hp, lastOf, ih]
    · cases hp : p k <;> simp [hp, lastOf, ih, hk]

theorem lastOf_append (entries more : List (String × α)) :
    lastOf key (entries ++ more) = (lastOf key more).or (lastOf key entries) := by
  induction entries with
  | nil => simp [lastOf]
  | cons e rest ih => simp [lastOf, ih, Option.or_assoc]

theorem lastOf_eq_none {entries : List (String × α)} (h : key ∉ entries.map (·.1)) :
    lastOf key entries = none := by
  induction entries with
  | nil => rfl
  | cons e rest ih =>
    obtain ⟨hfirst, hrest⟩ := not_or.1 (mt List.mem_cons.2 h)
    simp [lastOf, ih hrest, Ne.symm hfirst]

/-- Where no key is given twice, the first entry is the last. -/
theorem lastOf_of_nodup {entries : List (String × α)} (h : (entries.map (·.1)).Nodup) :
    lastOf key entries = (entries.find? fun e => e.1 == key).map (·.2) := by
  induction entries with
  | nil => rfl
  | cons e rest ih =>
    obtain ⟨hfirst, hrest⟩ := List.nodup_cons.1 h
    by_cases hk : e.1 = key
    · subst hk
      simp [lastOf, lastOf_eq_none hfirst]
    · simp [lastOf, hk, ih hrest]

theorem lastOf_of_mem {entries : List (String × α)} (h : (entries.map (·.1)).Nodup)
    {e : String × α} (he : e ∈ entries) : lastOf e.1 entries = some e.2 := by
  induction entries with
  | nil => cases he
  | cons first rest ih =>
    obtain ⟨hfirst, hrest⟩ := List.nodup_cons.1 h
    rcases List.mem_cons.1 he with rfl | he
    · simp [lastOf, lastOf_eq_none hfirst]
    · rw [lastOf, ih hrest he]
      rfl

theorem mem_of_lastOf {entries : List (String × α)} {x : α} (h : lastOf key entries = some x) :
    (key, x) ∈ entries := by
  induction entries with
  | nil => cases h
  | cons e rest ih =>
    rw [lastOf] at h
    rcases Option.or_eq_some_iff.1 h with hrest | ⟨_, hhere⟩
    · exact List.mem_cons_of_mem _ (ih hrest)
    · split at hhere
      · next hk =>
        cases hhere
        exact hk ▸ List.mem_cons_self
      · cases hhere

/-! ## Dictionaries of entries -/

theorem Dict.get?_ofList (entries : List (String × α)) :
    (ofList entries).get? key = lastOf key entries := by
  have hfold : ∀ (entries : List (String × α)) (d : Dict α),
      (entries.foldl (fun d e => d.insert e.1 e.2) d).get? key =
        (lastOf key entries).or (d.get? key) := by
    intro entries
    induction entries with
    | nil => exact fun _ => rfl
    | cons e rest ih =>
      intro d
      rw [List.foldl_cons, ih, Dict.get?_insert, lastOf, Option.or_assoc]
      by_cases hk : e.1 = key
      · simp [hk]
      · simp [hk, Ne.symm hk]
  simpa [ofList] using hfold entries empty

theorem Dict.get?_eq_lastOf (d : Dict α) : d.get? key = lastOf key d.toList := by
  rw [← Dict.get?_ofList, Dict.ofList_toList]

theorem Dict.get?_of_mem {d : Dict α} {e : String × α} (h : e ∈ d.toList) :
    d.get? e.1 = some e.2 := by
  rw [Dict.get?_eq_lastOf]
  exact lastOf_of_mem d.nodup_keys h

/-- Dictionaries with the same look-ups are equal. -/
theorem Dict.eq_of_get? {d e : Dict α} (h : ∀ key, d.get? key = e.get? key) : d = e := by
  have hsub : ∀ {d e : Dict α}, (∀ key, d.get? key = e.get? key) → d.entries ⊆ e.entries := by
    intro d e h entry hentry
    have hget := Dict.get?_of_mem hentry
    rw [h, Dict.get?_eq_lastOf] at hget
    exact mem_of_lastOf hget
  have hnodup : ∀ d : Dict α, d.entries.Nodup := by
    intro d
    refine d.sorted.imp ?_
    rintro a b hlt rfl
    exact String.lt_irrefl _ hlt
  have hperm : d.entries.Perm e.entries :=
    (List.perm_ext_iff_of_nodup (hnodup d) (hnodup e)).2 fun _ =>
      ⟨fun hd => hsub h hd, fun he => hsub (fun key => (h key).symm) he⟩
  have hentries : d.entries = e.entries := by
    refine hperm.eq_of_pairwise ?_ d.sorted e.sorted
    intro x y _ _ hxy hyx
    exact absurd (String.lt_trans hxy hyx) (String.lt_irrefl _)
  cases d
  cases e
  cases hentries
  rfl

theorem Dict.get?_of_isEmpty {d : Dict α} (h : d.isEmpty = true) : d.get? key = none := by
  rw [Dict.isEmpty, List.isEmpty_iff] at h
  rw [Dict.get?, h]
  rfl

theorem Dict.exists_get?_of_filled {d : Dict α} (h : d.isEmpty = false) :
    ∃ key, (d.get? key).isSome := by
  cases hentries : d.entries with
  | nil => simp [Dict.isEmpty, hentries] at h
  | cons e rest =>
    have hmem : e ∈ d.toList := by
      rw [Dict.toList, hentries]
      exact List.mem_cons_self
    exact ⟨e.1, by rw [Dict.get?_of_mem hmem]; rfl⟩

theorem Dict.isEmpty_insert (d : Dict α) (key : String) (value : α) :
    (d.insert key value).isEmpty = false := by
  cases hempty : (d.insert key value).isEmpty with
  | false => rfl
  | true =>
    have hget := d.get?_insert key value key
    rw [Dict.get?_of_isEmpty hempty, if_pos rfl] at hget
    cases hget

theorem Dict.mem_of_mem_ofList {entries : List (String × α)} {e : String × α}
    (h : e ∈ (ofList entries).toList) : e ∈ entries := by
  have hget := Dict.get?_of_mem h
  rw [Dict.get?_ofList] at hget
  exact mem_of_lastOf hget

end Entries

end CrashReporter
