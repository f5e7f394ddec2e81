import CrashReporter.Metadata
import CrashReporter.Proofs.Dict

-- Metadata that is laid over other metadata. Null takes a value away and the last value takes its
-- section along, one value at a time; what comes of it is said by the look-ups alone, and
-- metadata that was built has one form for all its look-ups.

namespace CrashReporter.Metadata

/-! ## Single values -/

variable {m other : Metadata} {name key : String}

theorem get?_eq_bind (m : Metadata) (name key : String) :
    m.get? name key = (m.section? name).bind fun values => values.get? key := rfl

theorem section?_clearKey (m : Metadata) (name key n : String) :
    (m.clearKey name key).section? n =
      if n = name then
        (m.section? name).bind fun values =>
          if (values.erase key).isEmpty then none else some (values.erase key)
      else m.section? n := by
  unfold clearKey
  cases hsection : m.section? name with
  | none =>
    by_cases hn : n = name
    · rw [if_pos hn, hn]
      exact hsection
    · rw [if_neg hn]
  | some values =>
    simp only [section?, Option.bind_some]
    split
    · exact Dict.get?_erase _ _ _
    · exact Dict.get?_insert _ _ _ _

theorem section?_add {value : Json} (h : value.isNull = false) (m : Metadata)
    (name key n : String) :
    (m.add name key value).section? n =
      if n = name then some (((m.section? name).getD Dict.empty).insert key value)
      else m.section? n := by
  unfold add
  rw [h]
  exact Dict.get?_insert _ _ _ _

theorem get?_clearKey (m : Metadata) (name key n k : String) :
    (m.clearKey name key).get? n k = if n = name ∧ k = key then none else m.get? n k := by
  rw [get?_eq_bind, get?_eq_bind, section?_clearKey]
  by_cases hn : n = name
  · subst hn
    cases hsection : m.section? n with
    | none => simp
    | some values =>
      have hleft : (if (values.erase key).isEmpty then none else some (values.erase key)).bind
          (fun left => left.get? k) = (values.erase key).get? k := by
        split
        · next hempty => rw [Dict.get?_of_isEmpty hempty]; rfl
        · rfl
      simp [hleft, Dict.get?_erase]
  · simp [hn]

/-- What is found where a value is laid over another. Null takes away what is below. -/
def overlay (below : Option Json) : Option Json → Option Json
  | some value => if value.isNull then none else some value
  | none => below

theorem get?_add (m : Metadata) (name key : String) (value : Json) (n k : String) :
    (m.add name key value).get? n k =
      if n = name ∧ k = key then overlay (m.get? n k) (some value) else m.get? n k := by
  cases hnull : value.isNull with
  | true =>
    unfold add overlay
    simp only [hnull, if_true]
    exact m.get?_clearKey name key n k
  | false =>
    simp only [overlay, hnull, Bool.false_eq_true, if_false]
    rw [get?_eq_bind, get?_eq_bind, section?_add hnull]
    by_cases hn : n = name
    · subst hn
      cases hsection : m.section? n with
      | none => simp [Dict.get?_insert]
      | some values => simp [Dict.get?_insert]
    · simp [hn]

/-! ## Sections and all -/

theorem get?_addSection (m : Metadata) (name : String) (values : Dict Json) (n k : String) :
    (m.addSection name values).get? n k =
      if n = name then overlay (m.get? n k) (values.get? k) else m.get? n k := by
  have hfold : ∀ (entries : List (String × Json)) (m : Metadata),
      (entries.foldl (fun m e => m.add name e.1 e.2) m).get? n k =
        if n = name then overlay (m.get? n k) (lastOf k entries) else m.get? n k := by
    intro entries
    induction entries with
    | nil => intro m; simp [lastOf, overlay]
    | cons e rest ih =>
      intro m
      rw [List.foldl_cons, ih, get?_add, lastOf]
      by_cases hn : n = name
      · cases lastOf k rest with
        | some value => simp [hn, overlay]
        | none =>
          by_cases hk : k = e.1
          · simp [hn, hk, overlay]
          · simp [hn, hk, Ne.symm hk, overlay]
      · simp [hn]
  rw [addSection, hfold, Dict.get?_eq_lastOf]

/-- What is laid over metadata decides where it has something to say. -/
theorem get?_merge (m other : Metadata) (n k : String) :
    (m.merge other).get? n k = overlay (m.get? n k) (other.get? n k) := by
  have hfold : ∀ (entries : List (String × Dict Json)) (m : Metadata),
      (entries.map (·.1)).Nodup →
        (entries.foldl (fun m e => m.addSection e.1 e.2) m).get? n k =
          overlay (m.get? n k) ((lastOf n entries).bind fun values => values.get? k) := by
    intro entries
    induction entries with
    | nil => intro m _; rfl
    | cons e rest ih =>
      intro m hnodup
      obtain ⟨hfirst, hrest⟩ := List.nodup_cons.1 hnodup
      rw [List.foldl_cons, ih _ hrest, get?_addSection, lastOf]
      by_cases hn : n = e.1
      · -- No later section has this name.
        rw [hn, lastOf_eq_none hfirst]
        simp [overlay]
      · simp [hn, Ne.symm hn]
  rw [merge, hfold other.sections.toList m other.sections.nodup_keys, other.get?_eq_bind, section?,
    Dict.get?_eq_lastOf]

/-! ## The normal form -/

/-- No section is empty, and no value is null. -/
structure Normal (m : Metadata) : Prop where
  filled : ∀ name values, m.section? name = some values → values.isEmpty = false
  valued : ∀ name key value, m.get? name key = some value → value.isNull = false

namespace Normal

theorem empty : Metadata.empty.Normal :=
  ⟨fun _ _ h => (nomatch h), fun _ _ _ h => (nomatch h)⟩

theorem clearSection (h : m.Normal) (name : String) : (m.clearSection name).Normal := by
  have hsection : ∀ n, (m.clearSection name).section? n =
      if n = name then none else m.section? n := Dict.get?_erase m.sections name
  refine ⟨?_, ?_⟩
  · intro n values hn
    rw [hsection] at hn
    split at hn
    · cases hn
    · exact h.filled n values hn
  · intro n k value hk
    rw [get?_eq_bind, hsection] at hk
    split at hk
    · cases hk
    · exact h.valued n k value hk

theorem clearKey (h : m.Normal) (name key : String) : (m.clearKey name key).Normal := by
  refine ⟨?_, ?_⟩
  · intro n values hn
    rw [section?_clearKey] at hn
    split at hn
    · obtain ⟨old, -, hleft⟩ := Option.bind_eq_some_iff.1 hn
      split at hleft
      · cases hleft
      · next hfilled =>
        cases hleft
        simpa using hfilled
    · exact h.filled n values hn
  · intro n k value hk
    rw [get?_clearKey] at hk
    split at hk
    · cases hk
    · exact h.valued n k value hk

theorem add (h : m.Normal) (name key : String) (value : Json) : (m.add name key value).Normal := by
  cases hnull : value.isNull with
  | true =>
    unfold Metadata.add
    rw [if_pos hnull]
    exact h.clearKey name key
  | false =>
    refine ⟨?_, ?_⟩
    · intro n values hn
      rw [section?_add hnull] at hn
      split at hn
      · cases hn
        exact Dict.isEmpty_insert _ _ _
      · exact h.filled n values hn
    · intro n k found hk
      rw [get?_add] at hk
      split at hk
      · simp only [overlay, hnull, Bool.false_eq_true, if_false] at hk
        cases hk
        exact hnull
      · exact h.valued n k found hk

theorem addSection (h : m.Normal) (name : String) (values : Dict Json) :
    (m.addSection name values).Normal :=
  List.foldlRecOn _ _ h fun _ hm _ _ => hm.add _ _ _

/-- Whatever is laid over metadata in its normal form leaves it so. -/
theorem merge (h : m.Normal) (other : Metadata) : (m.merge other).Normal :=
  List.foldlRecOn _ _ h fun _ hm _ _ => hm.addSection _ _

/-- A section is there exactly if one of its values is. -/
theorem section_iff (h : m.Normal) (name : String) :
    (m.section? name).isSome ↔ ∃ key, (m.get? name key).isSome := by
  cases hsection : m.section? name with
  | none => simp [get?_eq_bind, hsection]
  | some values =>
    obtain ⟨key, hkey⟩ := Dict.exists_get?_of_filled (h.filled name values hsection)
    have hfound : (m.get? name key).isSome := by rwa [get?_eq_bind, hsection]
    exact ⟨fun _ => ⟨key, hfound⟩, fun _ => rfl⟩

/-- In the normal form the look-ups tell all. -/
theorem eq_of_get? (h : m.Normal) (hother : other.Normal)
    (hsame : ∀ name key, m.get? name key = other.get? name key) : m = other := by
  have hsections : m.sections = other.sections := by
    refine Dict.eq_of_get? fun name => ?_
    have hthere : (m.section? name).isSome ↔ (other.section? name).isSome := by
      rw [h.section_iff, hother.section_iff]
      simp only [hsame]
    have hvalues := hsame name
    simp only [get?_eq_bind] at hvalues
    show m.section? name = other.section? name
    cases hm : m.section? name with
    | none =>
      cases ho : other.section? name with
      | none => rfl
      | some values => simp [hm, ho] at hthere
    | some values =>
      cases ho : other.section? name with
      | none => simp [hm, ho] at hthere
      | some others =>
        simp only [hm, ho, Option.bind_some] at hvalues
        rw [Dict.eq_of_get? hvalues]
  cases m
  cases other
  cases hsections
  rfl

/-- What is found is not null, so it counts where it is laid over something. -/
theorem overlay_eq (h : m.Normal) (below : Option Json) (name key : String) :
    overlay below (m.get? name key) = (m.get? name key).or below := by
  cases hget : m.get? name key with
  | none => rfl
  | some value => simp [overlay, h.valued name key value hget]

end Normal

/-! ## The laws -/

/-- A change of metadata. -/
inductive Change
  | add (name key : String) (value : Json)
  | addSection (name : String) (values : Dict Json)
  | clearSection (name : String)
  | clearKey (name key : String)
  | clear
  | merge (other : Metadata)

def change (m : Metadata) : Change → Metadata
  | .add name key value => m.add name key value
  | .addSection name values => m.addSection name values
  | .clearSection name => m.clearSection name
  | .clearKey name key => m.clearKey name key
  | .clear => empty
  | .merge other => m.merge other

/-- What these changes make of empty metadata, one after the other. -/
def built (changes : List Change) : Metadata := changes.foldl change empty

theorem Normal.change (h : m.Normal) (c : Change) : (m.change c).Normal := by
  cases c with
  | add name key value => exact h.add name key value
  | addSection name values => exact h.addSection name values
  | clearSection name => exact h.clearSection name
  | clearKey name key => exact h.clearKey name key
  | clear => exact Normal.empty
  | merge other => exact h.merge other

/-- Metadata that was built has neither empty sections nor nulls, whatever it was built with.
Where some is laid over other, null takes values away and all else counts before what is below;
on what has no empty sections and nulls, laying over is associative and idempotent, the empty
metadata changes nothing, and each section has a value. -/
theorem overlays_have_a_normal_form :
    (∀ changes, (built changes).Normal) ∧
    (∀ (a b : Metadata) (name key : String),
      (a.merge b).get? name key = overlay (a.get? name key) (b.get? name key)) ∧
    (∀ a b c : Metadata, a.Normal → b.Normal → c.Normal →
      (a.merge b).merge c = a.merge (b.merge c)) ∧
    ∀ m : Metadata, m.Normal → m.merge m = m ∧ empty.merge m = m ∧ m.merge empty = m ∧
      ∀ name, (m.section? name).isSome ↔ ∃ key, (m.get? name key).isSome := by
  refine ⟨?_, get?_merge, ?_, ?_⟩
  · intro changes
    exact List.foldlRecOn _ _ Normal.empty fun _ hm c _ => hm.change c
  · intro a b c ha hb hc
    refine ((ha.merge b).merge c).eq_of_get? (ha.merge _) fun name key => ?_
    rw [get?_merge, get?_merge, get?_merge a, (hb.merge c).overlay_eq, get?_merge,
      hc.overlay_eq, hc.overlay_eq, hb.overlay_eq, Option.or_assoc]
  · intro m hm
    refine ⟨?_, ?_, rfl, hm.section_iff⟩
    · refine (hm.merge m).eq_of_get? hm fun name key => ?_
      rw [get?_merge, hm.overlay_eq, Option.or_self]
    · refine (Normal.empty.merge m).eq_of_get? hm fun name key => ?_
      rw [get?_merge, hm.overlay_eq]
      exact Option.or_none

def freeAccount : Metadata :=
  built [.add "account" "tier" (.str "free"), .add "account" "id" (.nat 7)]

def paidAccount : Metadata := built [.add "account" "tier" (.str "pro")]

/-- A section that came and went, and one that stays. -/
def sturdyDevice : Metadata :=
  built [.add "account" "tier" (.str "none"), .add "account" "tier" .null,
    .add "device" "rooted" (.bool false)]

/-- The later tier counts, in whatever order the three are laid over each other. -/
theorem the_paid_tier_lies_on_top :
    freeAccount.Normal ∧ paidAccount.Normal ∧ sturdyDevice.Normal ∧
      (freeAccount.merge paidAccount).merge sturdyDevice =
        freeAccount.merge (paidAccount.merge sturdyDevice) ∧
      (freeAccount.merge (paidAccount.merge sturdyDevice)).get? "account" "tier" =
        some (.str "pro") := by
  obtain ⟨hbuilt, hget, hassoc, -⟩ := overlays_have_a_normal_form
  refine ⟨hbuilt _, hbuilt _, hbuilt _,
    hassoc freeAccount paidAccount sturdyDevice (hbuilt _) (hbuilt _) (hbuilt _), ?_⟩
  rw [hget, hget]
  rfl

/-- What was read may hold a null. It takes nothing away where nothing is below it, so that the
order counts then. -/
example :
    let read : Metadata := ⟨Dict.empty.insert "account" (Dict.empty.insert "tier" .null)⟩
    ((freeAccount.merge empty).merge read).get? "account" "tier" = none ∧
      (freeAccount.merge (empty.merge read)).get? "account" "tier" = some (.str "free") :=
  ⟨rfl, rfl⟩

end CrashReporter.Metadata
