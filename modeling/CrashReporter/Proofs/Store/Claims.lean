import CrashReporter.Proofs.Store.Calls

-- Claims on records. What a store has reserved is what some claim returned and nobody gave up
-- since, so that each claim returns exactly the records that no claim before it still holds.

namespace CrashReporter.RecordStore

variable {α : Type} {past : List (Deed α)} {deed : Deed α} {s : RecordStore α} {name : String}

/-! ## Outstanding claims -/

theorem mem_names_of_claims (h : name ∈ deed.claims) : name ∈ deed.before.names := by
  unfold Deed.claims at h
  split at h
  · next names t _ hclaim =>
    rw [(claim_eq_ok hclaim).1] at h
    exact (mem_unclaimed.1 h).1
  · cases h

/-- A claim returned the record, and nobody cancelled or deleted it since. -/
def Outstanding (past : List (Deed α)) (name : String) : Prop :=
  ∃ earlier deed later, past = earlier ++ deed :: later ∧ name ∈ deed.claims ∧
    ∀ other ∈ later, ¬ other.Cancels name ∧ ¬ other.Deletes name

theorem outstanding_concat :
    Outstanding (past ++ [deed]) name ↔
      name ∈ deed.claims ∨ Outstanding past name ∧ ¬ deed.Cancels name ∧ ¬ deed.Deletes name := by
  constructor
  · rintro ⟨earlier, claim, later, hsplit, hclaim, hlater⟩
    rcases split_concat hsplit with ⟨-, rfl, -⟩ | ⟨between, rfl, rfl⟩
    · exact .inl hclaim
    · refine .inr ⟨⟨earlier, claim, between, rfl, hclaim, ?_⟩, ?_⟩
      · intro other hother
        exact hlater other (List.mem_append_left _ hother)
      · exact hlater deed (by simp)
  · rintro (hclaim | ⟨⟨earlier, claim, later, rfl, hclaim, hlater⟩, hkept⟩)
    · exact ⟨past, deed, [], rfl, hclaim, fun _ hnone => nomatch hnone⟩
    · refine ⟨earlier, claim, later ++ [deed], by simp, hclaim, ?_⟩
      intro other hother
      rcases List.mem_append.1 hother with hold | hlast
      · exact hlater other hold
      · obtain rfl := List.mem_singleton.1 hlast
        exact hkept

/-! ## What is reserved -/

variable [Storable α]

/-- Claims reserve what they return, cancelling and deleting release what they name, and nothing
else touches a reservation. -/
theorem mem_reserved_carryOut (s : RecordStore α) (call : Call α) :
    name ∈ (s.carryOut call).reserved ↔ name ∈ Deed.claims ⟨s, call⟩ ∨
      name ∈ s.reserved ∧ ¬ Deed.Cancels ⟨s, call⟩ name ∧ ¬ Deed.Deletes ⟨s, call⟩ name := by
  cases call with
  | write item reading tag =>
    rw [carryOut, reserved_write]
    simp [Deed.claims, Deed.Cancels, Deed.Deletes]
  | claim =>
    rw [carryOut_claim]
    simp [Deed.Cancels, Deed.Deletes, or_comm]
  | cancel names => simp [carryOut, cancel, Deed.claims, Deed.Cancels, Deed.Deletes]
  | delete names => simp [carryOut, Deed.claims, Deed.Cancels, Deed.Deletes]
  | read other => simp [carryOut, Deed.claims, Deed.Cancels, Deed.Deletes]
  | enumerate => simp [carryOut, Deed.claims, Deed.Cancels, Deed.Deletes]

/-- What is reserved is what is outstanding. -/
theorem History.mem_reserved_iff (h : History past s) :
    name ∈ s.reserved ↔ Outstanding past name := by
  induction h with
  | opened h =>
    obtain ⟨f, _, rfl⟩ := openAt_eq_ok h
    simp [Outstanding]
  | step _ call _ ih => rw [mem_reserved_carryOut, outstanding_concat, ih]

/-- A claim returns the records that are listed and not outstanding. -/
theorem History.mem_claims_iff (h : History past s) :
    name ∈ Deed.claims ⟨s, .claim⟩ ↔ name ∈ s.names ∧ ¬ Outstanding past name := by
  obtain ⟨f, hf⟩ := h.folder
  unfold Deed.claims
  rw [claim_of_folder hf, mem_unclaimed, h.mem_reserved_iff]

/-- A record that two claims return was given up in between: it was cancelled, or it was deleted
and is still there. -/
theorem History.given_up_between (h : History past s) {earlier later : List (Deed α)}
    (hsplit : past = earlier ++ deed :: later) (hfirst : name ∈ deed.claims)
    (hagain : name ∈ Deed.claims ⟨s, .claim⟩) :
    ∃ other ∈ later, other.Cancels name ∨ other.Deletes name ∧ name ∈ other.after.names := by
  obtain ⟨hthere, hfree⟩ := h.mem_claims_iff.1 hagain
  have hgiven : ∃ other ∈ later, other.Cancels name ∨ other.Deletes name := by
    by_contra hnone
    refine hfree ⟨earlier, deed, later, hsplit, hfirst, ?_⟩
    intro other hother
    exact ⟨fun hcancel => hnone ⟨other, hother, .inl hcancel⟩,
      fun hdelete => hnone ⟨other, hother, .inr hdelete⟩⟩
  obtain ⟨other, hother, hcancel | hdelete⟩ := hgiven
  · exact ⟨other, hother, .inl hcancel⟩
  · refine ⟨other, hother, .inr ⟨hdelete, ?_⟩⟩
    by_contra hgone
    -- A record that was deleted does not come back, and this one is there.
    obtain ⟨between, rest, rfl⟩ := List.append_of_mem hother
    have hsplit' : past = (earlier ++ deed :: between) ++ other :: rest := by
      simpa using hsplit
    have hknown : Known (earlier ++ deed :: between) other.before name :=
      .inr ⟨deed, by simp, mem_names_of_claims hfirst⟩
    exact h.stays_gone hsplit' hknown hgone hthere

/-! ## The law -/

/-- Claims are exclusive and complete. A claim returns the records that are listed, in the order
of the list, but for those that an earlier claim returned and nobody cancelled or deleted since.
So two claims return the same record only if it was cancelled in between, or deleted in vain.
Giving claims up changes no file, and deleting changes none but those it names; afterwards none
of these names is reserved. -/
theorem claims_are_exclusive_and_complete (h : History past s) :
    (∃ records claimed t, s.enumerate = .ok records ∧ s.claim = .ok (claimed, t) ∧
      claimed.Sublist records ∧
      ∀ name, name ∈ claimed ↔ name ∈ records ∧ ¬ Outstanding past name) ∧
    (∀ earlier deed later name, past = earlier ++ deed :: later → name ∈ deed.claims →
      name ∈ Deed.claims ⟨s, .claim⟩ →
      ∃ other ∈ later, other.Cancels name ∨ other.Deletes name ∧ name ∈ other.after.names) ∧
    ∀ names : List String, (s.cancel names).place = s.place ∧
      (∀ name, (s.delete names).found? name ≠ s.found? name →
        name ∈ names ∧ (s.delete names).found? name = none) ∧
      ∀ name ∈ names, name ∉ (s.cancel names).reserved ∧ name ∉ (s.delete names).reserved := by
  obtain ⟨f, hf⟩ := h.folder
  refine ⟨⟨s.names, s.unclaimed s.names, _, enumerate_of_folder hf, claim_of_folder hf,
    List.filter_sublist, ?_⟩, ?_, ?_⟩
  · intro name
    rw [mem_unclaimed, h.mem_reserved_iff]
  · intro earlier deed later name hsplit hfirst hagain
    exact h.given_up_between hsplit hfirst hagain
  · intro names
    refine ⟨rfl, ?_, ?_⟩
    · intro name hchanged
      rw [found?_delete] at hchanged ⊢
      split at hchanged
      · next hgone => exact ⟨hgone.1, if_pos hgone⟩
      · exact absurd rfl hchanged
    · intro name hname
      simp [cancel, hname]

/-- A directory in the place of a record, and a record. -/
def obstructedFolder : Folder :=
  Dict.ofList [("00000000000000000001_dir.json", .folder),
    ("00000000000000000002_file.json", .file (.text ""))]

/-- Both are claimed and deleted, the directory by two handles and a record that never was by a
third. Only the directory is there to be claimed again, since deleting it was in vain. -/
theorem what_cannot_be_deleted_is_claimed_again :
    ∃ (past : List (Deed Json)) (s t : RecordStore Json), History past s ∧
      past.map Deed.call = [.claim, .delete ["00000000000000000001_dir.json",
        "00000000000000000002_file.json", "gone", "00000000000000000001_dir.json"]] ∧
      s.claim = .ok (["00000000000000000001_dir.json"], t) ∧
      ∃ other ∈ past.tail, other.Deletes "00000000000000000001_dir.json" ∧
        "00000000000000000001_dir.json" ∈ other.after.names := by
  have hopened := @History.opened Json _ .event 9 (.folder obstructedFolder) _ rfl
  have hdeleted := (hopened.step .claim trivial).step (.delete ["00000000000000000001_dir.json",
    "00000000000000000002_file.json", "gone", "00000000000000000001_dir.json"]) trivial
  obtain ⟨-, hoverlap, -⟩ := claims_are_exclusive_and_complete hdeleted
  obtain ⟨other, hother, hcancel | hdelete⟩ :=
    hoverlap [] _ _ "00000000000000000001_dir.json" rfl (by decide) (by decide)
  · obtain rfl := List.mem_singleton.1 hother
    obtain ⟨_, hcall, -⟩ := hcancel
    cases hcall
  · exact ⟨_, _, _, hdeleted, rfl, rfl, other, hother, hdelete⟩

end CrashReporter.RecordStore
