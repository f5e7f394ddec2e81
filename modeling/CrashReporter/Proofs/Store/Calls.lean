import CrashReporter.Proofs.Store.Order

-- An open store at work. Records are written, claimed, given up, deleted and read in any order,
-- under any names. A record that is there, or was there once, bears no later stamp than the last
-- one of the store, so that no record takes the name of another that came before it.

namespace CrashReporter.RecordStore

/-! ## Calls -/

/-- What is asked of an open store. Whoever asks says which records are meant: a name may come
twice, or be one that was never claimed, or that no record has any more. -/
inductive Call (α : Type)
  | write (item : α) (reading : Int64) (tag : Nat)
  | claim
  | cancel (names : List String)
  | delete (names : List String)
  | read (name : String)
  | enumerate

/-- A call, and the store that it was made to. -/
structure Deed (α : Type) where
  before : RecordStore α
  call : Call α

variable {α : Type} [Storable α]

/-- The store after a call. -/
def carryOut (s : RecordStore α) : Call α → RecordStore α
  | .write item reading tag => (s.write item (stampTime reading) tag).1
  | .claim =>
    match s.claim with
    | .ok (_, t) => t
    | .error _ => s
  | .cancel names => s.cancel names
  | .delete names => s.delete names
  | .read _ | .enumerate => s

namespace Deed

def after (deed : Deed α) : RecordStore α := deed.before.carryOut deed.call

/-- The records that were claimed. -/
def claims (deed : Deed α) : List String :=
  match deed.call, deed.before.claim with
  | .claim, .ok (names, _) => names
  | _, _ => []

def Cancels (deed : Deed α) (name : String) : Prop :=
  ∃ names, deed.call = .cancel names ∧ name ∈ names

def Deletes (deed : Deed α) (name : String) : Prop :=
  ∃ names, deed.call = .delete names ∧ name ∈ names

end Deed

/-! ## Histories -/

/-- A record of this name is there, or was there at an earlier call. -/
def Known (past : List (Deed α)) (s : RecordStore α) (name : String) : Prop :=
  name ∈ s.names ∨ ∃ deed ∈ past, name ∈ deed.before.names

/-- Something tells a record that is written from all that were ever there: a stamp is left, or
none of them has its tag. -/
def Distinct (past : List (Deed α)) (s : RecordStore α) : Call α → Prop
  | .write _ _ tag => s.lastStamp < RecordName.lastStamp ∨
      ∀ stamp, ¬ Known past s (RecordName.ofStamp stamp tag)
  | _ => True

/-- What was asked of a store since it was opened on a directory, whatever the directory held,
and what became of the store. -/
inductive History : List (Deed α) → RecordStore α → Prop
  | opened {kind : PayloadKind} {limit : Nat} {place : Place} {s : RecordStore α}
      (h : openAt kind limit place = .ok s) : History [] s
  | step {past : List (Deed α)} {s : RecordStore α} (h : History past s) (call : Call α)
      (distinct : Distinct past s call) : History (past ++ [⟨s, call⟩]) (s.carryOut call)

variable {past earlier later : List (Deed α)} {deed : Deed α} {s : RecordStore α} {name : String}

/-- A split of a list with one more at its end: before that one, or within the list. -/
theorem split_concat {β : Type} {l before after : List β} {last x : β}
    (h : l ++ [last] = before ++ x :: after) :
    (l = before ∧ last = x ∧ after = []) ∨
      ∃ between, after = between ++ [last] ∧ l = before ++ x :: between := by
  rcases List.eq_nil_or_concat' after with rfl | ⟨between, y, rfl⟩
  · obtain ⟨hl, hlast⟩ := List.append_inj' h rfl
    exact .inl ⟨hl, List.singleton_inj.1 hlast, rfl⟩
  · have h' : l ++ [last] = (before ++ x :: between) ++ [y] := by simpa using h
    obtain ⟨hl, hlast⟩ := List.append_inj' h' rfl
    obtain rfl := List.singleton_inj.1 hlast
    exact .inr ⟨between, rfl, hl⟩

/-! ## What a call does -/

theorem carryOut_claim (s : RecordStore α) :
    s.carryOut .claim =
      { s with reserved := s.reserved ++ Deed.claims ⟨s, .claim⟩ } := by
  unfold carryOut Deed.claims
  cases hclaim : s.claim with
  | error e => simp
  | ok claimed =>
    obtain ⟨names, t⟩ := claimed
    exact (claim_eq_ok hclaim).2

theorem folder_carryOut {f : Folder} (h : s.place = .folder f) (call : Call α) :
    ∃ g, (s.carryOut call).place = .folder g := by
  cases call with
  | write item reading tag => exact folder_write h item _ tag
  | claim => exact ⟨f, by rw [carryOut_claim, h]⟩
  | cancel names => exact ⟨f, h⟩
  | delete names => exact ⟨_, by rw [carryOut, delete_of_folder h]⟩
  | read name => exact ⟨f, h⟩
  | enumerate => exact ⟨f, h⟩

theorem lastStamp_carryOut (h : s.lastStamp ≤ RecordName.lastStamp) (call : Call α) :
    s.lastStamp ≤ (s.carryOut call).lastStamp ∧
      (s.carryOut call).lastStamp ≤ RecordName.lastStamp := by
  cases call with
  | write item reading tag =>
    rw [carryOut, lastStamp_write]
    exact ⟨RecordName.le_stampAfter h _, s.newStamp_le reading⟩
  | claim =>
    rw [carryOut_claim]
    exact ⟨Nat.le_refl _, h⟩
  | delete names =>
    rw [carryOut, lastStamp_delete]
    exact ⟨Nat.le_refl _, h⟩
  | cancel names => exact ⟨Nat.le_refl _, h⟩
  | read name => exact ⟨Nat.le_refl _, h⟩
  | enumerate => exact ⟨Nat.le_refl _, h⟩

/-- No record appears but the one that is written. -/
theorem mem_names_carryOut {call : Call α} (h : name ∈ (s.carryOut call).names) :
    name ∈ s.names ∨ ∃ item reading tag, call = .write item reading tag ∧
      (s.write item (stampTime reading) tag).2 = .ok name := by
  cases call with
  | write item reading tag =>
    exact (mem_names_of_write h).imp_right fun hnew => ⟨item, reading, tag, rfl, hnew⟩
  | claim =>
    rw [carryOut_claim] at h
    exact .inl h
  | delete names => exact .inl (mem_names_of_delete h)
  | cancel names => exact .inl h
  | read name => exact .inl h
  | enumerate => exact .inl h

/-! ## What a history keeps -/

namespace History

theorem folder (h : History past s) : ∃ f, s.place = .folder f := by
  induction h with
  | opened h =>
    obtain ⟨f, _, rfl⟩ := openAt_eq_ok h
    exact ⟨f.tidy, rfl⟩
  | step _ call _ ih =>
    obtain ⟨f, hf⟩ := ih
    exact folder_carryOut hf call

theorem last_le (h : History past s) : s.lastStamp ≤ RecordName.lastStamp := by
  induction h with
  | opened h =>
    obtain ⟨f, _, rfl⟩ := openAt_eq_ok h
    exact f.largestStamp_le
  | step _ call _ ih => exact (lastStamp_carryOut ih call).2

theorem known_step {call : Call α} (h : Known (past ++ [⟨s, call⟩]) (s.carryOut call) name) :
    Known past s name ∨ name ∈ (s.carryOut call).names := by
  rcases h with hnow | ⟨deed, hdeed, hthere⟩
  · exact .inr hnow
  · rcases List.mem_append.1 hdeed with hpast | hlast
    · exact .inl (.inr ⟨deed, hpast, hthere⟩)
    · obtain rfl := List.mem_singleton.1 hlast
      exact .inl (.inl hthere)

/-- A record has no later stamp than the last one, also when it is gone. -/
theorem stamp_le (h : History past s) (hknown : Known past s name) {stamp : Nat}
    (hstamp : RecordName.stamp? name = some stamp) : stamp ≤ s.lastStamp := by
  induction h with
  | opened h =>
    obtain ⟨f, _, rfl⟩ := openAt_eq_ok h
    have hname : name ∈ f.records := by
      rcases hknown with hname | ⟨_, hnone, _⟩
      · rwa [names_of_folder rfl, Folder.records_tidy] at hname
      · cases hnone
    exact Folder.le_largestStamp hname hstamp
  | @step past s h call _ ih =>
    have hlater := (lastStamp_carryOut h.last_le call).1
    have hold : Known past s name → stamp ≤ (s.carryOut call).lastStamp :=
      fun hbefore => Nat.le_trans (ih hbefore) hlater
    rcases known_step hknown with hbefore | hnow
    · exact hold hbefore
    · rcases mem_names_carryOut hnow with hthere | ⟨item, reading, tag, rfl, hwritten⟩
      · exact hold (.inl hthere)
      · obtain ⟨f, hf⟩ := h.folder
        rw [write_of_folder hf] at hwritten
        obtain rfl := Except.ok.inj hwritten
        have hle := s.newStamp_le reading
        rw [newName, RecordName.stamp?_ofStamp hle] at hstamp
        rw [carryOut, lastStamp_write, Option.some.inj hstamp]

/-- A record that is written has a name that no record ever had. -/
theorem newName_not_known (h : History past s) {item : α} {reading : Int64} {tag : Nat}
    (distinct : Distinct past s (.write item reading tag)) :
    ¬ Known past s (s.newName (stampTime reading) tag) := by
  rcases distinct with hleft | hnew
  · intro hknown
    have hle := s.newStamp_le reading
    have hbefore := h.stamp_le hknown (RecordName.stamp?_ofStamp hle tag)
    exact Nat.not_lt_of_le hbefore (RecordName.lt_stampAfter hleft _)
  · exact hnew _

/-- What is gone does not come back. -/
theorem stays_gone (h : History past s) (hsplit : past = earlier ++ deed :: later)
    (hknown : Known earlier deed.before name) (hgone : name ∉ deed.after.names) :
    name ∉ s.names := by
  induction h generalizing later with
  | opened h => simp at hsplit
  | @step past s h call distinct ih =>
    rcases split_concat hsplit with ⟨rfl, rfl, -⟩ | ⟨between, -, rfl⟩
    · exact hgone
    · have hbefore : Known (earlier ++ deed :: between) s name := by
        rcases hknown with hthere | ⟨other, hother, hthere⟩
        · exact .inr ⟨deed, by simp, hthere⟩
        · exact .inr ⟨other, by simp [hother], hthere⟩
      intro hback
      rcases mem_names_carryOut hback with hthere | ⟨item, reading, tag, rfl, hwritten⟩
      · exact ih rfl hthere
      · obtain ⟨f, hf⟩ := h.folder
        rw [write_of_folder hf] at hwritten
        obtain rfl := Except.ok.inj hwritten
        exact h.newName_not_known distinct hbefore

end History

end CrashReporter.RecordStore
