import CrashReporter.Proofs.Callback
import Mathlib.Data.List.Nodup

-- What a run of callbacks does, one act after the other. A run calls the callbacks that were
-- registered when it began, in their order, up to the first that vetoes. What they do to the
-- chain meanwhile shows in the next run only. However often callbacks are added, removed and
-- run, each id is given to one callback, and takes it out once.

namespace CrashReporter

variable {α : Type}

/-! ## Acts -/

/-- One thing that is done to a subject or to a chain, with what the chain answers. -/
inductive Act (α : Type)
  | edit (change : α → α)
  | remark (text : Json)
  | add (callback : Callback α) (id : CallbackId)
  | remove (id : CallbackId) (found : Bool)

/-- Only edits change the subject. -/
def Act.subject (x : α) : Act α → α
  | edit change => change x
  | _ => x

/-- Only additions and removals change the chain. -/
def Act.chain (c : CallbackChain α) : Act α → CallbackChain α
  | add callback _ => (c.add callback).2
  | remove id _ => c.remove id
  | _ => c

def Act.remark? : Act α → Option Incident
  | remark text => some (.remark text)
  | _ => none

/-- The subject after some acts. -/
def subjectAfter (x : α) (acts : List (Act α)) : α := acts.foldl Act.subject x

/-- The chain after some acts. -/
def chainAfter (c : CallbackChain α) (acts : List (Act α)) : CallbackChain α :=
  acts.foldl Act.chain c

theorem subjectAfter_append (x : α) (acts more : List (Act α)) :
    subjectAfter x (acts ++ more) = subjectAfter (subjectAfter x acts) more := List.foldl_append

theorem chainAfter_append (c : CallbackChain α) (acts more : List (Act α)) :
    chainAfter c (acts ++ more) = chainAfter (chainAfter c acts) more := List.foldl_append

/-- A callback that is called on a subject, with this chain, does all this and ends so. -/
inductive Callback.Does :
    Callback α → CallbackChain α → α → List (Act α) → Verdict → Prop
  | reply {c : CallbackChain α} {x : α} (verdict : α → Verdict) :
      Does (.reply verdict) c x [] (verdict x)
  | edit {c : CallbackChain α} {x : α} {change : α → α} {next : Callback α}
      {acts : List (Act α)} {verdict : Verdict} (h : Does next c (change x) acts verdict) :
      Does (.edit change next) c x (.edit change :: acts) verdict
  | remark {c : CallbackChain α} {x : α} {text : α → Json} {next : Callback α}
      {acts : List (Act α)} {verdict : Verdict} (h : Does next c x acts verdict) :
      Does (.remark text next) c x (.remark (text x) :: acts) verdict
  | inspect {c : CallbackChain α} {x : α} {next : α → Callback α} {acts : List (Act α)}
      {verdict : Verdict} (h : Does (next x) c x acts verdict) :
      Does (.inspect next) c x acts verdict
  | register {c : CallbackChain α} {x : α} {callback : Callback α}
      {next : CallbackId → Callback α} {acts : List (Act α)} {verdict : Verdict}
      (h : Does (next (c.add callback).1) (c.add callback).2 x acts verdict) :
      Does (.register callback next) c x (.add callback (c.add callback).1 :: acts) verdict
  | unregister {c : CallbackChain α} {x : α} {id : CallbackId} {next : Bool → Callback α}
      {acts : List (Act α)} {verdict : Verdict}
      (h : Does (next (c.contains id)) (c.remove id) x acts verdict) :
      Does (.unregister id next) c x (.remove id (c.contains id) :: acts) verdict

/-- Every callback comes to an end. -/
theorem Callback.exists_does (callback : Callback α) (c : CallbackChain α) (x : α) :
    ∃ acts verdict, callback.Does c x acts verdict := by
  induction callback generalizing c x with
  | reply verdict => exact ⟨_, _, .reply verdict⟩
  | edit change next ih =>
    obtain ⟨acts, verdict, h⟩ := ih c (change x)
    exact ⟨_, _, h.edit⟩
  | remark text next ih =>
    obtain ⟨acts, verdict, h⟩ := ih c x
    exact ⟨_, _, h.remark⟩
  | inspect next ih =>
    obtain ⟨acts, verdict, h⟩ := ih x c x
    exact ⟨_, _, h.inspect⟩
  | register callback next _ ih =>
    obtain ⟨acts, verdict, h⟩ := ih _ (c.add callback).2 x
    exact ⟨_, _, h.register⟩
  | unregister id next ih =>
    obtain ⟨acts, verdict, h⟩ := ih _ (c.remove id) x
    exact ⟨_, _, h.unregister⟩

/-- What the host sees of a verdict. -/
def Verdict.incident? : Verdict → Option Incident
  | .panic raised => some (.panic raised)
  | _ => none

/-- A call leaves the chain and the subject as the acts of the callback left them, whatever its
verdict, and only a veto stops the run. -/
theorem Callback.Does.call {callback : Callback α} {c : CallbackChain α} {x : α}
    {acts : List (Act α)} {verdict : Verdict} (h : callback.Does c x acts verdict)
    (incidents : List Incident) :
    ({ chain := c, subject := x, incidents } : CallbackRun α).call callback =
      { chain := chainAfter c acts
        subject := subjectAfter x acts
        proceed := decide (verdict ≠ .veto)
        incidents := incidents ++ (acts.filterMap Act.remark? ++ verdict.incident?.toList) } := by
  induction h generalizing incidents with
  | @reply c x verdict =>
    unfold CallbackRun.call CallbackRun.settle
    cases verdict x <;> simp [Verdict.incident?, chainAfter, subjectAfter]
  | edit h ih => exact ih incidents
  | @remark c x text next acts verdict h ih =>
    refine (ih (incidents ++ [.remark (text x)])).trans ?_
    simp [Act.remark?, chainAfter, subjectAfter, Act.chain, Act.subject]
  | inspect h ih => exact ih incidents
  | register h ih => exact ih incidents
  | unregister h ih => exact ih incidents

/-! ## Walks -/

/-- A registered callback that is called. -/
structure Invocation (α : Type) where
  entry : CallbackId × Callback α
  acts : List (Act α)
  verdict : Verdict

/-- What the host sees of it. -/
def Invocation.incidents (call : Invocation α) : List Incident :=
  call.acts.filterMap Act.remark? ++ call.verdict.incident?.toList

/-- All that is done in some calls. -/
def allActs (calls : List (Invocation α)) : List (Act α) := calls.flatMap Invocation.acts

/-- Callbacks that are called in turn. Each finds the chain and the subject as those before it
left them, and none is called after a veto. -/
inductive Walk : List (CallbackId × Callback α) → CallbackChain α → α → List (Invocation α) → Prop
  | ended (c : CallbackChain α) (x : α) : Walk [] c x []
  | vetoed {entry : CallbackId × Callback α} {rest : List (CallbackId × Callback α)}
      {c : CallbackChain α} {x : α} {acts : List (Act α)} (h : entry.2.Does c x acts .veto) :
      Walk (entry :: rest) c x [⟨entry, acts, .veto⟩]
  | goesOn {entry : CallbackId × Callback α} {rest : List (CallbackId × Callback α)}
      {c : CallbackChain α} {x : α} {acts : List (Act α)} {verdict : Verdict}
      {calls : List (Invocation α)} (h : entry.2.Does c x acts verdict)
      (hproceeds : verdict ≠ .veto)
      (hrest : Walk rest (chainAfter c acts) (subjectAfter x acts) calls) :
      Walk (entry :: rest) c x (⟨entry, acts, verdict⟩ :: calls)

namespace Walk

variable {entries : List (CallbackId × Callback α)} {c : CallbackChain α} {x : α}
  {calls : List (Invocation α)}

theorem exists_walk (entries : List (CallbackId × Callback α)) (c : CallbackChain α) (x : α) :
    ∃ calls, Walk entries c x calls := by
  induction entries generalizing c x with
  | nil => exact ⟨[], .ended c x⟩
  | cons entry rest ih =>
    obtain ⟨acts, verdict, hdoes⟩ := entry.2.exists_does c x
    by_cases hveto : verdict = .veto
    · subst hveto
      exact ⟨_, .vetoed hdoes⟩
    · obtain ⟨calls, hrest⟩ := ih (chainAfter c acts) (subjectAfter x acts)
      exact ⟨_, .goesOn hdoes hveto hrest⟩

/-- The first of the entries are called, and all of them unless one vetoes. -/
theorem exists_left (h : Walk entries c x calls) :
    ∃ left, entries = calls.map Invocation.entry ++ left ∧
      (left ≠ [] → ∃ call ∈ calls, call.verdict = .veto) := by
  induction h with
  | ended c x => exact ⟨[], rfl, fun hne => absurd rfl hne⟩
  | @vetoed entry rest c x acts h =>
    exact ⟨rest, rfl, fun _ => ⟨_, List.mem_singleton_self _, rfl⟩⟩
  | @goesOn entry rest c x acts verdict calls h hproceeds hrest ih =>
    obtain ⟨left, hentries, hleft⟩ := ih
    refine ⟨left, by simp [hentries], ?_⟩
    intro hne
    obtain ⟨call, hcall, hveto⟩ := hleft hne
    exact ⟨call, List.mem_cons_of_mem _ hcall, hveto⟩

/-- Each of the calls finds what those before it left, and a veto is the last of them. -/
theorem does (h : Walk entries c x calls) {before after : List (Invocation α)}
    {call : Invocation α} (hsplit : calls = before ++ call :: after) :
    call.entry.2.Does (chainAfter c (allActs before)) (subjectAfter x (allActs before)) call.acts
        call.verdict ∧ (call.verdict = .veto → after = []) := by
  induction h generalizing before with
  | ended c x => simp at hsplit
  | @vetoed entry rest c x acts h =>
    cases before with
    | nil =>
      obtain ⟨rfl, rfl⟩ := List.cons.inj hsplit
      exact ⟨h, fun _ => rfl⟩
    | cons other before => simp at hsplit
  | @goesOn entry rest c x acts verdict calls h hproceeds hrest ih =>
    cases before with
    | nil =>
      obtain ⟨rfl, -⟩ := List.cons.inj hsplit
      exact ⟨h, fun hveto => absurd hveto hproceeds⟩
    | cons other before =>
      obtain ⟨rfl, hrest⟩ := List.cons.inj hsplit
      have hcall := ih hrest
      rw [← chainAfter_append, ← subjectAfter_append] at hcall
      exact hcall

/-- A run that goes through the entries ends where the walk ends. -/
theorem callAll (h : Walk entries c x calls) (incidents : List Incident) :
    ({ chain := c, subject := x, incidents } : CallbackRun α).callAll (entries.map (·.2)) =
      { chain := chainAfter c (allActs calls)
        subject := subjectAfter x (allActs calls)
        proceed := decide (∀ call ∈ calls, call.verdict ≠ .veto)
        incidents := incidents ++ calls.flatMap Invocation.incidents } := by
  induction h generalizing incidents with
  | ended c x => simp [CallbackRun.callAll, chainAfter, subjectAfter, allActs]
  | @vetoed entry rest c x acts h =>
    rw [List.map_cons, CallbackRun.callAll_cons, h.call incidents]
    simp [allActs, Invocation.incidents]
  | @goesOn entry rest c x acts verdict calls h hproceeds hrest ih =>
    rw [List.map_cons, CallbackRun.callAll_cons, h.call incidents]
    simp [hproceeds, ih, allActs, Invocation.incidents, chainAfter_append, subjectAfter_append]

end Walk

/-! ## Histories -/

/-- All that was done to a chain since it was new, oldest first, by the host or by callbacks in a
run. -/
inductive CallbackChain.History : List (Act α) → CallbackChain α → Prop
  | opened (name : String) : History [] { name }
  | add {log : List (Act α)} {c : CallbackChain α} (h : History log c) (callback : Callback α) :
      History (log ++ [.add callback (c.add callback).1]) (c.add callback).2
  | remove {log : List (Act α)} {c : CallbackChain α} (h : History log c) (id : CallbackId) :
      History (log ++ [.remove id (c.contains id)]) (c.remove id)
  | run {log : List (Act α)} {c : CallbackChain α} (h : History log c) (x : α)
      {calls : List (Invocation α)} (hwalk : Walk c.entries c x calls) :
      History (log ++ allActs calls) (c.run x).chain

/-- The callbacks that were ever added, with their ids, in the order of their registration. -/
def registrations (log : List (Act α)) : List (CallbackId × Callback α) :=
  log.filterMap fun
    | .add callback id => some (id, callback)
    | _ => none

/-- The ids under which a callback was found and removed. -/
def removals (log : List (Act α)) : List CallbackId :=
  log.filterMap fun
    | .remove id true => some id
    | _ => none

theorem registrations_append (log more : List (Act α)) :
    registrations (log ++ more) = registrations log ++ registrations more :=
  List.filterMap_append

theorem removals_append (log more : List (Act α)) :
    removals (log ++ more) = removals log ++ removals more := List.filterMap_append

/-- The log tells what is registered. Ids count the registrations, what was removed was registered
before, and the chain holds the rest. -/
structure Recorded (log : List (Act α)) (c : CallbackChain α) : Prop where
  ids : (registrations log).map (·.1) = (List.range c.registered).map fun n => ⟨n + 1⟩
  entries : c.entries = (registrations log).filter fun e => e.1 ∉ removals log
  removed : ∀ id ∈ removals log, id ∈ (registrations log).map (·.1)
  once : (removals log).Nodup
  answers : ∀ before id found after, log = before ++ .remove id found :: after →
    (found = true ↔ id ∈ (registrations before).map (·.1) ∧ id ∉ removals before)

namespace Recorded

variable {log : List (Act α)} {c : CallbackChain α}

theorem opened (name : String) : Recorded [] ({ name } : CallbackChain α) := by
  refine ⟨rfl, rfl, List.forall_mem_nil _, List.nodup_nil, ?_⟩
  intro before id found after hsplit
  simp at hsplit

/-- The id of a new callback is not that of an earlier one. -/
theorem fresh (h : Recorded log c) (callback : Callback α) :
    (c.add callback).1 ∉ (registrations log).map (·.1) := by
  rw [h.ids]
  simp [CallbackChain.add]

/-- The answers to removals stay right if the latest one is. -/
theorem answers_concat (h : Recorded log c) {act : Act α}
    (hact : ∀ id found, act = .remove id found →
      (found = true ↔ id ∈ (registrations log).map (·.1) ∧ id ∉ removals log))
    (before : List (Act α)) (id : CallbackId) (found : Bool) (after : List (Act α))
    (hsplit : log ++ [act] = before ++ .remove id found :: after) :
    found = true ↔ id ∈ (registrations before).map (·.1) ∧ id ∉ removals before := by
  rcases List.eq_nil_or_concat' after with rfl | ⟨between, last, rfl⟩
  · obtain ⟨rfl, hlast⟩ := List.append_inj' hsplit rfl
    exact hact id found (List.singleton_inj.1 hlast)
  · have hsplit' : log ++ [act] = (before ++ .remove id found :: between) ++ [last] := by
      simpa using hsplit
    obtain ⟨hlog, -⟩ := List.append_inj' hsplit' rfl
    exact h.answers before id found between hlog

theorem add (h : Recorded log c) (callback : Callback α) :
    Recorded (log ++ [.add callback (c.add callback).1]) (c.add callback).2 := by
  have hadded : registrations (log ++ [.add callback (c.add callback).1]) =
      registrations log ++ [((c.add callback).1, callback)] := registrations_append log _
  have hremoved : removals (log ++ [.add callback (c.add callback).1]) = removals log := by
    simp [removals]
  have hnot : (c.add callback).1 ∉ removals log := fun hid => h.fresh callback (h.removed _ hid)
  refine ⟨?_, ?_, ?_, ?_, ?_⟩
  · rw [hadded, List.map_append, h.ids]
    simp [CallbackChain.add, List.range_succ]
  · rw [hadded, hremoved, List.filter_append, ← h.entries]
    simp only [hnot, not_false_eq_true, decide_true, List.filter_cons_of_pos, List.filter_nil]
    rfl
  · intro id hid
    rw [hremoved] at hid
    rw [hadded, List.map_append]
    exact List.mem_append_left _ (h.removed id hid)
  · rw [hremoved]
    exact h.once
  · exact h.answers_concat fun id found hact => by cases hact

/-- Exactly what was registered and not removed is found. -/
theorem contains_iff (h : Recorded log c) (id : CallbackId) :
    c.contains id = true ↔ id ∈ (registrations log).map (·.1) ∧ id ∉ removals log := by
  unfold CallbackChain.contains
  rw [h.entries]
  simp only [List.any_eq_true, List.mem_filter, decide_eq_true_eq, beq_iff_eq, List.mem_map]
  constructor
  · rintro ⟨e, ⟨he, hnot⟩, rfl⟩
    exact ⟨⟨e, he, rfl⟩, hnot⟩
  · rintro ⟨⟨e, he, rfl⟩, hnot⟩
    exact ⟨e, ⟨he, hnot⟩, rfl⟩

theorem remove (h : Recorded log c) (id : CallbackId) :
    Recorded (log ++ [.remove id (c.contains id)]) (c.remove id) := by
  have hadded : registrations (log ++ [.remove id (c.contains id)]) = registrations log := by
    simp [registrations]
  have hremoved : removals (log ++ [.remove id (c.contains id)]) =
      removals log ++ if c.contains id = true then [id] else [] := by
    rw [removals_append]
    cases c.contains id <;> rfl
  have hmem : ∀ other, other ∈ removals (log ++ [.remove id (c.contains id)]) ↔
      other ∈ removals log ∨ c.contains id = true ∧ other = id := by
    intro other
    rw [hremoved, List.mem_append]
    cases c.contains id <;> simp
  have hfound := h.contains_iff id
  refine ⟨?_, ?_, ?_, ?_, ?_⟩
  · rw [hadded]
    exact h.ids
  · show c.entries.filter _ = _
    rw [hadded, h.entries, List.filter_filter]
    apply List.filter_congr
    intro e he
    have hregistered : e.1 ∈ (registrations log).map (·.1) := List.mem_map_of_mem he
    simp only [hmem, hfound]
    by_cases heq : e.1 = id
    · subst heq
      simp [hregistered]
    · simp [heq]
  · intro other hother
    rw [hadded]
    rcases (hmem other).1 hother with hold | ⟨hnow, rfl⟩
    · exact h.removed other hold
    · exact (hfound.1 hnow).1
  · rw [hremoved]
    cases hnow : c.contains id with
    | false => simpa using h.once
    | true =>
      have hnot := (hfound.1 hnow).2
      refine List.nodup_append.2 ⟨h.once, by simp, ?_⟩
      intro other hother last hlast
      rintro rfl
      simp only [if_true, List.mem_singleton] at hlast
      exact hnot (hlast ▸ hother)
  · refine h.answers_concat fun other found hact => ?_
    cases hact
    exact hfound

/-- An act that is neither an addition nor a removal changes nothing. -/
theorem spare (h : Recorded log c) (act : Act α) (hadds : registrations [act] = [])
    (hremoves : ∀ id found, act ≠ .remove id found) : Recorded (log ++ [act]) c := by
  have hremoved : removals [act] = [] := by
    cases act with
    | remove id found => exact absurd rfl (hremoves id found)
    | _ => rfl
  have hadded : registrations (log ++ [act]) = registrations log := by
    rw [registrations_append, hadds, List.append_nil]
  have hkept : removals (log ++ [act]) = removals log := by
    rw [removals_append, hremoved, List.append_nil]
  refine ⟨?_, ?_, ?_, ?_, ?_⟩
  · rw [hadded, h.ids]
  · rw [hadded, hkept, ← h.entries]
  · rw [hadded, hkept]
    exact h.removed
  · rw [hkept]
    exact h.once
  · exact h.answers_concat fun id found hact => absurd hact (hremoves id found)

/-- What a callback does is recorded. -/
theorem does (h : Recorded log c) {callback : Callback α} {x : α} {acts : List (Act α)}
    {verdict : Verdict} (hdoes : callback.Does c x acts verdict) :
    Recorded (log ++ acts) (chainAfter c acts) := by
  induction hdoes generalizing log with
  | reply verdict => simpa [chainAfter] using h
  | @edit c x change next acts verdict _ ih =>
    have hnext := ih (h.spare (.edit change) rfl nofun)
    rw [List.append_assoc] at hnext
    exact hnext
  | @remark c x text next acts verdict _ ih =>
    have hnext := ih (h.spare (.remark (text x)) rfl nofun)
    rw [List.append_assoc] at hnext
    exact hnext
  | inspect _ ih => exact ih h
  | @register c x callback next acts verdict _ ih =>
    have hnext := ih (h.add callback)
    rw [List.append_assoc] at hnext
    exact hnext
  | @unregister c x id next acts verdict _ ih =>
    have hnext := ih (h.remove id)
    rw [List.append_assoc] at hnext
    exact hnext

theorem walk (h : Recorded log c) {entries : List (CallbackId × Callback α)} {x : α}
    {calls : List (Invocation α)} (hwalk : Walk entries c x calls) :
    Recorded (log ++ allActs calls) (chainAfter c (allActs calls)) := by
  induction hwalk generalizing log with
  | ended c x => simpa [allActs, chainAfter] using h
  | vetoed hdoes => simpa [allActs] using h.does hdoes
  | goesOn hdoes _ _ ih =>
    have hrest := ih (h.does hdoes)
    rw [List.append_assoc, ← chainAfter_append] at hrest
    exact hrest

end Recorded

/-- A run goes through the callbacks that are registered when it begins. -/
theorem CallbackChain.run_eq {c : CallbackChain α} {x : α} {calls : List (Invocation α)}
    (h : Walk c.entries c x calls) :
    c.run x =
      { chain := chainAfter c (allActs calls)
        subject := subjectAfter x (allActs calls)
        proceed := decide (∀ call ∈ calls, call.verdict ≠ .veto)
        incidents := calls.flatMap Invocation.incidents } := h.callAll []

theorem CallbackChain.History.recorded {log : List (Act α)} {c : CallbackChain α}
    (h : History log c) : Recorded log c := by
  induction h with
  | opened name => exact .opened name
  | add _ callback ih => exact ih.add callback
  | remove _ id ih => exact ih.remove id
  | run _ x hwalk ih =>
    rw [run_eq hwalk]
    exact ih.walk hwalk

/-! ## The law -/

/-- A run calls the callbacks that are registered when it begins, in their order, up to the first
that vetoes. Each finds the subject as the edits before it left it, also where a panic came after
them, and only a veto keeps the subject from passing. What callbacks do to the chain meanwhile
changes none of this, and the next run finds it done. No id is given twice, and as long as fewer
than `2 ^ 64` callbacks were added every id fits in 64 bits. A removal finds its callback if that
was added and not removed yet, so that each is found once, and the others keep their order. -/
theorem callbacks_run_in_order_up_to_a_veto {log : List (Act α)} {c : CallbackChain α}
    (h : CallbackChain.History log c) (x : α) :
    ((registrations log).map (·.1)).Nodup ∧
    ((registrations log).length < UInt64.size →
      ∀ e ∈ registrations log, e.1.number < UInt64.size) ∧
    (∀ before id found after, log = before ++ .remove id found :: after →
      (found = true ↔ id ∈ (registrations before).map (·.1) ∧ id ∉ removals before)) ∧
    (removals log).Nodup ∧
    c.entries = (registrations log).filter (fun e => e.1 ∉ removals log) ∧
    (∃ calls, Walk c.entries c x calls) ∧
    ∀ calls, Walk c.entries c x calls →
      (∃ left, c.entries = calls.map Invocation.entry ++ left ∧
        (left ≠ [] → ∃ call ∈ calls, call.verdict = .veto)) ∧
      (∀ before call after, calls = before ++ call :: after →
        call.entry.2.Does (chainAfter c (allActs before)) (subjectAfter x (allActs before))
          call.acts call.verdict ∧ (call.verdict = .veto → after = [])) ∧
      ((c.run x).proceed = false ↔ ∃ call ∈ calls, call.verdict = .veto) ∧
      (c.run x).subject = subjectAfter x (allActs calls) ∧
      (c.run x).incidents = calls.flatMap Invocation.incidents ∧
      (c.run x).chain.entries = (registrations (log ++ allActs calls)).filter fun e =>
        e.1 ∉ removals (log ++ allActs calls) := by
  have hrecorded := h.recorded
  have hcount : (registrations log).length = c.registered := by
    simpa using congrArg List.length hrecorded.ids
  refine ⟨?_, ?_, hrecorded.answers, hrecorded.once, hrecorded.entries,
    Walk.exists_walk c.entries c x, ?_⟩
  · rw [hrecorded.ids]
    refine List.Nodup.map ?_ List.nodup_range
    intro m n hsame
    simpa using hsame
  · intro hfew e he
    have hid : e.1 ∈ (registrations log).map (·.1) := List.mem_map_of_mem he
    rw [hrecorded.ids] at hid
    obtain ⟨n, hn, heq⟩ := List.mem_map.1 hid
    have hn := List.mem_range.1 hn
    rw [← heq]
    show n + 1 < UInt64.size
    omega
  · intro calls hwalk
    have hafter := (h.run x hwalk).recorded.entries
    refine ⟨hwalk.exists_left, fun before call after hsplit => hwalk.does hsplit, ?_, ?_, ?_,
      hafter⟩
    · rw [CallbackChain.run_eq hwalk]
      simp
    · rw [CallbackChain.run_eq hwalk]
    · rw [CallbackChain.run_eq hwalk]

/-- Adds one, takes the third callback out, adds another one and panics. -/
def meddler : Callback Nat :=
  .edit (· + 1) <| .unregister ⟨3⟩ fun _ => .register (.reply fun _ => .proceed) fun _ =>
    .reply fun _ => .panic ⟨.text "bug", none⟩

/-- Multiplies by ten if it finds the first callback, which it takes out. -/
def sweeper : Callback Nat :=
  .unregister ⟨1⟩ fun found => .edit (fun n => if found then n * 10 else n) <|
    .reply fun _ => .proceed

/-- Vetoes large numbers. -/
def guardian : Callback Nat :=
  .inspect fun n => if n < 10 then .reply fun _ => .proceed else .reply fun _ => .veto

/-- Four callbacks, the last of which would start over. -/
def busyChain : CallbackChain Nat :=
  ((((({ name := "numbers" } : CallbackChain Nat).add meddler).2.add sweeper).2.add guardian).2.add
    (.edit (fun _ => 0) (.reply fun _ => .proceed))).2

/-- A callback that was taken out in the same run still vetoes, and the panic before it kept its
edit. The next run finds the second, the fourth and the new one. -/
theorem a_callback_that_was_taken_out_still_vetoes :
    ∃ (log : List (Act Nat)) (calls : List (Invocation Nat)),
      CallbackChain.History log busyChain ∧ Walk busyChain.entries busyChain 1 calls ∧
      (busyChain.run 1).subject = 20 ∧ subjectAfter 1 (allActs calls) = 20 ∧
      (∃ call ∈ calls, call.verdict = .veto) ∧
      (busyChain.run 1).chain.entries.map (·.1) = [⟨2⟩, ⟨4⟩, ⟨5⟩] := by
  have hopened : CallbackChain.History [] ({ name := "numbers" } : CallbackChain Nat) :=
    .opened "numbers"
  have hadded := (((hopened.add meddler).add sweeper).add guardian).add
    (.edit (fun _ => 0) (.reply fun _ => .proceed))
  obtain ⟨-, -, -, -, -, ⟨calls, hwalk⟩, hall⟩ := callbacks_run_in_order_up_to_a_veto hadded 1
  obtain ⟨-, -, hveto, hsubject, -, -⟩ := hall calls hwalk
  exact ⟨_, calls, hadded, hwalk, rfl, hsubject.symm.trans rfl, hveto.1 rfl, rfl⟩

end CrashReporter
