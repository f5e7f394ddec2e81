import CrashReporter.Callback

-- Runs of callbacks. A run calls all that were registered when it began, unless one of them
-- vetoes; then it ends with that one. A panic lets the subject pass.

namespace CrashReporter

variable {α : Type}

/-! ## What a callback touches -/

/-- The callback changes its subject at most: it leaves the chain alone. -/
def Callback.TouchesOnlySubject : Callback α → Prop
  | .reply _ => True
  | .edit _ next => next.TouchesOnlySubject
  | .remark _ next => next.TouchesOnlySubject
  | .inspect next => ∀ x, (next x).TouchesOnlySubject
  | .register .. => False
  | .unregister .. => False

namespace CallbackRun

variable {r : CallbackRun α} {callback : Callback α} {callbacks : List (Callback α)}

theorem settle_chain (r : CallbackRun α) (verdict : Verdict) :
    (r.settle verdict).chain = r.chain := by
  cases verdict <;> rfl

theorem call_chain (h : callback.TouchesOnlySubject) (r : CallbackRun α) :
    (r.call callback).chain = r.chain := by
  induction callback generalizing r with
  | reply verdict => exact r.settle_chain _
  | edit change next ih => exact ih h _
  | remark text next ih => exact ih h _
  | inspect next ih => exact ih _ (h _) _
  | register => exact h.elim
  | unregister => exact h.elim

/-- The run after these callbacks, whatever each of them replied. -/
def afterAll (r : CallbackRun α) (callbacks : List (Callback α)) : CallbackRun α :=
  callbacks.foldl call r

theorem afterAll_concat (r : CallbackRun α) (before : List (Callback α)) (last : Callback α) :
    r.afterAll (before ++ [last]) = (r.afterAll before).call last := by
  simp [afterAll]

theorem afterAll_chain (h : ∀ callback ∈ callbacks, callback.TouchesOnlySubject)
    (r : CallbackRun α) : (r.afterAll callbacks).chain = r.chain := by
  induction callbacks generalizing r with
  | nil => rfl
  | cons callback rest ih =>
    have hrest := ih (fun c hc => h c (List.mem_cons_of_mem _ hc)) (r.call callback)
    exact hrest.trans (call_chain (h callback List.mem_cons_self) r)

/-! ## Vetoes -/

/-- Called in turn, none of the callbacks vetoes. -/
def Passes (r : CallbackRun α) : List (Callback α) → Prop
  | [] => True
  | callback :: rest => (r.call callback).proceed = true ∧ (r.call callback).Passes rest

/-- The callback vetoes after all of these. -/
def Vetoes (r : CallbackRun α) (before : List (Callback α)) (callback : Callback α) : Prop :=
  r.Passes before ∧ ((r.afterAll before).call callback).proceed = false

theorem callAll_cons (r : CallbackRun α) (callback : Callback α) (rest : List (Callback α)) :
    r.callAll (callback :: rest) =
      if (r.call callback).proceed then (r.call callback).callAll rest else r.call callback := rfl

theorem callAll_singleton (r : CallbackRun α) (callback : Callback α) :
    r.callAll [callback] = r.call callback := ite_self _

/-- What passes is seen by every callback. -/
theorem callAll_of_passes (h : r.Passes callbacks) :
    r.callAll callbacks = r.afterAll callbacks := by
  induction callbacks generalizing r with
  | nil => rfl
  | cons callback rest ih =>
    obtain ⟨hcall, hrest⟩ := h
    rw [callAll_cons, if_pos hcall]
    exact ih hrest

theorem Vetoes.proceed {before : List (Callback α)} (h : r.Vetoes before callback) :
    (r.afterAll (before ++ [callback])).proceed = false := by
  rw [afterAll_concat]
  exact h.2

/-- No callback is called after the one that vetoes. -/
theorem callAll_of_vetoes {before : List (Callback α)} (h : r.Vetoes before callback)
    (after : List (Callback α)) :
    r.callAll (before ++ callback :: after) = r.afterAll (before ++ [callback]) := by
  induction before generalizing r with
  | nil =>
    have hveto : (r.call callback).proceed = false := h.2
    rw [List.nil_append, callAll_cons]
    simp [hveto, afterAll]
  | cons first rest ih =>
    obtain ⟨⟨hfirst, hrest⟩, hveto⟩ := h
    rw [List.cons_append, callAll_cons, if_pos hfirst]
    exact ih ⟨hrest, hveto⟩

theorem proceed_afterAll (h : r.Passes callbacks) (hr : r.proceed = true) :
    (r.afterAll callbacks).proceed = true := by
  induction callbacks generalizing r with
  | nil => exact hr
  | cons callback rest ih => exact ih h.2 h.1

/-- More callbacks are called where all of these let the subject pass. -/
theorem callAll_append (hr : r.proceed = true) (callbacks more : List (Callback α)) :
    r.callAll (callbacks ++ more) =
      if (r.callAll callbacks).proceed then (r.callAll callbacks).callAll more
      else r.callAll callbacks := by
  induction callbacks generalizing r with
  | nil => simp [callAll, hr]
  | cons callback rest ih =>
    rw [List.cons_append, callAll_cons, callAll_cons]
    by_cases hcall : (r.call callback).proceed = true
    · simp only [if_pos hcall]
      exact ih hcall
    · simp [hcall]

/-- Either all pass, or one of them vetoes after those before it. -/
theorem passes_or_vetoes (r : CallbackRun α) (callbacks : List (Callback α)) :
    r.Passes callbacks ∨ ∃ before callback after,
      callbacks = before ++ callback :: after ∧ r.Vetoes before callback := by
  induction callbacks generalizing r with
  | nil => exact .inl trivial
  | cons callback rest ih =>
    cases hcall : (r.call callback).proceed with
    | false => exact .inr ⟨[], callback, rest, rfl, trivial, hcall⟩
    | true =>
      rcases ih (r.call callback) with hrest | ⟨before, last, after, rfl, hbefore, hveto⟩
      · exact .inl ⟨hcall, hrest⟩
      · exact .inr ⟨callback :: before, last, after, rfl, ⟨hcall, hbefore⟩, hveto⟩

/-- A run lets its subject pass exactly if no callback vetoes. -/
theorem proceed_callAll (hr : r.proceed = true) :
    (r.callAll callbacks).proceed = true ↔ r.Passes callbacks := by
  constructor
  · intro h
    rcases r.passes_or_vetoes callbacks with hpasses | ⟨before, callback, after, rfl, hvetoes⟩
    · exact hpasses
    · rw [callAll_of_vetoes hvetoes, hvetoes.proceed] at h
      cases h
  · intro h
    rw [callAll_of_passes h]
    exact proceed_afterAll h hr

end CallbackRun

end CrashReporter
