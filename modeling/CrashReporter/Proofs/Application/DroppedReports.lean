import CrashReporter.Proofs.Application.Journal
import CrashReporter.Proofs.Application.SessionCounts
import CrashReporter.Proofs.Callback

-- Reports that are dropped. Each of the reasons for it lets some of the callbacks be called, and
-- what these callbacks did themselves is all that stays, at once and at any later time.

namespace CrashReporter

open Application

/-! ## Reasons -/

namespace Application

/-- The callbacks of a report: those that are registered, and at last its own. -/
def callbacksOf (a : Application) (lastly : Option (Callback Event)) : List (Callback Event) :=
  a.client.onError.entries.map (·.2) ++ lastly.toList

/-- The run of the callbacks of a report, before the first of them is called. -/
def errorRun (a : Application) (event : Event) (extra : Metadata) : CallbackRun Event :=
  { chain := a.client.onError, subject := a.client.describe a.now event extra }

/-- The class of the event is not ignored, and the release stage reports. -/
def Considers (a : Application) (event : Event) : Prop :=
  event.isIgnored a.client.config.ignoreClasses = false ∧ a.client.config.reportsStage = true

end Application

/-- A report is dropped, after these callbacks were called. -/
inductive Dropped (a : Application) (event : Event) (extra : Metadata)
    (lastly : Option (Callback Event)) : List (Callback Event) → Prop
  /-- The class of the event is ignored. -/
  | ignored (h : event.isIgnored a.client.config.ignoreClasses = true) :
      Dropped a event extra lastly []
  /-- The release stage does not report. -/
  | disabled (h : a.client.config.reportsStage = false) : Dropped a event extra lastly []
  /-- A callback vetoes. None of those after it is called. -/
  | vetoed (hconsiders : a.Considers event) {before after : List (Callback Event)}
      {callback : Callback Event} (hcallbacks : a.callbacksOf lastly = before ++ callback :: after)
      (h : (a.errorRun event extra).Vetoes before callback) :
      Dropped a event extra lastly (before ++ [callback])

variable {a : Application} {event : Event} {extra : Metadata} {lastly : Option (Callback Event)}
  {called : List (Callback Event)}

theorem Dropped.called_first (h : Dropped a event extra lastly called) :
    called <+: a.callbacksOf lastly := by
  cases h with
  | ignored => exact List.nil_prefix
  | disabled => exact List.nil_prefix
  | @vetoed _ before after callback hcallbacks =>
    rw [hcallbacks]
    exact ⟨after, (List.append_cons before callback after).symm⟩

/-! ## What stays of a run -/

/-- What is noted of an incident where no hook is installed. -/
def Incident.entry? : Incident → Option JournalEntry
  | .remark text => some (.remark text)
  | .panic _ => none

/-- The remarks that callbacks left. -/
def CallbackRun.remarks {α : Type} (r : CallbackRun α) : List JournalEntry :=
  r.incidents.filterMap Incident.entry?

theorem CallbackRun.eq_remark_of_mem_remarks {α : Type} {r : CallbackRun α} {entry : JournalEntry}
    (h : entry ∈ r.remarks) : ∃ text, entry = .remark text := by
  obtain ⟨incident, _, hentry⟩ := List.mem_filterMap.1 h
  cases incident with
  | remark text => exact ⟨text, (Option.some.inj hentry).symm⟩
  | panic panic => cases hentry

theorem heed_of_no_hooks (h : a.hooks = []) (incidents : List Incident) :
    a.heed loud incidents =
      { a with journal := a.journal ++ incidents.filterMap Incident.entry? } := by
  unfold heed
  induction incidents generalizing a with
  | nil => simp
  | cons incident rest ih =>
    cases incident with
    | remark text =>
      refine (ih (a := a.note (.remark text)) h).trans ?_
      simp [note, Incident.entry?]
    | panic panic =>
      simp only [List.foldl_cons, loud_of_no_hooks h]
      exact ih h

/-- The application after callbacks were called. -/
def Application.afterCalls (a : Application) (r : CallbackRun Event) : Application :=
  { a with journal := a.journal ++ r.remarks, client := { a.client with onError := r.chain } }

/-- The callbacks of a report are called one after the other, its own as the last one. -/
theorem runErrorCallbacks_eq {alarm : Alarm} {r : CallbackRun Event}
    (hr : (a.errorRun event extra).callAll (a.callbacksOf lastly) = r) :
    a.runErrorCallbacks alarm (a.client.describe a.now event extra) lastly =
      ((a.changeClient fun c => { c with onError := r.chain }).heed alarm r.incidents, r.subject,
        r.proceed) := by
  have hregistered : a.client.onError.run (a.client.describe a.now event extra) =
      (a.errorRun event extra).callAll (a.client.onError.entries.map (·.2)) := rfl
  unfold runErrorCallbacks
  rw [hregistered]
  cases lastly with
  | none =>
    simp only [callbacksOf, Option.toList_none, List.append_nil] at hr
    simp only [hr]
  | some callback =>
    simp only [callbacksOf, Option.toList_some] at hr
    rw [CallbackRun.callAll_append rfl, CallbackRun.callAll_singleton] at hr
    simp only [hr]

/-- What the called callbacks did is all that stays of a report that is dropped. -/
theorem report_of_dropped (hhooks : a.hooks = []) (h : Dropped a event extra lastly called) :
    a.report loud event extra lastly =
      a.afterCalls ((a.errorRun event extra).afterAll called) := by
  have hnothing : a = a.afterCalls ((a.errorRun event extra).afterAll []) := by
    simp [afterCalls, CallbackRun.afterAll, errorRun, CallbackRun.remarks]
  cases h with
  | ignored h =>
    unfold report
    simp only [h, Bool.true_or, if_true]
    exact hnothing
  | disabled h =>
    unfold report
    simp only [h, Bool.not_false, Bool.or_true, if_true]
    exact hnothing
  | @vetoed hconsiders before after callback hcallbacks h =>
    have hrun := CallbackRun.callAll_of_vetoes h after
    rw [← hcallbacks] at hrun
    unfold report
    rw [runErrorCallbacks_eq hrun, hconsiders.1, hconsiders.2]
    simp only [h.proceed, Bool.not_true, Bool.or_false, Bool.false_eq_true, if_false]
    apply heed_of_no_hooks
    exact hhooks

/-- These are all the reasons: what is not dropped leaves. -/
theorem exists_dropped_iff {alarm : Alarm} :
    (∃ called, Dropped a event extra lastly called) ↔
      a.outgoing? alarm event extra lastly = none := by
  have hnone : a.outgoing? alarm event extra lastly = none ↔ (a.Considers event →
      ((a.errorRun event extra).callAll (a.callbacksOf lastly)).proceed = false) := by
    unfold outgoing? Considers
    rw [runErrorCallbacks_eq rfl]
    simp
  rw [hnone]
  constructor
  · rintro ⟨called, h⟩ hconsiders
    cases h with
    | ignored h => exact absurd (hconsiders.1.symm.trans h) Bool.false_ne_true
    | disabled h => exact absurd (h.symm.trans hconsiders.2) Bool.false_ne_true
    | vetoed _ hcallbacks h =>
      rw [hcallbacks, CallbackRun.callAll_of_vetoes h]
      exact h.proceed
  · intro h
    by_cases hignored : event.isIgnored a.client.config.ignoreClasses = true
    · exact ⟨[], .ignored hignored⟩
    · by_cases hstage : a.client.config.reportsStage = true
      · have hconsiders : a.Considers event := ⟨by simpa using hignored, hstage⟩
        rcases (a.errorRun event extra).passes_or_vetoes (a.callbacksOf lastly) with
          hpasses | ⟨before, callback, after, hcallbacks, hvetoes⟩
        · have hproceed := (CallbackRun.proceed_callAll rfl).2 hpasses
          exact absurd (hproceed.symm.trans (h hconsiders)) (by decide)
        · exact ⟨_, .vetoed hconsiders hcallbacks hvetoes⟩
      · exact ⟨[], .disabled (by simpa using hstage)⟩

/-! ## The law -/

/-- A report that is dropped leaves no trace, where no hook is installed and the callbacks change
the event at most. The callbacks up to the one that vetoes are called, in the order of their
registration and that of the report as the last one, and the remarks that these left are all that
is new. Nothing is told; the stores, the tasks, the sessions, the breadcrumbs and all else are as
they were. Nor is anything sent for it later: whatever can happen afterwards could have happened
without the report, with the same calls to the collector. -/
theorem dropped_reports_leave_no_trace {a : Application} {event : Event} {extra : Metadata}
    {lastly : Option (Callback Event)} {called : List (Callback Event)} (hhooks : a.hooks = [])
    (htouch : ∀ callback ∈ a.callbacksOf lastly, callback.TouchesOnlySubject)
    (h : Dropped a event extra lastly called) :
    ∃ remarks, remarks = ((a.errorRun event extra).afterAll called).remarks ∧
      (∀ entry ∈ remarks, ∃ text, entry = .remark text) ∧
      a.report loud event extra lastly = { a with journal := a.journal ++ remarks } ∧
      ∀ (flights : List Flight) (sent : List Sending) (turns : List Turn) (later : Life),
        Life.Run ⟨a.report loud event extra lastly, flights, sent⟩ turns later →
        ∃ (without : Life) (seen : List JournalEntry), Life.Run ⟨a, flights, sent⟩ turns without ∧
          later.flights = without.flights ∧ later.sent = without.sent ∧
          without.application.journal = a.journal ++ seen ∧
          later.application =
            { without.application with journal := a.journal ++ remarks ++ seen } := by
  have hreport : a.report loud event extra lastly =
      { a with journal := a.journal ++ ((a.errorRun event extra).afterAll called).remarks } := by
    rw [report_of_dropped hhooks h]
    unfold afterCalls
    rw [CallbackRun.afterAll_chain fun callback hcallback =>
      htouch callback (h.called_first.subset hcallback)]
    rfl
  refine ⟨_, rfl, fun entry => CallbackRun.eq_remark_of_mem_remarks, hreport, ?_⟩
  intro flights sent turns later hlater
  have hbefore : ∀ log, Life.mk { a with journal := log } flights sent =
      Life.preceded ⟨{ a with journal := [] }, flights, sent⟩ log := by
    intro log
    simp [Life.preceded, preceded]
  rw [hreport, hbefore] at hlater
  obtain ⟨rest, rfl, hrest⟩ := Life.run_preceded hlater
  refine ⟨rest.preceded a.journal, rest.application.journal, ?_, rfl, rfl, rfl, rfl⟩
  have hwithout := hrest a.journal
  rw [← hbefore] at hwithout
  exact hwithout

/-- A callback that leaves a remark and replies. -/
def remarking (text : String) (verdict : Verdict) : Callback Event :=
  .remark (fun _ => .str text) (.reply fun _ => verdict)

/-- An application with three callbacks, of which the second one vetoes. -/
def vetoingApplication : Application :=
  let first := (plainApplication.addErrorCallback (remarking "first" .proceed)).1
  let second := (first.addErrorCallback (remarking "second" .veto)).1
  (second.addErrorCallback (remarking "third" .proceed)).1

def unhandledFault : Event :=
  .new ⟨"Fault", "A fault.", {}⟩ (.ofReason .unhandledException) plainApplication.now

/-- Neither the third callback nor that of the report gets to see the event. -/
theorem nothing_stays_but_the_remarks_before_a_veto :
    vetoingApplication.report loud unhandledFault Metadata.empty
        (some (remarking "last" .proceed)) =
      { vetoingApplication with
        journal := [.remark (.str "first"), .remark (.str "second")] } := by
  have htouch : ∀ callback ∈ vetoingApplication.callbacksOf (some (remarking "last" .proceed)),
      callback.TouchesOnlySubject := by
    show ∀ callback ∈ [_, _, _, _], _
    simp [remarking, Callback.TouchesOnlySubject]
  have hdropped : Dropped vetoingApplication unhandledFault Metadata.empty
      (some (remarking "last" .proceed))
      ([remarking "first" .proceed] ++ [remarking "second" .veto]) :=
    .vetoed ⟨rfl, rfl⟩ rfl ⟨⟨rfl, trivial⟩, rfl⟩
  obtain ⟨remarks, rfl, _, hreport, _⟩ := dropped_reports_leave_no_trace rfl htouch hdropped
  exact hreport

end CrashReporter
