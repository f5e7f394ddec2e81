import CrashReporter.Proofs.Application.Life
import CrashReporter.Proofs.Pipeline.Traffic

-- A call from where it stands to its end. However the collector answers, it ends: a flush of
-- events with the last of the records that it claimed, any other call after two answers at most.

namespace CrashReporter

/-- A call from where it stands to its end: what it sends, each with the answer to it, the
application that it leaves, and its outcome. -/
inductive Course : Application × Progress → List (Flight × Answer) → Application → Outcome → Prop
  | arrived (a : Application) (outcome : Outcome) : Course (a, .finished outcome) [] a outcome
  | answered {a b : Application} {flight : Flight} {reply : Answer}
      {rest : List (Flight × Answer)} {outcome : Outcome}
      (h : Course (a.answer Application.loud flight reply) rest b outcome) :
      Course (a, .waiting flight) ((flight, reply) :: rest) b outcome

/-- However it is answered, in whatever order the answers come, the call ends. -/
def Ends (step : Application × Progress) : Prop :=
  ∀ replies : Nat → Answer, ∃ sent b outcome, Course step sent b outcome ∧
    sent.map (·.2) = (List.range sent.length).map replies

namespace Ends

variable (a : Application) (p : Pipeline)

theorem arrived (outcome : Outcome) : Ends (a, .finished outcome) :=
  fun _ => ⟨[], a, outcome, .arrived a outcome, rfl⟩

variable {a} in
theorem answered {flight : Flight} (h : ∀ reply, Ends (a.answer Application.loud flight reply)) :
    Ends (a, .waiting flight) := by
  intro replies
  obtain ⟨sent, b, outcome, hcourse, hreplies⟩ := h (replies 0) fun n => replies (n + 1)
  refine ⟨(flight, replies 0) :: sent, b, outcome, .answered hcourse, ?_⟩
  rw [List.map_cons, hreplies, List.length_cons, List.range_succ_eq_map, List.map_cons,
    List.map_map]
  rfl

variable {a} in
/-- Once an answer was told, the pipeline settles it. -/
theorem settled {flight : Flight}
    (h : ∀ b : Application, ∀ status,
      Ends (b.changePipeline (b.client.pipeline.settle flight status))) :
    Ends (a, .waiting flight) := by
  refine answered fun reply => ?_
  rw [Application.answer_eq]
  exact h _ _

/-! ## Events -/

/-- A flush under way sends no more than the records that are left to it. -/
theorem sendStoredEvent (summary : FlushSummary) (follows : Bool) (records : List String) :
    Ends (a.changePipeline (p.sendStoredEvent summary follows records)) := by
  induction records generalizing a p summary with
  | nil => exact arrived _ _
  | cons record rest ih =>
    cases hread : p.events.read record with
    | error e =>
      rw [Pipeline.sendStoredEvent_of_error hread]
      exact ih _ _ _
    | ok event =>
      rw [Pipeline.sendStoredEvent_of_read hread]
      refine settled fun b status => ?_
      cases status with
      | delivered => exact ih _ _ _
      | failure => exact ih _ _ _
      | undelivered => exact arrived _ _

theorem startEventFlush (follows : Bool) :
    Ends (a.changePipeline (p.startEventFlush follows)) := by
  unfold Pipeline.startEventFlush
  split
  · exact arrived _ _
  · cases p.events.claim with
    | error e => exact arrived _ _
    | ok claimed => exact sendStoredEvent a _ _ _ _

theorem deliverEvent (event : Event) : Ends (a.changePipeline (p.deliverEvent event)) := by
  refine settled fun b status => ?_
  cases status with
  | delivered => exact startEventFlush b _ _
  | undelivered => exact arrived _ _
  | failure => exact arrived _ _

/-! ## Sessions -/

/-- What waited for a flush of sessions is sent after it. -/
theorem endSessionFlush (outcome : FlushOutcome) (next : Option SessionPayload) :
    Ends (a.changePipeline (p.endSessionFlush outcome next)) := by
  cases next with
  | none => exact arrived _ _
  | some payload =>
    refine settled fun b status => ?_
    cases status with
    | delivered => exact arrived _ _
    | undelivered => exact arrived _ _
    | failure => exact arrived _ _

theorem startSessionFlush (around : Surroundings) (next : Option SessionPayload) :
    Ends (a.changePipeline (p.startSessionFlush around next)) := by
  unfold Pipeline.startSessionFlush
  split
  · exact endSessionFlush a p _ _
  · cases p.sessions.claim with
    | error e => exact endSessionFlush a p _ _
    | ok claimed =>
      simp only
      split
      · exact endSessionFlush a _ _ _
      · refine settled fun b status => ?_
        cases status with
        | delivered => exact endSessionFlush b _ _ _
        | undelivered => exact endSessionFlush b _ _ _
        | failure => exact endSessionFlush b _ _ _

/-! ## Tasks -/

/-- Every task ends, however the collector answers. -/
theorem begin (task : Task) : Ends (a.begin task) := by
  cases task with
  | deliverEvent event => exact deliverEvent a _ event
  | deliverSessions payload => exact startSessionFlush a _ _ _
  | flushEvents => exact startEventFlush a _ _
  | flushSessions => exact startSessionFlush a _ _ _

end Ends

end CrashReporter
