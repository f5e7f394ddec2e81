import CrashReporter.Proofs.Pipeline.SessionAccounts

-- A flush of sessions from its beginning to its end. What it cannot read it deletes, and the
-- rest it sends as one batch: one answer decides about all of it.

namespace CrashReporter

/-! ## Fates -/

/-- What a call sends, and what it comes to once that was answered. -/
def Pipeline.exchange (reply : Answer) : Pipeline × Progress → List Request × Pipeline × Progress
  | (p, .finished outcome) => ([], p, .finished outcome)
  | (p, .waiting flight) => ([flight.request], p.settle flight reply.outcome)

/-- The records that go with an answer to a batch: those that were lost before, and those that
were found unless they may be delivered later. -/
def DeliveryStatus.gone (lost found : List String) : DeliveryStatus → List String
  | .delivered | .failure => lost ++ found
  | .undelivered => lost

/-- What counts as delivered, retained and dropped with an answer to a batch. -/
def DeliveryStatus.batchSummary (lost found : Nat) : DeliveryStatus → FlushSummary
  | .delivered => ⟨found, 0, lost⟩
  | .undelivered => ⟨0, found, lost⟩
  | .failure => ⟨0, 0, lost + found⟩

namespace DeliveryStatus

theorem gone_nil (lost : List String) (status : DeliveryStatus) : status.gone lost [] = lost := by
  cases status <;> simp [gone]

theorem gone_subset (lost found : List String) (status : DeliveryStatus) :
    status.gone lost found ⊆ lost ++ found := by
  cases status with
  | delivered => exact List.Subset.refl _
  | failure => exact List.Subset.refl _
  | undelivered => exact List.subset_append_left _ _

/-- Where nothing was found no answer counts. -/
theorem batchSummary_zero (lost : Nat) (status : DeliveryStatus) :
    status.batchSummary lost 0 = { dropped := lost } := by
  cases status <;> rfl

/-- Nothing is counted twice or forgotten. -/
theorem sum_batchSummary (lost found : Nat) (status : DeliveryStatus) :
    let summary := status.batchSummary lost found
    summary.delivered + summary.retained + summary.dropped = found + lost := by
  cases status with
  | delivered => rfl
  | undelivered => simp [batchSummary]
  | failure => simp [batchSummary, Nat.add_comm]

end DeliveryStatus

namespace Pipeline

variable {p : Pipeline} {lost found : List String}

/-! ## What a flush leaves -/

/-- A flush whose batch may be delivered later gives its claims up. -/
theorem cancel_found
    (h : ∀ name, name ∈ p.sessions.unclaimed p.sessions.names ↔ name ∈ lost ∨ name ∈ found) :
    (p.claimSessions.sessions.delete lost).cancel found = p.sessions.withoutRecords lost :=
  RecordStore.cancel_delete_claimed h

/-- A flush that deletes all that it had claimed keeps no claim. -/
theorem delete_claimed {gone : List String}
    (h : ∀ name, name ∈ p.sessions.unclaimed p.sessions.names ↔ name ∈ gone) :
    p.claimSessions.sessions.delete gone = p.sessions.withoutRecords gone := by
  rw [← RecordStore.cancel_nil (RecordStore.delete _ _)]
  apply cancel_found
  simpa using h

/-- A flush whose batch was taken or refused deletes what it could not read and then the rest. -/
theorem delete_found
    (h : ∀ name, name ∈ p.sessions.unclaimed p.sessions.names ↔ name ∈ lost ∨ name ∈ found) :
    (p.claimSessions.sessions.delete lost).delete found =
      p.sessions.withoutRecords (lost ++ found) := by
  rw [RecordStore.delete_delete]
  apply delete_claimed
  intro name
  rw [h name, List.mem_append]

/-- The answer to a batch ends its flush. -/
theorem settle_batch (hfree : p.flushingSessions = false)
    (h : ∀ name, name ∈ p.sessions.unclaimed p.sessions.names ↔ name ∈ lost ∨ name ∈ found)
    (payload : SessionPayload) (status : DeliveryStatus) :
    ({ p with
        sessions := p.claimSessions.sessions.delete lost
        flushingSessions := true } : Pipeline).settle
          (.storedSessions payload ⟨found, { dropped := lost.length }, none⟩) status =
      ({ p with sessions := p.sessions.withoutRecords (status.gone lost found) },
        .finished (.flush (.completed (status.batchSummary lost.length found.length)))) := by
  cases status with
  | delivered =>
    simp only [settle, settleStoredSessions, endSessionFlush, DeliveryStatus.gone,
      DeliveryStatus.batchSummary, FlushSummary.deliver]
    rw [delete_found h, hfree]
    simp
  | failure =>
    simp only [settle, settleStoredSessions, endSessionFlush, DeliveryStatus.gone,
      DeliveryStatus.batchSummary, FlushSummary.drop]
    rw [delete_found h, hfree]
  | undelivered =>
    simp only [settle, settleStoredSessions, endSessionFlush, DeliveryStatus.gone,
      DeliveryStatus.batchSummary, FlushSummary.retain]
    rw [cancel_found h, hfree]
    simp

end Pipeline

/-! ## The law -/

/-- A flush of sessions that finds the gate open and no directories among the records sends
nothing if it can read none of the records that nobody has claimed, and otherwise one batch with
all that it can read, in their order; what it cannot read is gone by then. With the answer the
flush is over. A batch that was taken or refused is gone, one that may be delivered later is
there as it was, and so are all other files, with the claims of others. Each record counts once,
under its own fate. -/
theorem a_batch_shares_one_fate {p : Pipeline} {records : List String}
    {found : List (String × SessionSnapshot)} {lost gone : List String} (around : Surroundings)
    (reply : Answer) (hrecords : p.sessions.unclaimed p.sessions.names = records)
    (hfound : p.sessions.readable records = found) (hlost : p.sessions.unreadable records = lost)
    (hgone : reply.outcome.gone lost (found.map (·.1)) = gone) (hfree : p.flushingSessions = false)
    (hfiles : ∀ name ∈ p.sessions.names, p.sessions.found? name ≠ some .folder) :
    (∀ name, (p.flushSessions around).1.sessions.found? name =
        if name ∈ lost then none else p.sessions.found? name) ∧
      ∃ q summary, Pipeline.exchange reply (p.flushSessions around) =
          (if found = [] then [] else [.sessions (p.batch around found)], q,
            .finished (.flush (.completed summary))) ∧
        q = { p with sessions := p.sessions.withoutRecords gone } ∧
        (∀ name, q.sessions.found? name =
          if name ∈ gone then none else p.sessions.found? name) ∧
        q.sessions.reserved = p.sessions.reserved ∧ (∀ name ∈ p.sessions.reserved, name ∉ gone) ∧
        summary = reply.outcome.batchSummary lost.length found.length ∧
        summary.delivered + summary.retained + summary.dropped = records.length := by
  have hclaimed : ∀ name, name ∈ p.sessions.unclaimed p.sessions.names ↔
      name ∈ lost ∨ name ∈ found.map (·.1) := by
    intro name
    rw [hrecords, ← (p.sessions.perm_readable_append records).mem_iff, hfound, hlost,
      List.mem_append, or_comm]
  have hfree_of_gone : ∀ name ∈ gone, name ∈ p.sessions.names ∧ name ∉ p.sessions.reserved := by
    intro name hname
    rw [← hgone] at hname
    have hboth := List.mem_append.1 (reply.outcome.gone_subset _ _ hname)
    exact RecordStore.mem_unclaimed.1 ((hclaimed name).2 hboth)
  have hstart := Pipeline.startSessionFlush_of_free hfree hrecords around none
  simp only [hfound, hlost] at hstart
  refine ⟨?_, { p with sessions := p.sessions.withoutRecords gone },
    reply.outcome.batchSummary lost.length found.length, ?_, rfl, ?_,
    RecordStore.reserved_withoutRecords _ _, ?_, rfl, ?_⟩
  · -- Whether something is sent or not, what is lost was deleted.
    have hsessions : (p.flushSessions around).1.sessions =
        p.claimSessions.sessions.delete lost := by
      unfold Pipeline.flushSessions
      rw [hstart]
      split <;> rfl
    intro name
    rw [hsessions]
    apply RecordStore.found?_withoutRecords
    intro name hname
    exact hfiles name (RecordStore.mem_unclaimed.1 ((hclaimed name).2 (.inl hname))).1
  · unfold Pipeline.flushSessions
    rw [hstart]
    cases found with
    | nil =>
      rw [List.map_nil, DeliveryStatus.gone_nil] at hgone
      rw [← hgone, List.length_nil, DeliveryStatus.batchSummary_zero,
        ← Pipeline.delete_claimed (by simpa using hclaimed)]
      rfl
    | cons first rest =>
      have hsettle := Pipeline.settle_batch hfree hclaimed (p.batch around (first :: rest))
        reply.outcome
      rw [hgone, List.length_map] at hsettle
      exact congrArg (Prod.mk _) hsettle
  · exact RecordStore.found?_withoutRecords fun name hname =>
      hfiles name (hfree_of_gone name hname).1
  · intro name hname hin
    exact (hfree_of_gone name hin).2 hname
  · rw [DeliveryStatus.sum_batchSummary, ← hfound, ← hlost]
    exact p.sessions.length_readable_add records

/-- A pipeline with four records of sessions: one that cannot be read, two that can, and one
that was claimed elsewhere. -/
def muddled : Pipeline :=
  let recorded (bits : BitVec 128) : Entry :=
    .file (.text (freshPipeline.sessions.recordText (sessionOf bits)))
  { freshPipeline with
    sessions := { freshPipeline.sessions with
      reserved := [RecordName.ofStamp 1 0]
      place := .folder (Dict.ofList
        [(RecordName.ofStamp 0 0, .file (.text "")), (RecordName.ofStamp 1 0, recorded 1),
          (RecordName.ofStamp 2 0, recorded 2), (RecordName.ofStamp 3 0, recorded 3)]) } }

/-- A batch of two is refused: both are gone with the record that could not be read, and the one
that was claimed elsewhere is there as it was. -/
theorem a_refused_batch_leaves_what_others_claimed :
    muddled.sessions.readable
          [RecordName.ofStamp 0 0, RecordName.ofStamp 2 0, RecordName.ofStamp 3 0] =
        [(RecordName.ofStamp 2 0, sessionOf 2), (RecordName.ofStamp 3 0, sessionOf 3)] ∧
      ∃ q, Pipeline.exchange (.status .failure) (muddled.flushSessions {}) =
          ([.sessions ⟨{}, {}, {}, [sessionOf 2, sessionOf 3]⟩], q,
            .finished (.flush (.completed ⟨0, 0, 3⟩))) ∧
        q.sessions.found? (RecordName.ofStamp 3 0) = none ∧
        q.sessions.found? (RecordName.ofStamp 1 0) =
          muddled.sessions.found? (RecordName.ofStamp 1 0) := by
  have hrecords : muddled.sessions.unclaimed muddled.sessions.names =
      [RecordName.ofStamp 0 0, RecordName.ofStamp 2 0, RecordName.ofStamp 3 0] := by rfl
  have hfiles : ∀ name ∈ muddled.sessions.names, muddled.sessions.found? name ≠ some .folder := by
    intro name _ hfolder
    have hentry := RecordStore.mem_of_found? (s := muddled.sessions) rfl hfolder
    simp at hentry
  have hempty : muddled.sessions.read (RecordName.ofStamp 0 0) =
      .error (.serialization "no record") := by rfl
  have hsecond : muddled.sessions.read (RecordName.ofStamp 2 0) = .ok (sessionOf 2) :=
    read_sessionOf freshPipeline.sessions rfl (by rfl)
  have hthird : muddled.sessions.read (RecordName.ofStamp 3 0) = .ok (sessionOf 3) :=
    read_sessionOf freshPipeline.sessions rfl (by rfl)
  have hfound : muddled.sessions.readable
        [RecordName.ofStamp 0 0, RecordName.ofStamp 2 0, RecordName.ofStamp 3 0] =
      [(RecordName.ofStamp 2 0, sessionOf 2), (RecordName.ofStamp 3 0, sessionOf 3)] := by
    rw [RecordStore.readable_cons_of_error hempty, RecordStore.readable_cons_of_read hsecond,
      RecordStore.readable_cons_of_read hthird]
    rfl
  have hlost : muddled.sessions.unreadable
        [RecordName.ofStamp 0 0, RecordName.ofStamp 2 0, RecordName.ofStamp 3 0] =
      [RecordName.ofStamp 0 0] := by
    rw [RecordStore.unreadable_cons_of_error hempty, RecordStore.unreadable_cons_of_read hsecond,
      RecordStore.unreadable_cons_of_read hthird]
    rfl
  obtain ⟨-, q, summary, hexchange, -, hleft, -, -, rfl, -⟩ :=
    a_batch_shares_one_fate {} (.status .failure) hrecords hfound hlost rfl rfl hfiles
  refine ⟨hfound, q, hexchange, ?_, ?_⟩
  · rw [hleft, if_pos (by decide)]
  · rw [hleft, if_neg (by decide)]

end CrashReporter
