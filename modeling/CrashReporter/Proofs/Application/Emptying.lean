import CrashReporter.Proofs.Application.EventFlush

-- What a flush of events leaves behind if no record is to be tried again later. All that it
-- counted is gone, but for directories: they go by the name of a record and are counted as one
-- that was dropped, yet no flush takes them away.

namespace CrashReporter

/-! ## Directories among the records -/

namespace RecordStore

variable {α : Type} {s : RecordStore α} {gone : List String}

/-- The records that are no files. -/
def isFolder (s : RecordStore α) (name : String) : Bool := s.found? name == some .folder

theorem isFolder_iff {name : String} : s.isFolder name = true ↔ s.found? name = some .folder := by
  simp [isFolder]

theorem isFolder_withoutRecords (s : RecordStore α) (gone : List String) (name : String) :
    (s.withoutRecords gone).isFolder name = s.isFolder name := by
  rw [isFolder, found?_withoutRecords_eq, isFolder]
  split
  · next h => simp [h.2]
  · rfl

/-- Of the records that were to go, the directories are still there. -/
theorem names_withoutRecords (s : RecordStore α) (gone : List String) :
    (s.withoutRecords gone).names =
      s.names.filter fun name => !gone.contains name || s.isFolder name := by
  refine Folder.eq_of_mem_iff (names_pairwise _) (s.names_pairwise.filter _) ?_
  intro name
  rw [mem_names, found?_withoutRecords_eq, List.mem_filter, mem_names]
  by_cases hgone : name ∈ gone
  · by_cases hfolder : s.found? name = some .folder
    · simp [hgone, hfolder, isFolder]
    · simp [hgone, hfolder, isFolder]
  · simp [hgone]

/-- Nothing but claims comes of deleting directories. -/
theorem delete_of_isFolder (h : ∀ name ∈ gone, s.isFolder name = true) :
    s.delete gone = s.cancel gone := by
  cases hplace : s.place with
  | nothing => simp [delete, change, hplace]
  | file => simp [delete, change, hplace]
  | folder f =>
    have hkept : gone.foldl Folder.removeFile f = f := by
      refine List.foldlRecOn (motive := (· = f)) gone Folder.removeFile rfl ?_
      rintro _ rfl name hname
      have hfound := isFolder_iff.1 (h name hname)
      rw [found?_of_folder hplace] at hfound
      rw [Folder.removeFile, hfound]
    simp [delete, change, hplace, hkept, cancel]

theorem cancel_cancel (s : RecordStore α) (names more : List String) :
    (s.cancel names).cancel more = s.cancel (names ++ more) := by
  simp [cancel, List.filter_filter, Bool.and_comm]

end RecordStore

/-! ## Flushes -/

/-- Where every answer is final, a flush is through with all records. -/
theorem Passage.left_eq_nil {s : RecordStore Event} {records tried left : List String}
    {answers : List DeliveryStatus} (h : Passage s records answers tried left)
    (hfinal : .undelivered ∉ answers) : left = [] := by
  obtain ⟨-, settled, -, -, ⟨hleft, -⟩ | ⟨_, _, _, -, -, rfl⟩⟩ := h
  · exact hleft
  · exact absurd (List.mem_append_right settled List.mem_cons_self) hfinal

namespace Pipeline

/-- A flush counts each directory as dropped and goes on. -/
theorem sendStoredEvent_of_isFolder {q : Pipeline} {records : List String}
    (h : ∀ name ∈ records, q.events.isFolder name = true) (summary : FlushSummary) :
    q.sendStoredEvent summary false records =
      (q.passed [] records, .finished (.flush (.completed (summary.drop records.length)))) := by
  induction records generalizing q summary with
  | nil => simp [passed_nil, RecordStore.cancel_nil, sendStoredEvent, endEventFlush]; rfl
  | cons record rest ih =>
    have hfound := RecordStore.isFolder_iff.1 (h record List.mem_cons_self)
    have hread : q.events.read record = .error (.io "a directory") := by
      unfold RecordStore.read
      rw [show q.events.place.folder?.bind (fun f => f.get? record) = some .folder from hfound]
    have hdelete : q.events.delete [record] = q.events.cancel [record] :=
      RecordStore.delete_of_isFolder (by simpa using h record List.mem_cons_self)
    rw [sendStoredEvent_of_error hread, hdelete, ih]
    · simp [passed_nil, RecordStore.cancel_cancel, FlushSummary.drop]
      omega
    · intro name hname
      exact h name (List.mem_cons_of_mem _ hname)

variable {p : Pipeline}

/-- Where all that is free are directories, a flush sends nothing and leaves all as it was. -/
theorem flushEvents_of_isFolder (hfree : p.flushingEvents = false)
    (h : ∀ name ∈ p.events.unclaimed p.events.names, p.events.isFolder name = true) :
    p.flushEvents = (p, .finished (.flush (.completed
      { dropped := (p.events.unclaimed p.events.names).length }))) := by
  have hpassed : p.claimedEvents.passed [] (p.events.unclaimed p.events.names) = p := by
    rw [passed_claimedEvents hfree (List.nil_append _)]
    obtain ⟨settings, ⟨kind, limit, reserved, lastStamp, place⟩, _⟩ := p
    cases place <;> rfl
  have hfolders : ∀ name ∈ p.events.unclaimed p.events.names,
      p.claimedEvents.events.isFolder name = true := h
  rw [flushEvents_of_free hfree, sendStoredEvent_of_isFolder hfolders, hpassed]
  simp [FlushSummary.drop]

end Pipeline

namespace Application

variable {a b : Application} {p : Pipeline} {sent : List (Flight × Answer)} {outcome : Outcome}

/-- Where every answer to it is final, a flush tries all that is free. -/
theorem tries_all_of_course (hpipeline : a.client.pipeline = p) (hhooks : a.hooks = [])
    (hfree : p.flushingEvents = false) (hcourse : Course (a.begin .flushEvents) sent b outcome)
    (hfinal : ∀ e ∈ sent, e.2.outcome ≠ .undelivered) :
    b.client.pipeline =
        { p with events := p.events.withoutRecords (p.events.unclaimed p.events.names) } ∧
      ∃ summary, outcome = .flush (.completed summary) ∧ summary.retained = 0 ∧
        summary.delivered + summary.dropped = (p.events.unclaimed p.events.names).length := by
  subst hpipeline
  have hbegin : a.begin .flushEvents = a.changePipeline
      (a.client.pipeline.claimedEvents.sendStoredEvent {} false
        (a.client.pipeline.events.unclaimed a.client.pipeline.events.names)) :=
    congrArg a.changePipeline (Pipeline.flushEvents_of_free hfree)
  rw [hbegin] at hcourse
  have hnodup : (a.client.pipeline.events.unclaimed a.client.pipeline.events.names).Nodup :=
    a.client.pipeline.events.nodup_names.filter _
  generalize hrecords : a.client.pipeline.events.unclaimed a.client.pipeline.events.names =
    records at hcourse hnodup
  obtain ⟨tried, left, ⟨hsplit, hanswered⟩, -, houtcome, hb⟩ :=
    exists_passes_of_course hhooks hnodup hcourse
  have hpassage : Passage a.client.pipeline.events records (sent.map (·.2.outcome)) tried left :=
    ⟨hsplit, hanswered⟩
  have hleft : left = [] := by
    refine hpassage.left_eq_nil fun hmem => ?_
    obtain ⟨e, he, hundelivered⟩ := List.mem_map.1 hmem
    exact hfinal e he hundelivered
  rw [Pipeline.passed_claimedEvents hfree (hsplit.trans hrecords.symm)] at hb
  rw [hleft, List.append_nil] at hsplit
  rw [hsplit] at hb houtcome hpassage
  have hcounts := hpassage.count_answers
  have hall := a.client.pipeline.events.length_readable_add records
  refine ⟨by rw [hb]; rfl, _, houtcome, by rw [hleft]; rfl, ?_⟩
  show 0 + _ + (0 + _ + (a.client.pipeline.events.unreadable records).length) = _
  omega

end Application

/-! ## The law -/

/-- A flush of events that finds the gate open ends. If every answer to it is final, it counts each
record that nobody had claimed as delivered or dropped. Of these, directories are still listed
afterwards and nothing else is; what others had claimed is listed as before. If nobody had claimed
anything, a second flush sends nothing, changes nothing and counts the directories once more.
Without directories there is nothing left, and the second flush counts nothing. -/
theorem what_a_flush_counts_is_gone_but_for_directories {a : Application} {p : Pipeline}
    (hpipeline : a.client.pipeline = p) (hhooks : a.hooks = []) (hfree : p.flushingEvents = false) :
    Ends (a.begin .flushEvents) ∧
    ∀ sent b outcome, Course (a.begin .flushEvents) sent b outcome →
      (∀ e ∈ sent, e.2.outcome ≠ .undelivered) →
      (∃ summary, outcome = .flush (.completed summary) ∧ summary.retained = 0 ∧
        summary.delivered + summary.dropped = (p.events.unclaimed p.events.names).length) ∧
      (∀ name ∈ p.events.unclaimed p.events.names,
        name ∈ b.client.pipeline.events.names ↔ p.events.found? name = some .folder) ∧
      (∀ name ∈ p.events.names, name ∈ p.events.reserved →
        name ∈ b.client.pipeline.events.names) ∧
      (p.events.reserved = [] →
        b.begin .flushEvents = (b, .finished (.flush (.completed
          { dropped := b.client.pipeline.events.names.length })))) ∧
      (p.events.reserved = [] →
        (∀ name ∈ p.events.names, p.events.found? name ≠ some .folder) →
        b.client.pipeline.events.names = [] ∧
          b.begin .flushEvents = (b, .finished (.flush (.completed {})))) := by
  refine ⟨.begin a .flushEvents, ?_⟩
  intro sent b outcome hcourse hfinal
  obtain ⟨hb, hsummary⟩ := Application.tries_all_of_course hpipeline hhooks hfree hcourse hfinal
  have hnames : b.client.pipeline.events.names = p.events.names.filter fun name =>
      !(p.events.unclaimed p.events.names).contains name || p.events.isFolder name := by
    rw [hb, ← RecordStore.names_withoutRecords]
  have hagain : p.events.reserved = [] → b.begin .flushEvents = (b, .finished (.flush (.completed
      { dropped := b.client.pipeline.events.names.length }))) := by
    intro hreserved
    have hunreserved : b.client.pipeline.events.reserved = [] := by
      rw [hb]
      exact (RecordStore.reserved_withoutRecords _ _).trans hreserved
    have hopen : b.client.pipeline.flushingEvents = false := by rw [hb]; exact hfree
    have hunclaimed := RecordStore.unclaimed_of_unreserved hunreserved
      b.client.pipeline.events.names
    have hfolders : ∀ name ∈ b.client.pipeline.events.names,
        b.client.pipeline.events.isFolder name = true := by
      intro name hname
      rw [hnames, RecordStore.unclaimed_of_unreserved hreserved, List.mem_filter] at hname
      rw [hb]
      simpa [hname.1, RecordStore.isFolder_withoutRecords] using hname.2
    have hflush := Pipeline.flushEvents_of_isFolder hopen fun name hname =>
      hfolders name (RecordStore.mem_unclaimed.1 hname).1
    rw [hunclaimed] at hflush
    exact congrArg b.changePipeline hflush
  refine ⟨hsummary, ?_, ?_, hagain, ?_⟩
  · intro name hname
    simp [hnames, hname, (RecordStore.mem_unclaimed.1 hname).1, RecordStore.isFolder]
  · intro name hname hreserved
    simp [hnames, hname, RecordStore.mem_unclaimed, hreserved]
  · intro hreserved hfiles
    have hnone : b.client.pipeline.events.names = [] := by
      rw [hnames, RecordStore.unclaimed_of_unreserved hreserved, List.filter_eq_nil_iff]
      intro name hname
      simp [hname, RecordStore.isFolder, hfiles name hname]
    refine ⟨hnone, ?_⟩
    rw [hagain hreserved, hnone]
    rfl

/-- An application with two records that cannot be read and two events, all of them free. -/
def unclaimedLitter : Application :=
  littered.changeClient fun c =>
    { c with pipeline := { c.pipeline with events := { c.pipeline.events with reserved := [] } } }

/-- The collector takes one event and refuses the other. Nothing is left for a second flush. -/
theorem a_second_flush_finds_nothing :
    ∃ sent b summary, Course (unclaimedLitter.begin .flushEvents) sent b
        (.flush (.completed summary)) ∧
      sent.map (·.2) = (List.range sent.length).map
        (fun n => .status (if n = 0 then .delivered else .failure)) ∧
      summary.retained = 0 ∧ summary.delivered + summary.dropped = 4 ∧
      b.client.pipeline.events.names = [] ∧
      b.begin .flushEvents = (b, .finished (.flush (.completed {}))) := by
  have hrecords : unclaimedLitter.client.pipeline.events.unclaimed
      unclaimedLitter.client.pipeline.events.names = _ :=
    (RecordStore.unclaimed_of_unreserved rfl _).trans names_littered
  obtain ⟨hends, hlaw⟩ := what_a_flush_counts_is_gone_but_for_directories
    (a := unclaimedLitter) rfl rfl rfl
  obtain ⟨sent, b, outcome, hcourse, hreplies⟩ := hends fun n =>
    .status (if n = 0 then .delivered else .failure)
  have hfinal : ∀ e ∈ sent, e.2.outcome ≠ .undelivered := by
    intro e he
    have hreply := List.mem_map_of_mem (f := fun e : Flight × Answer => e.2) he
    rw [hreplies, List.mem_map] at hreply
    obtain ⟨n, -, hn⟩ := hreply
    rw [← hn]
    show (if n = 0 then DeliveryStatus.delivered else .failure) ≠ .undelivered
    split <;> decide
  obtain ⟨⟨summary, rfl, hretained, hsum⟩, -, -, -, hsecond⟩ := hlaw sent b outcome hcourse hfinal
  obtain ⟨hnone, hagain⟩ := hsecond rfl files_littered
  refine ⟨sent, b, summary, hcourse, hreplies, hretained, ?_, hnone, hagain⟩
  rw [hsum, hrecords]
  rfl

/-- A disk with a directory that goes by the name of a record. -/
def shadyDisk : Disk :=
  { events := .folder (Dict.ofList [(RecordName.ofStamp 7 0, .folder)]) }

/-- A client opens its stores on such a disk. A flush that nobody disturbs counts the directory as
dropped. It is still listed then, as all is as it was. -/
theorem a_directory_is_counted_as_dropped_and_stays :
    ∃ (p : Pipeline) (a : Application),
      Pipeline.openOn (Client.settingsOf plainLaunch.config {}) shadyDisk = .ok p ∧
        a.client.pipeline = p ∧ a.hooks = [] ∧ p.flushingEvents = false ∧
        p.events.reserved = [] ∧ p.events.names = [RecordName.ofStamp 7 0] ∧
        a.begin .flushEvents = (a, .finished (.flush (.completed { dropped := 1 }))) := by
  have hopen : Pipeline.openOn (Client.settingsOf plainLaunch.config {}) shadyDisk =
      .ok { plainClient.pipeline with
        events := { kind := .event, limit := 32, lastStamp := 7, place := shadyDisk.events } } := by
    rfl
  refine ⟨_, plainApplication.changeClient fun c => { c with
    pipeline := { c.pipeline with
      events := { kind := .event, limit := 32, lastStamp := 7, place := shadyDisk.events } } },
    hopen, rfl, rfl, rfl, rfl, rfl, rfl⟩

end CrashReporter
