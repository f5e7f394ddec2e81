import CrashReporter.Proofs.Event
import CrashReporter.Proofs.Store.Contents

-- Records decode to what was encoded, and exactly when. What can be in the way is a member
-- of the app or the device with the name of a field beside it, and nesting beyond the limit;
-- a session has neither.

namespace CrashReporter

open Reader

/-! ## Records -/

theorem PayloadKind.recovers (k : PayloadKind) :
    Recovers PayloadKind.reader (.str k.text) k True := recovers_word k.ofText?_text

namespace StoredRecord

variable {α : Type} [Storable α]

theorem recovers {item : α} {sound : Prop}
    (h : Recovers Storable.reader (Storable.toJson item) item sound) (version : UInt32)
    (kind : PayloadKind) :
    Recovers StoredRecord.reader (StoredRecord.toJson ⟨version, kind, item⟩)
      ⟨version, kind, item⟩ sound := by
  refine recovers_record ?_ (List.Sublist.refl _) (by decide) ?_
  · exact ⟨(recovers_uint32 version).exact, trivial, h.exact, trivial⟩
  · intro room y
    simp only [Option.bind_eq_bind]
    rw [required_of_flat (v := .nat version.toNat) (by simp) (recovers_uint32 version) rfl,
      required_of_flat (v := .str kind.text) (by simp) kind.recovers rfl]
    simp only [Option.bind_some]
    rw [bind_iff (required_iff (v := Storable.toJson item) (by simp) h)]
    have hnumber : (Json.nat version.toNat).depth = 0 := rfl
    have hstring : (Json.str kind.text).depth = 0 := rfl
    simp only [Json.depthMembers, hnumber, hstring, Nat.max_zero, Nat.zero_max, and_assoc]
    exact and_congr_right fun _ => and_congr_right fun _ => some_iff

end StoredRecord

namespace RecordStore

variable {α : Type} [Storable α]

/-- What is written of an item: with the version of the form and the kind of the store. -/
def envelope (s : RecordStore α) (item : α) : Json :=
  StoredRecord.toJson ⟨StoredRecord.currentVersion, s.kind, item⟩

/-- The text of a record is parsed exactly if its item is recovered. -/
theorem parse_recordText {item : α} {sound : Prop}
    (h : Recovers Storable.reader (Storable.toJson item) item sound) (s : RecordStore α) :
    (sound ∧ (s.envelope item).depth ≤ Tree.depthLimit →
        parse (.text (s.recordText item)) =
          .ok ⟨StoredRecord.currentVersion, s.kind, item⟩) ∧
      (¬(sound ∧ (s.envelope item).depth ≤ Tree.depthLimit) →
        (parse (.text (s.recordText item)) : Except ReportError (StoredRecord α)) =
          .error (.serialization "no record")) := by
  have hrecord := StoredRecord.recovers h StoredRecord.currentVersion s.kind
  have hparsed : (ofText? StoredRecord.reader (s.recordText item) : Option (StoredRecord α)) =
      StoredRecord.reader Tree.depthLimit (Tree.ofJson (s.envelope item)) := by
    unfold ofText? recordText
    rw [Tree.ofText_text hrecord.exact]
    rfl
  constructor
  · rintro ⟨hsound, hdepth⟩
    have hread : StoredRecord.reader Tree.depthLimit (Tree.ofJson (s.envelope item)) =
        some (⟨StoredRecord.currentVersion, s.kind, item⟩ : StoredRecord α) :=
      (hrecord.reads Tree.depthLimit _).2 ⟨hsound, hdepth, rfl⟩
    simp only [parse, hparsed, hread]
  · intro hnot
    have hnone : (StoredRecord.reader Tree.depthLimit (Tree.ofJson (s.envelope item)) :
        Option (StoredRecord α)) = none := by
      apply Option.eq_none_iff_forall_ne_some.2
      intro r hread
      obtain ⟨hsound, hdepth, _⟩ := (hrecord.reads Tree.depthLimit r).1 hread
      exact hnot ⟨hsound, hdepth⟩
    simp only [parse, hparsed, hnone]

/-- An item is legible exactly if it is recovered. -/
theorem legible_iff {item : α} {sound : Prop}
    (h : Recovers Storable.reader (Storable.toJson item) item sound) (s : RecordStore α) :
    s.Legible item ↔ sound ∧ (s.envelope item).depth ≤ Tree.depthLimit := by
  obtain ⟨hok, herror⟩ := parse_recordText h s
  refine ⟨?_, hok⟩
  intro hlegible
  by_contra hnot
  have herror := herror hnot
  unfold Legible at hlegible
  rw [herror] at hlegible
  cases hlegible

/-- The store has under a name what a store of the same kind put in a record for an item. -/
def HasWritten (s writer : RecordStore α) (item : α) (name : String) : Prop :=
  s.kind = writer.kind ∧ ∃ now tag written entry,
    (writer.write item now tag).2 = .ok written ∧
      (writer.write item now tag).1.found? written = some entry ∧ s.found? name = some entry

theorem HasWritten.found?_eq {s writer : RecordStore α} {item : α} {name : String}
    (h : s.HasWritten writer item name) :
    s.found? name = some (.file (.text (writer.recordText item))) := by
  obtain ⟨_, now, tag, written, entry, hok, hput, hthere⟩ := h
  rw [hthere]
  unfold write at hok hput
  cases hplace : writer.place with
  | nothing => simp [hplace] at hok
  | file => simp [hplace] at hok
  | folder f =>
    simp only [hplace, Except.ok.injEq] at hok hput
    subst hok
    rw [prune_of_folder rfl, found?_of_folder rfl, get?_pruned, Dict.get?_insert] at hput
    split at hput
    · cases hput
    · rw [if_pos rfl] at hput
      exact hput.symm ▸ rfl

/-- What was put in a record is read back exactly if its item is recovered. -/
theorem read_written {s writer : RecordStore α} {item : α} {name : String} {sound : Prop}
    (h : s.HasWritten writer item name)
    (hr : Recovers Storable.reader (Storable.toJson item) item sound) :
    (s.read name = .ok item ↔ sound ∧ (writer.envelope item).depth ≤ Tree.depthLimit) ∧
      (¬(sound ∧ (writer.envelope item).depth ≤ Tree.depthLimit) →
        ∃ reason, s.read name = .error (.serialization reason)) := by
  obtain ⟨hok, herror⟩ := parse_recordText hr writer
  have hread : s.read name = parse (.text (writer.recordText item)) >>= s.accept name := by
    have hfound := h.found?_eq
    unfold found? at hfound
    unfold read
    rw [hfound]
  by_cases hcond : sound ∧ (writer.envelope item).depth ≤ Tree.depthLimit
  · have haccept : s.accept name ⟨StoredRecord.currentVersion, writer.kind, item⟩ = .ok item := by
      unfold accept
      rw [if_neg (by simp), if_neg (by simp [h.1])]
    have hitem : s.read name = .ok item := by
      rw [hread, hok hcond]
      exact haccept
    exact ⟨⟨fun _ => hcond, fun _ => hitem⟩, fun hnot => absurd hcond hnot⟩
  · have hrefused : s.read name = .error (.serialization "no record") := by
      rw [hread, herror hcond]
      rfl
    refine ⟨⟨?_, fun h => absurd h hcond⟩, fun _ => ⟨_, hrefused⟩⟩
    intro hitem
    rw [hrefused] at hitem
    cases hitem

/-- A session never nests beyond the limit. -/
theorem depth_session_envelope (s : RecordStore SessionSnapshot) (session : SessionSnapshot) :
    (s.envelope session).depth ≤ Tree.depthLimit := by
  have huser : ((session.user.map User.toJson).getD .null).depth ≤ 1 := by
    cases session.user with
    | none => exact Nat.zero_le 1
    | some u => simp [User.toJson, Json.depth, Json.depthMembers]
  have hsession : (Storable.toJson session).depth ≤ 2 := by
    show (SessionSnapshot.toJson session).depth ≤ 2
    simp only [SessionSnapshot.toJson, Json.depth, Json.depthMembers_append, Json.depthMembers,
      depthMembers_optional, SessionId.toJson, Instant.toJson, EventCounts.toJson, Json.nat,
      Json.int]
    omega
  have hlimit : Tree.depthLimit = 127 := rfl
  simp only [envelope, StoredRecord.toJson, Json.depth, Json.depthMembers, Json.nat, Json.int]
  omega

/-- Every session there is can be read from its record. -/
theorem legible_of_proper (s : RecordStore SessionSnapshot) {session : SessionSnapshot}
    (h : session.startedAt.Proper) : s.Legible session := by
  have hrecovers := session.recovers ((Instant.readsBack_iff _).2 h)
  exact (legible_iff hrecovers s).2 ⟨trivial, depth_session_envelope s session⟩

/-! ## The laws -/

/-- An event that was written is read back exactly if no member of its app or its device
bears the name of a field and its record nests within the limit; otherwise reading fails.
A session that was written is always read back. -/
theorem records_decode_to_what_was_encoded :
    (∀ (s writer : RecordStore Event) (event : Event) (name : String),
      event.Plain → event.TimesReadBack → s.HasWritten writer event name →
      (s.read name = .ok event ↔
        event.Unclashing ∧ (writer.envelope event).depth ≤ 127) ∧
      (¬(event.Unclashing ∧ (writer.envelope event).depth ≤ 127) →
        ∃ reason, s.read name = .error (.serialization reason))) ∧
    ∀ (s writer : RecordStore SessionSnapshot) (session : SessionSnapshot) (name : String),
      session.startedAt.ReadsBack → s.HasWritten writer session name →
      s.read name = .ok session := by
  constructor
  · intro s writer event name hplain htimes hwritten
    exact read_written hwritten (event.recovers hplain htimes)
  · intro s writer session name htime hwritten
    have hread := (read_written hwritten (session.recovers htime)).1
    exact hread.2 ⟨trivial, depth_session_envelope writer session⟩

/-- An event with one more member of the app. -/
def eventWith (key : String) (value : Json) : Event :=
  { errors := []
    severity := .warning
    handledState := .ofReason .handledException
    app := { extra := Dict.empty.insert key value }
    timestamp := ⟨0, 0, 0⟩ }

/-- A store in a directory of its own that keeps one record. -/
def storeOf (kind : PayloadKind) : RecordStore α :=
  { kind, limit := 1, place := .folder Dict.empty }

theorem plain_eventWith {key : String} {value : Json} (h : value.Exact ∧ value.Ordered) :
    (eventWith key value).Plain := by
  refine ⟨?_, ?_, ?_, ?_⟩
  · intro e he
    obtain rfl := List.mem_singleton.1 he
    exact h
  · intro e he
    cases he
  · intro b hb
    cases hb
  · intro e he
    cases he

theorem timesReadBack_eventWith (key : String) (value : Json) :
    (eventWith key value).TimesReadBack := by
  refine ⟨?_, ?_, ?_⟩
  · show Instant.ofText? (Instant.text ⟨0, 0, 0⟩) = some ⟨0, 0, 0⟩
    decide
  · intro b hb
    cases hb
  · intro s hs
    cases hs

theorem hasWritten_storeOf (kind : PayloadKind) (item : α) :
    ((storeOf kind).write item 1 0).1.HasWritten (storeOf kind) item (RecordName.ofStamp 1 0) := by
  have hplace : (storeOf kind : RecordStore α).place = .folder Dict.empty := rfl
  have hname : (storeOf kind : RecordStore α).newName 1 0 = RecordName.ofStamp 1 0 := rfl
  have hlength : ((storeOf kind).folderWith Dict.empty item 1 0).records.length = 1 :=
    length_records_folderWith item (by decide) List.not_mem_nil
  have hkept : ((storeOf kind).placed item 1 0).surplus
      ((storeOf kind).folderWith Dict.empty item 1 0) = [] := by
    rw [placed_of_folder hplace, surplus, hlength]
    rfl
  have hfound : ((storeOf kind).write item 1 0).1.found? (RecordName.ofStamp 1 0) =
      some (.file (.text ((storeOf kind).recordText item))) := by
    rw [placed_of_folder hplace] at hkept
    rw [write_of_folder hplace, placed_of_folder hplace, prune_of_folder rfl,
      found?_of_folder rfl, get?_pruned]
    rw [folderWith] at hkept
    rw [hkept, if_neg List.not_mem_nil, Dict.get?_insert, hname, if_pos rfl]
  refine ⟨rfl, 1, 0, RecordName.ofStamp 1 0, _, ?_, hfound, hfound⟩
  rw [write_of_folder hplace, hname]

/-- A member of its own is read back with the event, one with the name of a field is in the
way; and so a session is read back. -/
theorem an_event_and_a_session_are_read_back :
    let plan := eventWith "plan" (.arr [.int (-1)])
    let clash := eventWith "id" (.int 1)
    let session : SessionSnapshot := ⟨⟨0⟩, ⟨0, 0, 0⟩, none, {}⟩
    let name := RecordName.ofStamp 1 0
    (((storeOf .event).write plan 1 0).1.read name = .ok plan) ∧
      (∃ reason, ((storeOf .event).write clash 1 0).1.read name = .error (.serialization reason)) ∧
      ((storeOf .session).write session 1 0).1.read name = .ok session := by
  intro plan clash session name
  obtain ⟨hevents, hsessions⟩ := records_decode_to_what_was_encoded
  refine ⟨?_, ?_, ?_⟩
  · have hplain : plan.Plain :=
      plain_eventWith ⟨⟨⟨by decide, by decide⟩, trivial⟩, trivial, trivial⟩
    have hread := (hevents _ _ plan name hplain (timesReadBack_eventWith _ _)
      (hasWritten_storeOf .event plan)).1
    refine hread.2 ⟨⟨?_, ?_⟩, by decide⟩
    · unfold AppState.Unclashing
      decide
    · unfold DeviceState.Unclashing
      decide
  · have hplain : clash.Plain := plain_eventWith ⟨⟨by decide, by decide⟩, trivial⟩
    refine (hevents _ _ clash name hplain (timesReadBack_eventWith _ _)
      (hasWritten_storeOf .event clash)).2 ?_
    rintro ⟨⟨happ, _⟩, _⟩
    exact happ "id" (by decide) (by decide)
  · have htime : Instant.ReadsBack ⟨0, 0, 0⟩ := by
      show Instant.ofText? (Instant.text ⟨0, 0, 0⟩) = some ⟨0, 0, 0⟩
      decide
    exact hsessions _ _ session name htime (hasWritten_storeOf .session session)

end RecordStore

end CrashReporter
