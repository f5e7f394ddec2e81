import CrashReporter.Proofs.Context
import CrashReporter.Proofs.Text.Hex
import CrashReporter.Proofs.Time.Timestamp
import CrashReporter.Session

-- Sessions read back from what is written of them, as far as their timestamps do.

namespace CrashReporter

open Reader Text

/-! ## Session ids -/

namespace SessionId

theorem length_hyphenated {ds : List Char} (h : ds.length = 32) :
    (hyphenated ds).length = 36 := by
  simp only [hyphenated, List.length_append, List.length_cons, List.length_take, List.length_drop]
  omega

/-- The groups are the digits again, without the hyphens. -/
theorem filter_hyphenated {ds : List Char} (h : ∀ c ∈ ds, c ≠ '-') :
    (hyphenated ds).filter (fun c => c != '-') = ds := by
  have hkeep : ∀ s : List Char, s ⊆ ds → s.filter (fun c => c != '-') = s := by
    intro s hs
    exact List.filter_eq_self.2 fun c hc => by simpa using h c (hs hc)
  have hgroup : ∀ m n, ((ds.drop m).take n).filter (fun c => c != '-') = (ds.drop m).take n :=
    fun m n => hkeep _ fun c hc => List.mem_of_mem_drop (List.mem_of_mem_take hc)
  have hjoin : ∀ m n, (ds.drop m).take n ++ ds.drop (m + n) = ds.drop m := by
    intro m n
    rw [← List.drop_drop, List.take_append_drop]
  simp only [hyphenated, List.filter_append, List.filter_cons, bne_self_eq_false, hgroup,
    hkeep _ (List.take_subset 8 ds), hkeep _ (List.drop_subset 20 ds), Bool.false_eq_true, if_false,
    List.append_assoc]
  rw [hjoin 16 4, hjoin 12 4, hjoin 8 4, List.take_append_drop]

theorem ofText?_text (id : SessionId) : ofText? id.text = some id := by
  have hlength : id.plain.length = 32 := length_hexDigits 32 _
  have hfilter : (hyphenated id.plain).filter (fun c => c != '-') = id.plain :=
    filter_hyphenated fun c hc => ne_hyphen_of_mem_hexDigits hc
  have hgroups : (hyphenated id.plain).length = 36 := length_hyphenated hlength
  have hbits : id.bits.toNat % 16 ^ 32 = id.bits.toNat := Nat.mod_eq_of_lt id.bits.isLt
  have hnumber : hexNumber? id.plain = some id.bits.toNat := by
    unfold plain
    rw [hexNumber?_hexDigits, hbits]
  unfold ofText? text
  simp only [String.toList_ofList, hgroups]
  rw [if_neg (by decide), if_pos trivial]
  unfold ofGroups? ofDigits?
  rw [hfilter, if_pos ⟨hgroups, rfl⟩, if_pos hlength, hnumber, Option.map_some]
  simp

theorem recovers (id : SessionId) : Recovers SessionId.reader id.toJson id True := by
  refine ⟨trivial, ?_⟩
  intro room y
  simp [SessionId.reader, toJson, string, Tree.ofJson, ofText?_text, Json.depth, eq_comm]

end SessionId

/-! ## Instants -/

namespace Instant

/-- The text of the instant is a timestamp of that very instant. -/
def ReadsBack (t : Instant) : Prop := ofText? t.text = some t

/-- Exactly the instants that there are read back. -/
theorem readsBack_iff (t : Instant) : t.ReadsBack ↔ t.Proper := ofText?_text_iff t

theorem ReadsBack.recovers {t : Instant} (h : t.ReadsBack) :
    Recovers Instant.reader t.toJson t True := by
  have hread : ofText? t.text = some t := h
  refine ⟨trivial, ?_⟩
  intro room y
  simp [Instant.reader, toJson, string, Tree.ofJson, hread, Json.depth, eq_comm]

end Instant

/-! ## Sessions -/

theorem EventCounts.recovers (c : EventCounts) : Recovers EventCounts.reader c.toJson c True := by
  refine recovers_record ?_ (List.Sublist.refl _) (by decide) ?_
  · exact ⟨(recovers_uint32 c.handled).exact, (recovers_uint32 c.unhandled).exact, trivial⟩
  · intro room y
    rw [required_of_flat (show valueAt _ "handled" = some (.nat c.handled.toNat) from rfl)
        (recovers_uint32 c.handled) rfl,
      required_of_flat (show valueAt _ "unhandled" = some (.nat c.unhandled.toNat) from rfl)
        (recovers_uint32 c.unhandled) rfl]
    have hdepth : ∀ n, (Json.nat n).depth = 0 := fun _ => rfl
    simp only [Json.depthMembers, hdepth, Nat.max_self, Nat.zero_le, true_and]
    exact some_iff

theorem SessionSnapshot.recovers (s : SessionSnapshot) (h : s.startedAt.ReadsBack) :
    Recovers SessionSnapshot.reader s.toJson s True := by
  have huser : ∀ u ∈ s.user, Recovers User.reader u.toJson u True ∧ u.toJson.isNull = false :=
    fun u _ => ⟨u.recovers, rfl⟩
  refine recovers_record ?_ ?_ (by decide) ?_
  · refine Json.exactMembers_append.2 ⟨Json.exactMembers_append.2 ⟨?_, ?_⟩, ?_⟩
    · exact ⟨s.id.recovers.exact, h.recovers.exact, trivial⟩
    · exact exactMembers_optional fun u hu => (huser u hu).1.exact
    · exact ⟨s.events.recovers.exact, trivial⟩
  · simp only [List.map_append]
    exact ((List.Sublist.refl ["id", "startedAt"]).append
      (optional_sublist "user" User.toJson s.user)).append (List.Sublist.refl ["events"])
  · intro room y
    simp only [Option.bind_eq_bind]
    rw [required_of_flat (v := s.id.toJson) (by simp) s.id.recovers rfl,
      required_of_flat (v := s.startedAt.toJson) (by simp) h.recovers rfl]
    simp only [Option.bind_some]
    rw [bind_iff (optional_iff_of_none (o := s.user) (by simp) huser),
      bind_iff (required_iff (v := s.events.toJson) (by simp) s.events.recovers)]
    have hid : s.id.toJson.depth = 0 := rfl
    have hstarted : s.startedAt.toJson.depth = 0 := rfl
    simp only [Json.depthMembers_append, Json.depthMembers, depthMembers_optional, hid, hstarted,
      Nat.max_self, Nat.zero_max, Nat.max_zero, Nat.max_le, true_and, and_assoc]
    exact and_congr_right fun _ => and_congr_right fun _ => some_iff

end CrashReporter
