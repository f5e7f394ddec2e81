import CrashReporter.Context
import CrashReporter.Metadata
import CrashReporter.Proofs.Json.Reader

-- The user, the app, the device and metadata read back from what is written of them. The
-- app and the device do so only while no other member bears the name of a field.

namespace CrashReporter

open Reader

/-- Free-form values that can be written and read: no doubles, and keys that go up. -/
def Dict.Plain (d : Dict Json) : Prop := ∀ e ∈ d.toList, e.2.Exact ∧ e.2.Ordered

theorem Dict.Plain.exact {d : Dict Json} (h : d.Plain) : Json.ExactMembers d.toList :=
  Json.exactMembers_iff.2 fun e he => (h e he).1

theorem Dict.Plain.recovers {d : Dict Json} (h : d.Plain) :
    Recovers (Reader.dict Reader.json) (.obj d.toList) d True := by
  have hdict := recovers_dict (f := id) fun e he => recovers_json (h e he).1 (h e he).2
  have hself : (d.toList.map fun e => (e.1, id e.2)) = d.toList := List.map_id _
  rw [hself] at hdict
  exact hdict

/-! ## User -/

theorem User.recovers (u : User) : Recovers User.reader u.toJson u True := by
  refine recovers_record ?_ (List.Sublist.refl _) (by decide) ?_
  · simp [Json.ExactMembers]
  · intro room y
    rw [nullable_string (show valueAt _ "id" = some (.strOrNull u.id) from rfl),
      nullable_string (show valueAt _ "email" = some (.strOrNull u.email) from rfl),
      nullable_string (show valueAt _ "name" = some (.strOrNull u.name) from rfl)]
    simp only [Json.depthMembers, Json.depth_strOrNull, Nat.max_self, Nat.zero_le, true_and]
    exact some_iff

/-! ## App and device -/

/-- No other member of the app bears the name of a field. -/
def AppState.Unclashing (a : AppState) : Prop := ∀ key ∈ a.extra.keys, key ∉ AppState.fieldNames

def DeviceState.Unclashing (d : DeviceState) : Prop :=
  ∀ key ∈ d.extra.keys, key ∉ DeviceState.fieldNames

theorem AppState.recovers (a : AppState) (h : a.extra.Plain) :
    Recovers AppState.reader a.toJson a a.Unclashing := by
  refine recovers_openRecord ?_ rfl (by decide) ?_
  · refine Json.exactMembers_append.2 ⟨?_, h.exact⟩
    have hforeground : ((a.inForeground.map Json.bool).getD .null).Exact :=
      Json.exact_optional fun _ _ => trivial
    have hduration :
        ((a.durationInForegroundMs.map fun n => Json.nat n.toNat).getD .null).Exact :=
      Json.exact_optional fun n _ => (recovers_uint64 n).exact
    simp only [Json.ExactMembers, Json.exact_strOrNull, hforeground, hduration, and_self]
  · intro room y
    rw [nullable_string (show valueAt _ "id" = some (.strOrNull a.id) from rfl),
      nullable_string (show valueAt _ "version" = some (.strOrNull a.version) from rfl),
      nullable_string (show valueAt _ "releaseStage" = some (.strOrNull a.releaseStage) from rfl),
      nullable_of_flat (show valueAt _ "inForeground" =
        some ((a.inForeground.map Json.bool).getD .null) from rfl)
        fun b => ⟨recovers_bool b, rfl, rfl⟩,
      nullable_of_flat (show valueAt _ "durationInForegroundMs" =
        some ((a.durationInForegroundMs.map fun n => Json.nat n.toNat).getD .null) from rfl)
        fun n => ⟨recovers_uint64 n, rfl, rfl⟩]
    simp only [Option.bind_eq_bind, Option.bind_some]
    rw [bind_iff (extra_iff h)]
    have hforeground : ((a.inForeground.map Json.bool).getD .null).depth = 0 :=
      Json.depth_optional (fun _ => rfl) _
    have hduration :
        ((a.durationInForegroundMs.map fun n => Json.nat n.toNat).getD .null).depth = 0 :=
      Json.depth_optional (fun _ => rfl) _
    simp only [Json.depthMembers_append, Json.depthMembers, Json.depth_strOrNull, hforeground,
      hduration, Nat.max_self, Nat.zero_max]
    exact and_congr_right fun _ => some_iff

theorem DeviceState.recovers (d : DeviceState) (h : d.extra.Plain) :
    Recovers DeviceState.reader d.toJson d d.Unclashing := by
  refine recovers_openRecord ?_ rfl (by decide) ?_
  · refine Json.exactMembers_append.2 ⟨?_, h.exact⟩
    simp only [Json.ExactMembers, Json.exact_strOrNull, and_self]
  · intro room y
    rw [nullable_string (show valueAt _ "id" = some (.strOrNull d.id) from rfl),
      nullable_string (show valueAt _ "manufacturer" = some (.strOrNull d.manufacturer) from rfl),
      nullable_string (show valueAt _ "model" = some (.strOrNull d.model) from rfl),
      nullable_string (show valueAt _ "osName" = some (.strOrNull d.osName) from rfl),
      nullable_string (show valueAt _ "osVersion" = some (.strOrNull d.osVersion) from rfl)]
    simp only [Option.bind_eq_bind, Option.bind_some]
    rw [bind_iff (extra_iff h)]
    simp only [Json.depthMembers_append, Json.depthMembers, Json.depth_strOrNull, Nat.max_self,
      Nat.zero_max]
    exact and_congr_right fun _ => some_iff

/-! ## Metadata -/

theorem Metadata.recovers (m : Metadata) (h : ∀ e ∈ m.sections.toList, e.2.Plain) :
    Recovers Metadata.reader m.toJson m True := by
  have hsections := recovers_dict (f := fun values : Dict Json => .obj values.toList)
    fun e he => (h e he).recovers
  refine ⟨hsections.exact, ?_⟩
  intro room y
  unfold Metadata.reader
  rw [Option.map_eq_some_iff]
  constructor
  · rintro ⟨sections, hread, rfl⟩
    obtain ⟨_, hdepth, rfl⟩ := (hsections.reads room sections).1 hread
    exact ⟨trivial, hdepth, rfl⟩
  · rintro ⟨_, hdepth, rfl⟩
    exact ⟨y.sections, (hsections.reads room y.sections).2 ⟨trivial, hdepth, rfl⟩, rfl⟩

end CrashReporter
