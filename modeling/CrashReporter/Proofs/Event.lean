import CrashReporter.Event
import CrashReporter.Proofs.Session

-- Events read back from what is written of them: stack traces, handled states and
-- breadcrumbs always, whole events while nothing in the app or the device bears the name
-- of a field.

namespace CrashReporter

open Reader

/-! ## Errors -/

theorem Frame.recovers (f : Frame) : Recovers Frame.reader f.toJson f True := by
  have hnumber : ∀ n : Option UInt32, ((n.map fun n => Json.nat n.toNat).getD .null).Exact :=
    fun n => Json.exact_optional fun n _ => (recovers_uint32 n).exact
  have hflat : ∀ n : Option UInt32, ((n.map fun n => Json.nat n.toNat).getD .null).depth = 0 :=
    fun n => Json.depth_optional (fun _ => rfl) n
  refine recovers_record ?_ (List.Sublist.refl _) (by decide) ?_
  · simp [Json.ExactMembers, Json.Exact, hnumber]
  · intro room y
    rw [nullable_string (o := f.function) (by simp), nullable_string (o := f.modulePath) (by simp),
      nullable_string (o := f.filename) (by simp),
      nullable_of_flat (f := fun n : UInt32 => Json.nat n.toNat) (o := f.lineno) (by simp)
        fun n => ⟨recovers_uint32 n, rfl, rfl⟩,
      nullable_of_flat (f := fun n : UInt32 => Json.nat n.toNat) (o := f.colno) (by simp)
        fun n => ⟨recovers_uint32 n, rfl, rfl⟩,
      required_of_flat (v := .bool f.inApp) (by simp) (recovers_bool f.inApp) rfl]
    have hbool : (Json.bool f.inApp).depth = 0 := rfl
    simp only [Json.depthMembers, Json.depth_strOrNull, hflat, hbool, Nat.max_self, Nat.zero_le,
      true_and]
    exact some_iff

theorem Stacktrace.recovers (s : Stacktrace) : Recovers Stacktrace.reader s.toJson s True := by
  have hframes := recovers_list fun f (_ : f ∈ s.frames) => f.recovers
  refine recovers_record ⟨hframes.exact, trivial⟩ (List.Sublist.refl _) (by decide) ?_
  intro room y
  simp only [Option.bind_eq_bind]
  rw [bind_iff (required_iff (v := .arr (s.frames.map Frame.toJson)) (by simp) hframes)]
  simp only [Json.depthMembers, Nat.max_zero, true_and]
  exact and_congr_right fun _ => some_iff

theorem ErrorInfo.recovers (e : ErrorInfo) : Recovers ErrorInfo.reader e.toJson e True := by
  refine recovers_record ⟨trivial, trivial, e.stacktrace.recovers.exact, trivial⟩
    (List.Sublist.refl _) (by decide) ?_
  intro room y
  simp only [Option.bind_eq_bind]
  rw [required_of_flat (v := .str e.errorClass) (by simp) (recovers_string _) rfl,
    required_of_flat (v := .str e.message) (by simp) (recovers_string _) rfl]
  simp only [Option.bind_some]
  rw [bind_iff (optional_iff (v := e.stacktrace.toJson) (by simp) e.stacktrace.recovers)]
  simp only [Json.depthMembers, Json.depth, Nat.max_zero, Nat.zero_max, true_and]
  exact and_congr_right fun _ => some_iff

/-! ## Severity -/

theorem Severity.recovers (s : Severity) : Recovers Severity.reader (.str s.text) s True :=
  recovers_word s.ofText?_text

theorem SeverityReason.recovers (r : SeverityReason) :
    Recovers SeverityReason.reader (.str r.text) r True := recovers_word r.ofText?_text

theorem HandledState.recovers (s : HandledState) :
    Recovers HandledState.reader s.toJson s True := by
  refine recovers_record ?_ ?_ (by decide) ?_
  · exact Json.exactMembers_append.2 ⟨⟨trivial, trivial, trivial, trivial⟩,
      exactMembers_optional fun _ _ => trivial⟩
  · simp only [List.map_append]
    exact (List.Sublist.refl ["reason", "originalSeverity", "unhandled"]).append
      (optional_sublist "attributeValue" Json.str s.attributeValue)
  · intro room y
    rw [required_of_flat (v := .str s.reason.text) (by simp)
        s.reason.recovers rfl,
      required_of_flat (v := .str s.originalSeverity.text) (by simp)
        s.originalSeverity.recovers rfl,
      required_of_flat (v := .bool s.unhandled) (by simp) (recovers_bool s.unhandled) rfl,
      optional_string (o := s.attributeValue) (by simp)]
    have hvalue : ((s.attributeValue.map Json.str).getD .null).depth = 0 :=
      Json.depth_optional (fun _ => rfl) _
    simp only [Json.depthMembers_append, Json.depthMembers, depthMembers_optional, hvalue,
      Json.depth, Nat.max_self, Nat.zero_le, true_and]
    exact some_iff

/-! ## Breadcrumbs -/

theorem BreadcrumbType.recovers (t : BreadcrumbType) :
    Recovers BreadcrumbType.reader (.str t.text) t True := recovers_word t.ofText?_text

theorem Breadcrumb.recovers (b : Breadcrumb) (hplain : b.metadata.Plain)
    (htime : b.timestamp.ReadsBack) : Recovers Breadcrumb.reader b.toJson b True := by
  refine recovers_record ?_ (List.Sublist.refl _) (by decide) ?_
  · exact ⟨trivial, trivial, trivial, hplain.recovers.exact, trivial⟩
  · intro room y
    simp only [Option.bind_eq_bind]
    rw [required_of_flat (v := b.timestamp.toJson) (by simp) htime.recovers rfl,
      required_of_flat (v := .str b.name) (by simp) (recovers_string _) rfl,
      required_of_flat (v := .str b.kind.text) (by simp)
        b.kind.recovers rfl]
    simp only [Option.bind_some]
    rw [bind_iff (optional_iff (v := .obj b.metadata.toList) (by simp) hplain.recovers)]
    have htext : b.timestamp.toJson.depth = 0 := rfl
    have hstring : ∀ s, (Json.str s).depth = 0 := fun _ => rfl
    simp only [Json.depthMembers, htext, hstring, Nat.max_zero, Nat.zero_max, true_and]
    exact and_congr_right fun _ => some_iff

/-! ## Events -/

namespace Event

/-- The free-form values of an event can be written and read. -/
structure Plain (e : Event) : Prop where
  app : e.app.extra.Plain
  device : e.device.extra.Plain
  breadcrumbs : ∀ b ∈ e.breadcrumbs, b.metadata.Plain
  metadata : ∀ s ∈ e.metadata.sections.toList, s.2.Plain

/-- Every timestamp of an event reads back. -/
structure TimesReadBack (e : Event) : Prop where
  timestamp : e.timestamp.ReadsBack
  breadcrumbs : ∀ b ∈ e.breadcrumbs, b.timestamp.ReadsBack
  session : ∀ s ∈ e.session, s.startedAt.ReadsBack

/-- No member of the app or of the device bears the name of a field beside it. -/
def Unclashing (e : Event) : Prop := e.app.Unclashing ∧ e.device.Unclashing

theorem recovers (e : Event) (hplain : e.Plain) (htimes : e.TimesReadBack) :
    Recovers Event.reader e.toJson e e.Unclashing := by
  have herrors := recovers_list fun x (_ : x ∈ e.errors) => x.recovers
  have hcrumbs := recovers_list fun b hb =>
    Breadcrumb.recovers b (hplain.breadcrumbs b hb) (htimes.breadcrumbs b hb)
  have hsession : ∀ s ∈ e.session,
      Recovers SessionSnapshot.reader s.toJson s True ∧ s.toJson.isNull = false :=
    fun s hs => ⟨s.recovers (htimes.session s hs), rfl⟩
  have happ := e.app.recovers hplain.app
  have hdevice := e.device.recovers hplain.device
  have hmetadata := e.metadata.recovers hplain.metadata
  have htime := htimes.timestamp.recovers
  refine recovers_record ?_ ?_ (by decide) ?_
  · simp only [Json.exactMembers_append]
    refine ⟨⟨⟨⟨⟨?_, ?_⟩, ?_⟩, ?_⟩, ?_⟩, ?_⟩
    · exact ⟨herrors.exact, trivial, e.handledState.recovers.exact, happ.exact, hdevice.exact,
        hcrumbs.exact, trivial⟩
    · exact exactMembers_optional fun s hs => (hsession s hs).1.exact
    · exact ⟨e.user.recovers.exact, trivial⟩
    · exact exactMembers_optional fun _ _ => trivial
    · exact exactMembers_optional fun _ _ => trivial
    · exact ⟨hmetadata.exact, htime.exact, trivial⟩
  · simp only [List.map_append]
    exact ((((List.Sublist.refl ["errors", "severity", "handledState", "app", "device",
      "breadcrumbs"]).append (optional_sublist "session" SessionSnapshot.toJson e.session)).append
      (List.Sublist.refl ["user"])).append
      (optional_sublist "context" Json.str e.context)).append
      (optional_sublist "groupingHash" Json.str e.groupingHash) |>.append
      (List.Sublist.refl ["metaData", "timestamp"])
  · intro room y
    simp only [Option.bind_eq_bind]
    rw [bind_iff (required_iff (v := .arr (e.errors.map ErrorInfo.toJson)) (by simp) herrors),
      required_of_flat (v := .str e.severity.text) (by simp) e.severity.recovers rfl]
    simp only [Option.bind_some]
    rw [bind_iff (required_iff (v := e.handledState.toJson) (by simp) e.handledState.recovers),
      bind_iff (optional_iff (v := e.app.toJson) (by simp) happ),
      bind_iff (optional_iff (v := e.device.toJson) (by simp) hdevice),
      bind_iff (optional_iff (v := .arr (e.breadcrumbs.map Breadcrumb.toJson)) (by simp) hcrumbs),
      bind_iff (optional_iff_of_none (o := e.session) (by simp) hsession),
      bind_iff (optional_iff (v := e.user.toJson) (by simp) e.user.recovers),
      optional_string (o := e.context) (by simp), optional_string (o := e.groupingHash) (by simp)]
    simp only [Option.bind_some]
    rw [bind_iff (optional_iff (v := e.metadata.toJson) (by simp) hmetadata),
      required_of_flat (v := e.timestamp.toJson) (by simp) htime rfl]
    have hcontext : ((e.context.map Json.str).getD .null).depth = 0 :=
      Json.depth_optional (fun _ => rfl) _
    have hhash : ((e.groupingHash.map Json.str).getD .null).depth = 0 :=
      Json.depth_optional (fun _ => rfl) _
    have htext : e.timestamp.toJson.depth = 0 := rfl
    have hstring : ∀ s, (Json.str s).depth = 0 := fun _ => rfl
    simp only [Json.depthMembers_append, Json.depthMembers, depthMembers_optional, hcontext, hhash,
      htext, hstring, Nat.max_zero, Nat.zero_max, Nat.max_le, Unclashing, true_and,
      Option.bind_some]
    constructor
    · rintro ⟨herr, hstate, ⟨hfree, happ'⟩, ⟨hfree', hdev⟩, hcr, hses, huser, hmeta, heq⟩
      exact ⟨⟨hfree, hfree'⟩, ⟨⟨⟨⟨herr, hstate, happ', hdev, hcr⟩, hses⟩, huser⟩, hmeta⟩,
        some_iff.1 heq⟩
    · rintro ⟨⟨hfree, hfree'⟩, ⟨⟨⟨⟨herr, hstate, happ', hdev, hcr⟩, hses⟩, huser⟩, hmeta⟩, heq⟩
      exact ⟨herr, hstate, ⟨hfree, happ'⟩, ⟨hfree', hdev⟩, hcr, hses, huser, hmeta,
        some_iff.2 heq⟩

end Event

end CrashReporter
