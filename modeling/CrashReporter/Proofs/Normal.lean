import CrashReporter.Proofs.Json.OpenRecord
import CrashReporter.Proofs.Payload

-- Normal forms: what is written again of what was read. Reading settles with the first of them.
-- Whatever way a text of whole numbers puts a document, by position or by name, with members
-- given twice or left out, its normal form is read as the same and is its own normal form. The app
-- and the device lose nothing by it.

namespace CrashReporter

open Reader

/-! ## How deep documents nest -/

theorem User.depth_toJson (u : User) : u.toJson.depth = 1 := by
  simp [User.toJson, Json.depth, Json.depthMembers]

theorem EventCounts.depth_toJson (c : EventCounts) : c.toJson.depth = 1 := rfl

theorem SessionSnapshot.depth_toJson (s : SessionSnapshot) : s.toJson.depth ≤ 2 := by
  have huser : ((s.user.map User.toJson).getD .null).depth ≤ 1 := by
    cases s.user with
    | none => exact Nat.zero_le 1
    | some u => exact u.depth_toJson.le
  have hid : s.id.toJson.depth = 0 := rfl
  have hstarted : s.startedAt.toJson.depth = 0 := rfl
  simp only [SessionSnapshot.toJson, Json.depth, Json.depthMembers_append, Json.depthMembers,
    depthMembers_optional, hid, hstarted, EventCounts.depth_toJson]
  omega

theorem depthItems_map_le {α : Type} {f : α → Json} {xs : List α} {n : Nat}
    (h : ∀ x ∈ xs, (f x).depth ≤ n) : Json.depthItems (xs.map f) ≤ n :=
  Json.depthItems_le.2 (List.forall_mem_map.2 h)

theorem Frame.depth_toJson (f : Frame) : f.toJson.depth = 1 := by
  have hnumber : ∀ n : Option UInt32, ((n.map fun n => Json.nat n.toNat).getD .null).depth = 0 :=
    fun n => Json.depth_optional (fun _ => rfl) n
  simp [Frame.toJson, Json.depth, Json.depthMembers, hnumber]

theorem ErrorInfo.depth_toJson (e : ErrorInfo) : e.toJson.depth ≤ 4 := by
  have hframes : Json.depthItems (e.stacktrace.frames.map Frame.toJson) ≤ 1 :=
    depthItems_map_le fun f _ => f.depth_toJson.le
  simp only [ErrorInfo.toJson, Stacktrace.toJson, Json.depth, Json.depthMembers]
  omega

theorem HandledState.depth_toJson (s : HandledState) : s.toJson.depth = 1 := by
  have hvalue : ((s.attributeValue.map Json.str).getD .null).depth = 0 :=
    Json.depth_optional (fun _ => rfl) _
  simp [HandledState.toJson, Json.depth, Json.depthMembers, depthMembers_optional, hvalue]

/-! ## What is read of a tree of whole numbers -/

theorem Instant.gives : Gives Instant.reader fun _ t => t.ReadsBack := by
  intro room t instant _ hread
  obtain ⟨text, _, hparse⟩ := Option.bind_eq_some_iff.1 hread
  exact (readsBack_iff instant).2 (proper_of_parse? hparse)

theorem Dict.plain_of_fits {d : Dict Json} {room : Nat} (h : ∀ e ∈ d.toList, e.2.Fits room) :
    d.Plain :=
  fun e he => ⟨(h e he).exact, (h e he).ordered⟩

/-- Free-form values of a record, and how deep they nest in it. -/
theorem gives_values : Gives (Reader.dict Reader.json) fun room d =>
    d.Plain ∧ (Json.obj d.toList).depth ≤ max room 1 := by
  intro room t d ht hread
  obtain ⟨inner, rfl, hfits⟩ := gives_json.dict ht hread
  exact ⟨Dict.plain_of_fits hfits, Nat.le_trans (fits_dict hfits).depth_le (Nat.le_max_left _ _)⟩

theorem Dict.plain_empty : (Dict.empty : Dict Json).Plain := fun _ he => nomatch he

theorem Metadata.gives : Gives Metadata.reader fun room m =>
    (∀ e ∈ m.sections.toList, e.2.Plain) ∧ m.toJson.depth ≤ max room 2 := by
  intro room t m ht hread
  obtain ⟨sections, hdict, rfl⟩ := Option.map_eq_some_iff.1 hread
  obtain ⟨inner, rfl, hsections⟩ := gives_values.dict ht hdict
  refine ⟨fun e he => (hsections e he).1, ?_⟩
  have hdepth : Json.depthMembers (sections.toList.map fun e => (e.1, .obj e.2.toList)) ≤
      max inner 1 :=
    Json.depthMembers_le.2 (List.forall_mem_map.2 fun e he => (hsections e he).2)
  simp only [Metadata.toJson, Json.depth]
  omega

theorem AppState.readOpen {room : Nat} {t : Tree} {a : AppState}
    (hread : AppState.reader room t = some a) : ReadOpen fieldNames room t a.extra a.toJson := by
  simp only [AppState.reader, Option.bind_eq_bind, Option.bind_eq_some_iff, Option.pure_def,
    Option.some.injEq] at hread
  obtain ⟨p, hp, id, hid, version, hversion, stage, hstage, foreground, hforeground, duration,
    hduration, extra, hextra, rfl⟩ := hread
  obtain ⟨given, rfl, rfl, hsorted⟩ := openParts?_eq_some hp
  refine .sorted hsorted hextra rfl ?_
  simp only [List.forall_mem_cons, List.not_mem_nil, false_imp_iff, implies_true, and_true]
  exact ⟨shown?_string hid, shown?_string hversion, shown?_string hstage,
    echoes_bool.shown? hforeground, echoes_uint64.shown? hduration⟩

theorem DeviceState.readOpen {room : Nat} {t : Tree} {d : DeviceState}
    (hread : DeviceState.reader room t = some d) :
    ReadOpen fieldNames room t d.extra d.toJson := by
  simp only [DeviceState.reader, Option.bind_eq_bind, Option.bind_eq_some_iff, Option.pure_def,
    Option.some.injEq] at hread
  obtain ⟨p, hp, id, hid, manufacturer, hmanufacturer, model, hmodel, osName, hosName, osVersion,
    hosVersion, extra, hextra, rfl⟩ := hread
  obtain ⟨given, rfl, rfl, hsorted⟩ := openParts?_eq_some hp
  refine .sorted hsorted hextra rfl ?_
  simp only [List.forall_mem_cons, List.not_mem_nil, false_imp_iff, implies_true, and_true]
  exact ⟨shown?_string hid, shown?_string hmanufacturer, shown?_string hmodel,
    shown?_string hosName, shown?_string hosVersion⟩

theorem AppState.gives : Gives AppState.reader fun room a =>
    a.extra.Plain ∧ a.Unclashing ∧ a.toJson.depth ≤ max room 1 := by
  intro room t a ht hread
  have hopen := readOpen hread
  obtain ⟨hplain, hdepth⟩ := hopen.fits ht
  exact ⟨hplain, hopen.unclashing, Nat.le_trans hdepth (Nat.le_max_left _ _)⟩

theorem DeviceState.gives : Gives DeviceState.reader fun room d =>
    d.extra.Plain ∧ d.Unclashing ∧ d.toJson.depth ≤ max room 1 := by
  intro room t d ht hread
  have hopen := readOpen hread
  obtain ⟨hplain, hdepth⟩ := hopen.fits ht
  exact ⟨hplain, hopen.unclashing, Nat.le_trans hdepth (Nat.le_max_left _ _)⟩

theorem Breadcrumb.gives : Gives Breadcrumb.reader fun room b =>
    b.metadata.Plain ∧ b.timestamp.ReadsBack ∧ b.toJson.depth ≤ max room 2 := by
  intro room t b ht hread
  simp only [Breadcrumb.reader, Option.bind_eq_bind, Option.bind_eq_some_iff, Option.pure_def,
    Option.some.injEq] at hread
  obtain ⟨p, hp, time, htime, name, _, kind, _, metadata, hmetadata, rfl⟩ := hread
  obtain ⟨hwhole, rfl⟩ := whole_of_parts? ht hp
  obtain ⟨hplain, hdepth⟩ := gives_values.optional hwhole hmetadata
    ⟨Dict.plain_empty, Nat.le_max_right _ _⟩
  refine ⟨hplain, Instant.gives.required hwhole htime, ?_⟩
  have htext : time.toJson.depth = 0 := rfl
  simp only [Breadcrumb.toJson, Json.depth, Json.depthMembers, htext] at hdepth ⊢
  omega

theorem SessionSnapshot.gives : Gives SessionSnapshot.reader fun _ s => s.startedAt.ReadsBack := by
  intro room t s ht hread
  simp only [SessionSnapshot.reader, Option.bind_eq_bind, Option.bind_eq_some_iff, Option.pure_def,
    Option.some.injEq] at hread
  obtain ⟨p, hp, _, _, started, hstarted, _, _, _, _, rfl⟩ := hread
  exact Instant.gives.required (whole_of_parts? ht hp).1 hstarted

theorem gives_breadcrumbs : Gives (Reader.list Breadcrumb.reader) fun room bs => ∀ b ∈ bs,
    b.metadata.Plain ∧ b.timestamp.ReadsBack ∧ b.toJson.depth ≤ max (room - 1) 2 := by
  intro room t bs ht hread
  obtain ⟨inner, rfl, hall⟩ := Breadcrumb.gives.list ht hread
  exact hall

/-- An event nests one level deeper than what is in it; of its own it has five levels below. -/
theorem Event.depth_toJson_le {e : Event} {n : Nat} (happ : e.app.toJson.depth ≤ n)
    (hdevice : e.device.toJson.depth ≤ n) (hmetadata : e.metadata.toJson.depth ≤ n)
    (hcrumbs : ∀ b ∈ e.breadcrumbs, b.toJson.depth ≤ n - 1) (hn : 5 ≤ n) :
    e.toJson.depth ≤ n + 1 := by
  have herrors : Json.depthItems (e.errors.map ErrorInfo.toJson) ≤ 4 :=
    depthItems_map_le fun x _ => x.depth_toJson
  have hlist : Json.depthItems (e.breadcrumbs.map Breadcrumb.toJson) ≤ n - 1 :=
    depthItems_map_le hcrumbs
  have hsession : ((e.session.map SessionSnapshot.toJson).getD .null).depth ≤ 2 := by
    cases e.session with
    | none => exact Nat.zero_le 2
    | some s => exact s.depth_toJson
  have hcontext : ((e.context.map Json.str).getD .null).depth = 0 :=
    Json.depth_optional (fun _ => rfl) _
  have hhash : ((e.groupingHash.map Json.str).getD .null).depth = 0 :=
    Json.depth_optional (fun _ => rfl) _
  have htext : e.timestamp.toJson.depth = 0 := rfl
  simp only [Event.toJson, Json.depth, Json.depthMembers_append, Json.depthMembers,
    depthMembers_optional, HandledState.depth_toJson, User.depth_toJson, hcontext, hhash, htext]
  omega

theorem Event.gives : Gives Event.reader fun room e =>
    e.Plain ∧ e.TimesReadBack ∧ e.Unclashing ∧ e.toJson.depth ≤ max room 6 := by
  intro room t e ht hread
  obtain ⟨p, hp, hread⟩ := Option.bind_eq_some_iff.1 hread
  obtain ⟨errors, _, hread⟩ := Option.bind_eq_some_iff.1 hread
  obtain ⟨severity, _, hread⟩ := Option.bind_eq_some_iff.1 hread
  obtain ⟨state, _, hread⟩ := Option.bind_eq_some_iff.1 hread
  obtain ⟨app, happ, hread⟩ := Option.bind_eq_some_iff.1 hread
  obtain ⟨device, hdevice, hread⟩ := Option.bind_eq_some_iff.1 hread
  obtain ⟨crumbs, hcrumbs, hread⟩ := Option.bind_eq_some_iff.1 hread
  obtain ⟨session, hsession, hread⟩ := Option.bind_eq_some_iff.1 hread
  obtain ⟨user, _, hread⟩ := Option.bind_eq_some_iff.1 hread
  obtain ⟨context, _, hread⟩ := Option.bind_eq_some_iff.1 hread
  obtain ⟨hash, _, hread⟩ := Option.bind_eq_some_iff.1 hread
  obtain ⟨metadata, hmetadata, hread⟩ := Option.bind_eq_some_iff.1 hread
  obtain ⟨time, htime, hread⟩ := Option.bind_eq_some_iff.1 hread
  cases hread
  obtain ⟨hwhole, rfl⟩ := whole_of_parts? ht hp
  -- What is missing counts as empty, and that is fine within any room.
  obtain ⟨happ, hfree, hdepth⟩ := AppState.gives.optional hwhole happ
    ⟨Dict.plain_empty, (fun _ hkey => nomatch hkey), Nat.le_max_right _ _⟩
  obtain ⟨hdevice, hfree', hdepth'⟩ := DeviceState.gives.optional hwhole hdevice
    ⟨Dict.plain_empty, (fun _ hkey => nomatch hkey), Nat.le_max_right _ _⟩
  obtain ⟨hmetadata, hdepth''⟩ := Metadata.gives.optional hwhole hmetadata
    ⟨(fun _ hs => nomatch hs), Nat.le_trans (by decide) (Nat.le_max_right _ 2)⟩
  have hsession := SessionSnapshot.gives.option.optional hwhole hsession fun _ hs => nomatch hs
  have hcrumbs := gives_breadcrumbs.optional hwhole hcrumbs fun _ hb => nomatch hb
  refine ⟨⟨happ, hdevice, fun b hb => (hcrumbs b hb).1, hmetadata⟩,
    ⟨Instant.gives.required hwhole htime, fun b hb => (hcrumbs b hb).2.1, hsession⟩,
    ⟨hfree, hfree'⟩, Nat.le_trans (depth_toJson_le (n := max p.room 5) ?_ ?_ ?_ ?_ ?_) ?_⟩
  · exact Nat.le_trans hdepth (by omega)
  · exact Nat.le_trans hdepth' (by omega)
  · exact Nat.le_trans hdepth'' (by omega)
  · intro b hb
    exact Nat.le_trans (hcrumbs b hb).2.2 (by omega)
  · exact Nat.le_max_right _ _
  · omega

/-! ## What is written of what was read -/

/-- What the reader takes from a tree of whole numbers can be written and read again, and nests no
deeper than the tree was allowed to, or a few levels. -/
def Reader.Settling {α : Type} (levels : Nat) (r : Reader α) (toJson : α → Json) : Prop :=
  Gives r fun room x => Recovers r (toJson x) x True ∧ (toJson x).depth ≤ max room levels

theorem Breadcrumb.settling : Settling 2 Breadcrumb.reader Breadcrumb.toJson := by
  intro room t b ht hread
  obtain ⟨hplain, htime, hdepth⟩ := gives ht hread
  exact ⟨b.recovers hplain htime, hdepth⟩

theorem User.settling : Settling 1 User.reader User.toJson := by
  intro room t u _ _
  exact ⟨u.recovers, Nat.le_trans u.depth_toJson.le (Nat.le_max_right _ _)⟩

theorem AppState.settling : Settling 1 AppState.reader AppState.toJson := by
  intro room t a ht hread
  obtain ⟨hplain, hfree, hdepth⟩ := gives ht hread
  exact ⟨(a.recovers hplain).of_sound hfree, hdepth⟩

theorem DeviceState.settling : Settling 1 DeviceState.reader DeviceState.toJson := by
  intro room t d ht hread
  obtain ⟨hplain, hfree, hdepth⟩ := gives ht hread
  exact ⟨(d.recovers hplain).of_sound hfree, hdepth⟩

theorem Metadata.settling : Settling 2 Metadata.reader Metadata.toJson := by
  intro room t m ht hread
  obtain ⟨hplain, hdepth⟩ := gives ht hread
  exact ⟨m.recovers hplain, hdepth⟩

theorem Event.settling : Settling 6 Event.reader Event.toJson := by
  intro room t e ht hread
  obtain ⟨hplain, htimes, hfree, hdepth⟩ := gives ht hread
  exact ⟨(e.recovers hplain htimes).of_sound hfree, hdepth⟩

theorem SessionSnapshot.settling :
    Settling 2 SessionSnapshot.reader SessionSnapshot.toJson := by
  intro room t s ht hread
  exact ⟨s.recovers (gives ht hread), Nat.le_trans s.depth_toJson (Nat.le_max_right _ _)⟩

theorem EventPayload.settling : Settling 8 EventPayload.reader EventPayload.toJson := by
  intro room t payload ht hread
  simp only [EventPayload.reader, Option.bind_eq_bind, Option.bind_eq_some_iff, Option.pure_def,
    Option.some.injEq] at hread
  obtain ⟨p, hp, key, _, notifier, _, events, hevents, rfl⟩ := hread
  obtain ⟨hwhole, rfl⟩ := whole_of_parts? ht hp
  obtain ⟨inner, hroom, hall⟩ := Event.settling.list.required hwhole hevents
  refine ⟨recovers _ fun e he => (hall e he).1, ?_⟩
  have hlist : Json.depthItems (events.map Event.toJson) ≤ max inner 6 :=
    depthItems_map_le fun e he => (hall e he).2
  simp only [EventPayload.toJson, Notifier.toJson, Json.depth, Json.depthMembers]
  omega

theorem SessionPayload.settling : Settling 4 SessionPayload.reader SessionPayload.toJson := by
  intro room t payload ht hread
  simp only [SessionPayload.reader, Option.bind_eq_bind, Option.bind_eq_some_iff, Option.pure_def,
    Option.some.injEq] at hread
  obtain ⟨p, hp, notifier, _, app, happ, device, hdevice, sessions, hsessions, rfl⟩ := hread
  obtain ⟨hwhole, rfl⟩ := whole_of_parts? ht hp
  obtain ⟨happ, hdepth⟩ := AppState.settling.required hwhole happ
  obtain ⟨hdevice, hdepth'⟩ := DeviceState.settling.required hwhole hdevice
  obtain ⟨inner, hroom, hall⟩ := SessionSnapshot.settling.list.required hwhole hsessions
  refine ⟨recovers _ happ hdevice fun s hs => (hall s hs).1, ?_⟩
  have hlist : Json.depthItems (sessions.map SessionSnapshot.toJson) ≤ max inner 2 :=
    depthItems_map_le fun s hs => (hall s hs).2
  simp only [SessionPayload.toJson, Notifier.toJson, Json.depth, Json.depthMembers]
  omega

/-! ## Normal forms -/

/-- Every number in the text is a whole number of 64 bits. -/
def WholeNumbered (text : String) : Prop := ∀ t ∈ Tree.ofText text.toList, t.Whole

/-- Whatever the text is read as, what is written of that is read as the same. -/
def Reader.Settles {α : Type} (r : Reader α) (toJson : α → Json) (text : String) : Prop :=
  ∀ x, ofText? r text = some x → ofText? r (toJson x).text = some x

/-- The second text says of every key what the first does, as free-form JSON, in which of two
members with one key the later counts. A field of which the first says nothing is null in the
second, and nothing else is added. -/
def Keeps (names : List String) (text again : String) : Prop :=
  ∃ said kept : Json, Json.ofText? text = some said ∧ Json.ofText? again = some kept ∧
    ∀ key, kept.get? key = (said.get? key).or (if key ∈ names then some .null else none)

theorem Reader.Settling.settles {α : Type} {r : Reader α} {toJson : α → Json} {levels : Nat}
    (h : Settling levels r toJson) (hlevels : levels ≤ Tree.depthLimit) {text : String}
    (htext : WholeNumbered text) : r.Settles toJson text := by
  intro x hread
  obtain ⟨t, ht, hread⟩ := Option.bind_eq_some_iff.1 hread
  obtain ⟨hrecovers, hdepth⟩ := h (htext t ht) hread
  unfold ofText?
  rw [Tree.ofText_text hrecovers.exact]
  exact (hrecovers.reads Tree.depthLimit x).2
    ⟨trivial, Nat.le_trans hdepth (Nat.max_le.2 ⟨Nat.le_refl _, hlevels⟩), rfl⟩

theorem Reader.ReadOpen.keeps {names : List String} {text : String} {t : Tree} {extra : Dict Json}
    {v : Json} (h : ReadOpen names Tree.depthLimit t extra v) (hnodup : names.Nodup)
    (ht : Tree.ofText text.toList = some t) (hwhole : t.Whole) (hexact : v.Exact) :
    Keeps names text v.text := by
  obtain ⟨said, again, hsaid, hagain, hget⟩ := h.same_members hwhole hnodup
  refine ⟨.obj said.toList, .obj again.toList, ?_, ?_, hget⟩
  · rw [Json.ofText?, ht]
    exact hsaid
  · rw [Json.ofText?, Tree.ofText_text hexact]
    exact hagain

/-- Whatever a text of whole numbers is read as, its normal form is read as the same, and so is its
own normal form. The normal forms of the app and the device lose nothing: each member is there with
its value, the last if it was given twice, and no other member bears the name of a field. -/
theorem a_normal_form_is_its_own (text : String) (htext : WholeNumbered text) :
    Breadcrumb.reader.Settles Breadcrumb.toJson text ∧
      User.reader.Settles User.toJson text ∧
      AppState.reader.Settles AppState.toJson text ∧
      DeviceState.reader.Settles DeviceState.toJson text ∧
      Metadata.reader.Settles Metadata.toJson text ∧
      Event.reader.Settles Event.toJson text ∧
      SessionSnapshot.reader.Settles SessionSnapshot.toJson text ∧
      EventPayload.reader.Settles EventPayload.toJson text ∧
      SessionPayload.reader.Settles SessionPayload.toJson text ∧
      (∀ app, ofText? AppState.reader text = some app →
        Keeps AppState.fieldNames text app.toJson.text ∧ app.Unclashing) ∧
      ∀ device, ofText? DeviceState.reader text = some device →
        Keeps DeviceState.fieldNames text device.toJson.text ∧ device.Unclashing := by
  refine ⟨Breadcrumb.settling.settles (by decide) htext, User.settling.settles (by decide) htext,
    AppState.settling.settles (by decide) htext, DeviceState.settling.settles (by decide) htext,
    Metadata.settling.settles (by decide) htext, Event.settling.settles (by decide) htext,
    SessionSnapshot.settling.settles (by decide) htext,
    EventPayload.settling.settles (by decide) htext,
    SessionPayload.settling.settles (by decide) htext, ?_, ?_⟩
  · intro app hread
    obtain ⟨t, ht, hread⟩ := Option.bind_eq_some_iff.1 hread
    obtain ⟨hplain, hfree, _⟩ := AppState.gives (htext t ht) hread
    exact ⟨(AppState.readOpen hread).keeps (by decide) ht (htext t ht) (app.recovers hplain).exact,
      hfree⟩
  · intro device hread
    obtain ⟨t, ht, hread⟩ := Option.bind_eq_some_iff.1 hread
    obtain ⟨hplain, hfree, _⟩ := DeviceState.gives (htext t ht) hread
    exact ⟨(DeviceState.readOpen hread).keeps (by decide) ht (htext t ht)
      (device.recovers hplain).exact, hfree⟩

/-- An app with a member that is given twice. -/
def planTwice : Json := .obj [("plan", .int 1), ("id", .str "x"), ("plan", .int (-2))]

/-- The later value is kept, fields that are missing are null, and from then on nothing changes. -/
theorem the_last_of_two_members_is_kept :
    let app : AppState := { id := some "x", extra := Dict.empty.insert "plan" (.int (-2)) }
    WholeNumbered planTwice.text ∧ ofText? AppState.reader planTwice.text = some app ∧
      ofText? AppState.reader app.toJson.text = some app ∧
      ∃ kept : Json, Json.ofText? app.toJson.text = some kept ∧
        kept.get? "plan" = some (.int (-2)) ∧ kept.get? "version" = some .null := by
  intro app
  have hexact : planTwice.Exact :=
    ⟨⟨by decide, by decide⟩, trivial, ⟨by decide, by decide⟩, trivial⟩
  have htree : Tree.ofText planTwice.text.toList = some (Tree.ofJson planTwice) :=
    Tree.ofText_text hexact
  have hwhole : WholeNumbered planTwice.text := by
    intro t ht
    obtain rfl : Tree.ofJson planTwice = t := Option.some.inj (htree.symm.trans ht)
    exact ⟨⟨_, rfl, by decide, by decide⟩, trivial, ⟨_, rfl, by decide, by decide⟩, trivial⟩
  have hread : ofText? AppState.reader planTwice.text = some app := by
    unfold ofText?
    rw [htree]
    rfl
  obtain ⟨_, _, happ, _, _, _, _, _, _, hkeeps, _⟩ := a_normal_form_is_its_own _ hwhole
  obtain ⟨⟨said, kept, hsaid, hkept, hget⟩, _⟩ := hkeeps app hread
  have hsame : Json.ofText? planTwice.text =
      some (.obj [("id", .str "x"), ("plan", .int (-2))]) := by
    unfold Json.ofText?
    rw [htree]
    rfl
  obtain rfl : Json.obj [("id", .str "x"), ("plan", .int (-2))] = said :=
    Option.some.inj (hsame.symm.trans hsaid)
  exact ⟨hwhole, hread, happ app hread, kept, hkept, hget "plan", hget "version"⟩

end CrashReporter
