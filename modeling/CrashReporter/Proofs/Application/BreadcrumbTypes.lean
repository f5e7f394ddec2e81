import CrashReporter.Proofs.Application.Journal
import CrashReporter.Proofs.Callback

-- Which breadcrumbs are ever recorded. The filter of types is the first callback of a chain like
-- any other, and it has the number of that place. As long as nobody takes that number out of the
-- chain, no breadcrumb of a type that is not enabled is kept or told of.

namespace CrashReporter

open Application

/-! ## The chain -/

/-- The number of the filter in the chain of breadcrumb callbacks. -/
def Client.filterId : CallbackId := ⟨1⟩

/-- The callback leaves breadcrumbs their type, and so do those that it registers. It leaves the
filter in the chain. -/
def Callback.KeepsKind : Callback Breadcrumb → Prop
  | .reply _ => True
  | .edit change next => (∀ b, (change b).kind = b.kind) ∧ next.KeepsKind
  | .remark _ next => next.KeepsKind
  | .inspect next => ∀ b, (next b).KeepsKind
  | .register callback next => callback.KeepsKind ∧ ∀ id, (next id).KeepsKind
  | .unregister id next => id ≠ Client.filterId ∧ ∀ found, (next found).KeepsKind

/-- The filter comes first, and under no other number than its own. -/
structure FilterFirst (config : Config) (chain : CallbackChain Breadcrumb) : Prop where
  entries : ∃ rest, chain.entries = (Client.filterId, Client.typeFilter config) :: rest ∧
    ∀ e ∈ rest, e.1 ≠ Client.filterId ∧ e.2.KeepsKind
  registered : 0 < chain.registered

namespace FilterFirst

variable {config : Config} {chain : CallbackChain Breadcrumb} {callback : Callback Breadcrumb}

/-- No callback that is added gets the number of the filter. -/
theorem fresh (h : FilterFirst config chain) (callback : Callback Breadcrumb) :
    (chain.add callback).1 ≠ Client.filterId := by
  have hregistered := h.registered
  simp only [CallbackChain.add, Client.filterId, ne_eq, CallbackId.mk.injEq]
  omega

theorem add (h : FilterFirst config chain) (hcallback : callback.KeepsKind) :
    FilterFirst config (chain.add callback).2 := by
  obtain ⟨rest, hentries, hrest⟩ := h.entries
  refine ⟨⟨rest ++ [((chain.add callback).1, callback)], ?_, ?_⟩, Nat.succ_pos _⟩
  · show chain.entries ++ [_] = _
    rw [hentries]
    rfl
  · intro e he
    rcases List.mem_append.1 he with he | he
    · exact hrest e he
    · obtain rfl := List.mem_singleton.1 he
      exact ⟨h.fresh callback, hcallback⟩

theorem remove (h : FilterFirst config chain) {id : CallbackId} (hid : id ≠ Client.filterId) :
    FilterFirst config (chain.remove id) := by
  obtain ⟨rest, hentries, hrest⟩ := h.entries
  refine ⟨⟨rest.filter fun e => e.1 != id, ?_, ?_⟩, h.registered⟩
  · simp only [CallbackChain.remove, hentries]
    exact List.filter_cons_of_pos (by simpa using hid.symm)
  · intro e he
    exact hrest e (List.mem_filter.1 he).1

/-- One callback leaves the filter where it is, and the breadcrumb its type. -/
theorem call (hcallback : callback.KeepsKind) {r : CallbackRun Breadcrumb}
    (h : FilterFirst config r.chain) :
    FilterFirst config (r.call callback).chain ∧
      (r.call callback).subject.kind = r.subject.kind := by
  induction callback generalizing r with
  | reply verdict =>
    unfold CallbackRun.call CallbackRun.settle
    split <;> exact ⟨h, rfl⟩
  | edit change next ih =>
    obtain ⟨hsame, hnext⟩ := hcallback
    obtain ⟨hchain, hkind⟩ := ih hnext (r := { r with subject := change r.subject }) h
    exact ⟨hchain, hkind.trans (hsame r.subject)⟩
  | remark text next ih =>
    exact ih hcallback (r := { r with incidents := r.incidents ++ [.remark (text r.subject)] }) h
  | inspect next ih => exact ih _ (hcallback _) h
  | register new next _ ih =>
    obtain ⟨hnew, hnext⟩ := hcallback
    exact ih _ (hnext _) (r := { r with chain := (r.chain.add new).2 }) (h.add hnew)
  | unregister id next ih =>
    obtain ⟨hid, hnext⟩ := hcallback
    exact ih _ (hnext _) (r := { r with chain := r.chain.remove id }) (h.remove hid)

theorem callAll {callbacks : List (Callback Breadcrumb)}
    (hcallbacks : ∀ callback ∈ callbacks, callback.KeepsKind) {r : CallbackRun Breadcrumb}
    (h : FilterFirst config r.chain) :
    FilterFirst config (r.callAll callbacks).chain ∧
      (r.callAll callbacks).subject.kind = r.subject.kind := by
  induction callbacks generalizing r with
  | nil => exact ⟨h, rfl⟩
  | cons callback rest ih =>
    obtain ⟨hchain, hkind⟩ := h.call (hcallbacks callback List.mem_cons_self)
    obtain ⟨hrest, hsame⟩ := ih (fun c hc => hcallbacks c (List.mem_cons_of_mem _ hc)) hchain
    rw [CallbackRun.callAll_cons]
    split
    · exact ⟨hrest, hsame.trans hkind⟩
    · exact ⟨hchain, hkind⟩

/-- A run leaves the filter where it is, and lets no breadcrumb pass whose type is not enabled. -/
theorem run (h : FilterFirst config chain) (b : Breadcrumb) :
    FilterFirst config (chain.run b).chain ∧
      ((chain.run b).proceed = true →
        config.keepsBreadcrumb (chain.run b).subject.kind = true) := by
  obtain ⟨rest, hentries, hrest⟩ := h.entries
  have hkeeps : ∀ callback ∈ rest.map (·.2), callback.KeepsKind := by
    intro callback hcallback
    obtain ⟨e, he, rfl⟩ := List.mem_map.1 hcallback
    exact (hrest e he).2
  have hrun : chain.run b = if config.keepsBreadcrumb b.kind then
      ({ chain, subject := b } : CallbackRun Breadcrumb).callAll (rest.map (·.2))
      else { chain, subject := b, proceed := false } := by
    unfold CallbackChain.run
    rw [hentries, List.map_cons, CallbackRun.callAll_cons]
    simp only [CallbackRun.call, Client.typeFilter]
    cases config.keepsBreadcrumb b.kind <;> rfl
  rw [hrun]
  cases hkeep : config.keepsBreadcrumb b.kind with
  | false => exact ⟨h, nofun⟩
  | true =>
    obtain ⟨hchain, hkind⟩ := callAll hkeeps (r := { chain, subject := b }) h
    refine ⟨hchain, fun _ => ?_⟩
    rw [if_pos rfl, hkind]
    exact hkeep

end FilterFirst

/-! ## The application -/

/-- The event tells of no breadcrumb whose type is not enabled. -/
def StateEvent.Enabled (config : Config) : StateEvent → Prop
  | .breadcrumbAdded b => config.keepsBreadcrumb b.kind = true
  | _ => True

def JournalEntry.Enabled (config : Config) : JournalEntry → Prop
  | .remark _ => True
  | .told _ event => event.Enabled config
  | .sighting s => s.event.Enabled config

/-- The filter is in its place, and all breadcrumbs that were kept or told of are of enabled
types. -/
structure Sifted (config : Config) (a : Application) : Prop where
  alone : a.earlier = []
  chain : FilterFirst config a.client.onBreadcrumb
  ring : ∀ crumb ∈ a.client.ring.entries, config.keepsBreadcrumb crumb.kind = true
  channels : ∀ channel ∈ a.client.bus.channels, ∀ event ∈ channel.waiting, event.Enabled config
  journal : ∀ entry ∈ a.journal, entry.Enabled config

namespace Sifted

variable {config : Config} {a : Application} {alarm : Alarm}

/-- What concerns none of this leaves it as it is. -/
theorem congr (h : Sifted config a) {b : Application} (halone : b.earlier = a.earlier)
    (hjournal : b.journal = a.journal) (hchain : b.client.onBreadcrumb = a.client.onBreadcrumb)
    (hring : b.client.ring = a.client.ring) (hbus : b.client.bus = a.client.bus) :
    Sifted config b := by
  refine ⟨halone.trans h.alone, hchain ▸ h.chain, ?_, ?_, ?_⟩
  · rw [hring]
    exact h.ring
  · rw [hbus]
    exact h.channels
  · rw [hjournal]
    exact h.journal

theorem note (h : Sifted config a) {entry : JournalEntry} (hentry : entry.Enabled config) :
    Sifted config (a.note entry) := by
  refine ⟨h.alone, h.chain, h.ring, h.channels, ?_⟩
  intro other hother
  rcases List.mem_append.1 hother with hother | hother
  · exact h.journal other hother
  · obtain rfl := List.mem_singleton.1 hother
    exact hentry

/-! ### Telling -/

theorem observe (hk : alarm.Keeps (Sifted config)) (h : Sifted config a) {event : StateEvent}
    (hevent : event.Enabled config) (o : Observer) : Sifted config (a.observe alarm event o) := by
  have hnoted : Sifted config (a.note (.sighting ⟨o.label, event⟩)) := h.note hevent
  unfold Application.observe
  cases o.panics event with
  | none => exact hnoted
  | some panic => exact hk panic _ hnoted

theorem broadcast (h : Sifted config a) {event : StateEvent} (hevent : event.Enabled config) :
    Sifted config (a.changeClient fun c => { c with bus := c.bus.broadcast event }) := by
  refine ⟨h.alone, h.chain, h.ring, ?_, h.journal⟩
  intro channel hchannel other hother
  obtain ⟨old, hold, rfl⟩ := List.mem_map.1 hchannel
  simp only [Channel.push] at hother
  rcases List.mem_append.1 (List.mem_of_mem_drop hother) with hother | hother
  · exact h.channels old hold other hother
  · obtain rfl := List.mem_singleton.1 hother
    exact hevent

theorem tell (hk : alarm.Keeps (Sifted config)) (h : Sifted config a) {event : StateEvent}
    (hevent : event.Enabled config) : Sifted config (a.tell alarm event) := by
  have htold : Sifted config (a.note (.told a.client.queue.executor event)) := h.note hevent
  unfold Application.tell
  apply broadcast _ hevent
  generalize (a.note (.told a.client.queue.executor event)).client.bus.observers = observers
  generalize a.note (.told a.client.queue.executor event) = b at htold
  induction observers generalizing b with
  | nil => exact htold
  | cons o rest ih => exact ih _ (htold.observe hk hevent o.2)

theorem tellAll (hk : alarm.Keeps (Sifted config)) (h : Sifted config a) {events : List StateEvent}
    (hevents : ∀ event ∈ events, event.Enabled config) :
    Sifted config (a.tellAll alarm events) := by
  unfold Application.tellAll
  induction events generalizing a with
  | nil => exact h
  | cons event rest ih =>
    exact ih (h.tell hk (hevents event List.mem_cons_self))
      fun other hother => hevents other (List.mem_cons_of_mem _ hother)

theorem heed (hk : alarm.Keeps (Sifted config)) (h : Sifted config a)
    (incidents : List Incident) : Sifted config (a.heed alarm incidents) := by
  unfold Application.heed
  induction incidents generalizing a with
  | nil => exact h
  | cons incident rest ih =>
    cases incident with
    | remark text => exact ih (h.note trivial)
    | panic panic => exact ih (hk panic a h)

/-! ### Breadcrumbs -/

/-- What the ring does not let go of was there or is new. -/
theorem addToRing (h : Sifted config a) {b : Breadcrumb}
    (hkind : config.keepsBreadcrumb b.kind = true) :
    Sifted config (a.changeClient fun c => { c with ring := (a.client.ring.add b).1 }) ∧
      ∀ event ∈ (a.client.ring.add b).2, event.Enabled config := by
  unfold BreadcrumbRing.add
  split
  · exact ⟨h.congr rfl rfl rfl rfl rfl, fun _ hnone => nomatch hnone⟩
  · refine ⟨⟨h.alone, h.chain, ?_, h.channels, h.journal⟩, ?_⟩
    · intro crumb hcrumb
      rcases List.mem_append.1 (List.mem_of_mem_drop hcrumb) with hcrumb | hcrumb
      · exact h.ring crumb hcrumb
      · obtain rfl := List.mem_singleton.1 hcrumb
        exact hkind
    · intro event hevent
      obtain rfl := List.mem_singleton.1 hevent
      exact hkind

theorem addBreadcrumb (hk : alarm.Keeps (Sifted config)) (h : Sifted config a) (b : Breadcrumb) :
    Sifted config (a.addBreadcrumb alarm b) := by
  obtain ⟨hchain, hpassed⟩ := h.chain.run b
  have hcalled : Sifted config (a.changeClient fun c =>
      { c with onBreadcrumb := (a.client.onBreadcrumb.run b).chain }) :=
    ⟨h.alone, hchain, h.ring, h.channels, h.journal⟩
  have hheeded := hcalled.heed hk (a.client.onBreadcrumb.run b).incidents
  unfold Application.addBreadcrumb
  simp only
  split
  · next hproceed =>
    obtain ⟨hkept, hevents⟩ := hheeded.addToRing (hpassed hproceed)
    exact hkept.tellAll hk hevents
  · exact hheeded

theorem leaveBreadcrumb (hk : alarm.Keeps (Sifted config)) (h : Sifted config a) (name : String)
    (kind : BreadcrumbType) (metadata : Dict Json) :
    Sifted config (a.leaveBreadcrumb alarm name kind metadata) := h.addBreadcrumb hk _

/-! ### Reports -/

theorem submit (h : Sifted config a) (task : Task) : Sifted config (a.submit task) :=
  h.congr rfl rfl rfl rfl rfl

theorem countEvent (h : Sifted config a) (event : Event) (session : Option Nat) :
    Sifted config (a.countEvent event session).1 := by
  unfold Application.countEvent
  cases event.session.isNone with
  | true => exact h
  | false =>
    cases session with
    | none => exact h
    | some number => exact h.congr rfl rfl rfl rfl rfl

theorem dispatchEvent (h : Sifted config a) (event : Event) :
    Sifted config (a.dispatchEvent event) := by
  unfold Application.dispatchEvent
  split <;> exact h.congr rfl rfl rfl rfl rfl

theorem leaveErrorBreadcrumb (hk : alarm.Keeps (Sifted config)) (h : Sifted config a)
    (event : Event) : Sifted config (a.leaveErrorBreadcrumb alarm event) := by
  unfold Application.leaveErrorBreadcrumb
  cases event.errors.head? with
  | none => exact h
  | some error => exact h.leaveBreadcrumb hk _ _ _

theorem runErrorCallbacks (hk : alarm.Keeps (Sifted config)) (h : Sifted config a) (event : Event)
    (lastly : Option (Callback Event)) :
    Sifted config (a.runErrorCallbacks alarm event lastly).1 := by
  have hcalled : ∀ onError, Sifted config (a.changeClient fun c => { c with onError }) :=
    fun _ => h.congr rfl rfl rfl rfl rfl
  unfold Application.runErrorCallbacks
  exact (hcalled _).heed hk _

theorem report (hk : alarm.Keeps (Sifted config)) (h : Sifted config a) (event : Event)
    (extra : Metadata) (lastly : Option (Callback Event)) :
    Sifted config (a.report alarm event extra lastly) := by
  unfold Application.report
  split
  · exact h
  · have hrun := h.runErrorCallbacks hk (a.client.describe a.now event extra) lastly
    generalize a.runErrorCallbacks alarm (a.client.describe a.now event extra) lastly = run at hrun
    obtain ⟨b, left, proceed⟩ := run
    cases proceed with
    | false => exact hrun
    | true =>
      exact ((hrun.countEvent left a.client.attachedSession?).dispatchEvent _).leaveErrorBreadcrumb
        hk _

/-- What the hooks do with a panic leaves this as it is. -/
theorem keeps_loud (config : Config) : Alarm.Keeps loud (Sifted config) := by
  have hhook : ∀ (a : Application) (panic : Panic) (hook : Hook), Sifted config a →
      Sifted config (a.callHook panic hook) := by
    intro a panic hook h
    cases hook with
    | current =>
      unfold Application.callHook Application.reportPanic reportUnhandled
      exact h.report (keeps_silent _) _ _ _
    | earlier index =>
      have hnone : a.earlier[index]? = none := by simp [h.alone]
      unfold Application.callHook Application.withEarlier
      simp only [hnone]
      exact h
  intro panic a h
  unfold Application.loud
  generalize a.hooks = hooks
  induction hooks generalizing a with
  | nil => exact h
  | cons hook rest ih => exact ih _ (hhook a panic hook h)

/-! ### Sessions -/

theorem trackSession (h : Sifted config a) (number : Nat) :
    Sifted config (a.trackSession loud number) := by
  rcases trackSession_cases a loud number with hsame | ⟨session, run, b, tracker, released, _, hb,
    _, hgoes⟩
  · rw [hsame]
    exact h
  · have hcalled : Sifted config (a.changeClient fun c => { c with onSession := run.chain }) :=
      h.congr rfl rfl rfl rfl rfl
    have hheeded := hcalled.heed (keeps_loud config) run.incidents
    rw [← hb] at hheeded
    rw [hgoes]
    cases released with
    | none => exact hheeded.congr rfl rfl rfl rfl rfl
    | some payload => exact hheeded.congr rfl rfl rfl rfl rfl

theorem followTracker (h : Sifted config a) {step : SessionTracker × List StateEvent}
    (hevents : ∀ event ∈ step.2, event.Enabled config) (started : Bool) :
    Sifted config (a.followTracker loud step started) := by
  have hchanged : Sifted config (a.changeTracker step.1) := h.congr rfl rfl rfl rfl rfl
  have htold := hchanged.tellAll (keeps_loud config) hevents
  unfold Application.followTracker
  simp only
  generalize (a.changeTracker step.1).tellAll loud step.2 = b at htold
  split
  · have hgiven : Sifted config { b with idsGiven := b.idsGiven + 1 } :=
      htold.congr rfl rfl rfl rfl rfl
    exact hgiven.trackSession _
  · exact htold

end Sifted

/-! ### What a tracker tells -/

/-- A tracker tells of sessions and of activities, and of no breadcrumb. -/
theorem SessionTracker.enabled_start (config : Config) (t : SessionTracker) (id : SessionId)
    (now : Instant) (auto : Bool) : ∀ event ∈ (t.start id now auto).2, event.Enabled config := by
  simp [start, startNew, adopt, StateEvent.ofSession, StateEvent.Enabled]

theorem SessionTracker.enabled_pause (config : Config) (t : SessionTracker) :
    ∀ event ∈ t.pause.2, event.Enabled config := by
  unfold pause
  split <;> simp [StateEvent.Enabled]

theorem SessionTracker.enabled_register (config : Config) (t : SessionTracker)
    (session : Option Session) : ∀ event ∈ (t.register session).2, event.Enabled config := by
  unfold register
  split <;> simp [adopt, StateEvent.ofSession, StateEvent.Enabled]

theorem SessionTracker.enabled_moveActivity (config : Config) (t : SessionTracker)
    (activity : String) (starting : Bool) (now : Instant) (id : SessionId) :
    ∀ event ∈ (t.moveActivity activity starting now id).2.1, event.Enabled config := by
  unfold moveActivity
  simp only
  split <;> simp [start, startNew, adopt, StateEvent.ofSession, StateEvent.Enabled]

theorem SessionTracker.enabled_resume (config : Config) (t : SessionTracker) (id : SessionId)
    (now : Instant) : ∀ event ∈ (t.resume id now).2.1, event.Enabled config := by
  unfold resume
  split
  · simp [start, startNew, adopt, StateEvent.ofSession, StateEvent.Enabled]
  · split <;> simp [StateEvent.ofSession, StateEvent.Enabled]

/-! ## Launches -/

/-- Validation changes no more than the limit of breadcrumbs. -/
theorem Config.validate_eq_ok {c d : Config} (h : c.validate = .ok d) :
    d = { c with maxBreadcrumbs := min c.maxBreadcrumbs breadcrumbLimit } := by
  simp only [validate, bind, Except.bind, pure, Except.pure, throw, throwThe,
    MonadExceptOf.throw] at h
  repeat' split at h
  all_goals first | cases h; done | exact (Except.ok.inj h).symm

/-- A client that was just built has the filter in its chain, and no breadcrumbs, observers and
channels. -/
theorem Client.sifts_of_build {l : Launch} {disk : Disk} {c : Client} (h : build l disk = .ok c) :
    c.onBreadcrumb =
        (({ name := "on_breadcrumb" } : CallbackChain Breadcrumb).add (typeFilter l.config)).2 ∧
      c.ring = { capacity := min l.config.maxBreadcrumbs Config.breadcrumbLimit } ∧
      c.bus = {} := by
  simp only [build, bind, Except.bind] at h
  split at h
  · cases h
  · next config hconfig =>
    split at h
    · cases h
    · obtain rfl := Except.ok.inj h
      obtain rfl := Config.validate_eq_ok hconfig
      exact ⟨rfl, rfl, rfl⟩

/-! ## Whole lives -/

/-- The host does not take the filter out of the chain, and the breadcrumb callbacks that it adds
leave breadcrumbs their type. -/
def HostCall.SparesFilter : HostCall → Prop
  | .addBreadcrumbCallback callback => callback.KeepsKind
  | .removeBreadcrumbCallback id => id ≠ Client.filterId
  | _ => True

namespace Sifted

variable {config : Config} {a : Application} {life next : Life} {turn : Turn}

/-- Channels that are opened or emptied tell of nothing. -/
theorem channels_of (h : Sifted config a) {bus : ObserverBus}
    (hbus : ∀ channel ∈ bus.channels, channel ∈ a.client.bus.channels ∨ channel.waiting = []) :
    Sifted config (a.changeClient fun c => { c with bus }) := by
  refine ⟨h.alone, h.chain, h.ring, ?_, h.journal⟩
  intro channel hchannel event hevent
  rcases hbus channel hchannel with hold | hempty
  · exact h.channels channel hold event hevent
  · rw [hempty] at hevent
    cases hevent

/-- Whatever the host asks for, as long as it spares the filter. -/
theorem carryOut (h : Sifted config a) {call : HostCall} (hcall : call.SparesFilter) :
    Sifted config (a.carryOut call) := by
  have hk := keeps_loud config
  cases call with
  | startSession =>
    unfold Application.carryOut Application.startSession
    exact h.followTracker (SessionTracker.enabled_start config _ _ _ _) _
  | pauseSession =>
    unfold Application.carryOut Application.pauseSession
    exact h.followTracker (SessionTracker.enabled_pause config _) _
  | resumeSession => exact h.followTracker (a.client.tracker.enabled_resume config _ _) _
  | registerSession session =>
    unfold Application.carryOut Application.registerSession
    exact h.followTracker (SessionTracker.enabled_register config _ _) _
  | moveActivity activity transition =>
    have hleft := h.leaveBreadcrumb hk activity .navigation
      (Dict.empty.insert "ActivityLifecycle" (.str transition.callbackName))
    unfold Application.carryOut Application.moveActivity
    simp only
    split
    · exact hleft.followTracker (SessionTracker.enabled_moveActivity config _ _ _ _ _) _
    · exact hleft
  | leaveMessage message => exact h.addBreadcrumb hk _
  | leaveBreadcrumb name kind metadata => exact h.leaveBreadcrumb hk _ _ _
  | reportError error state lastly => exact h.report hk _ _ _
  | reportUnhandled error state extra =>
    unfold Application.carryOut Application.reportUnhandled
    exact h.report hk _ _ _
  | changeConnectivity connected =>
    have hleft := h.leaveBreadcrumb hk "Connectivity change" .state
      (Dict.empty.insert "hasConnection" (.bool connected))
    unfold Application.carryOut Application.changeConnectivity
    simp only
    split
    · exact hleft.submit _
    · exact hleft
  | addErrorCallback callback => exact h.congr rfl rfl rfl rfl rfl
  | addBreadcrumbCallback callback =>
    exact ⟨h.alone, h.chain.add hcall, h.ring, h.channels, h.journal⟩
  | addSessionCallback callback => exact h.congr rfl rfl rfl rfl rfl
  | removeErrorCallback id => exact h.congr rfl rfl rfl rfl rfl
  | removeBreadcrumbCallback id =>
    exact ⟨h.alone, h.chain.remove hcall, h.ring, h.channels, h.journal⟩
  | removeSessionCallback id => exact h.congr rfl rfl rfl rfl rfl
  | registerObserver observer => exact h.channels_of fun _ hsame => .inl hsame
  | unregisterObserver id => exact h.channels_of fun _ hsame => .inl hsame
  | subscribe =>
    refine h.channels_of fun channel hchannel => ?_
    rcases List.mem_append.1 hchannel with hsame | hnew
    · exact .inl hsame
    · exact .inr (by rw [List.mem_singleton.1 hnew])
  | collect index =>
    refine h.channels_of fun channel hchannel => ?_
    rcases List.mem_or_eq_of_mem_set hchannel with hsame | rfl
    · exact .inl hsame
    · exact .inr rfl
  | setUser user => exact h.congr rfl rfl rfl rfl rfl
  | setContext context => exact h.congr rfl rfl rfl rfl rfl
  | changeMetadata f => exact h.congr rfl rfl rfl rfl rfl
  | installHook => exact h.congr rfl rfl rfl rfl rfl
  | raise panic => exact hk panic a h
  | close => exact h.congr rfl rfl rfl rfl rfl

theorem goOn {step : Application × Progress} (h : Sifted config step.1) (life : Life) :
    Sifted config (life.goOn step).application := by
  rw [Life.application_goOn]
  exact h

theorem begin (h : Sifted config a) (task : Task) : Sifted config (a.begin task).1 :=
  h.congr rfl rfl rfl rfl rfl

theorem answer (h : Sifted config a) (flight : Flight) (reply : Answer) :
    Sifted config (a.answer loud flight reply).1 := by
  have hreport : (Pipeline.report flight reply.outcome).Enabled config := trivial
  have htold := ((keeps_loud config).alarmed h reply).tell (keeps_loud config) hreport
  rw [answer_eq]
  exact htold.congr rfl rfl rfl rfl rfl

theorem step (h : Sifted config life.application) (hstep : life.Step turn next)
    (hcalls : ∀ call, turn = .call call → call.SparesFilter) : Sifted config next.application := by
  cases hstep with
  | call _ call => exact h.carryOut (hcalls call rfl)
  | flush _ kind => exact (h.begin _).goOn life
  | receive => exact h.congr rfl rfl rfl rfl rfl
  | start => exact h.congr rfl rfl rfl rfl rfl
  | begin _ task _ => exact (h.begin task).goOn life
  | finish _ index => exact h.congr rfl rfl rfl rfl rfl
  | answer a before after sent flight reply => exact (h.answer flight reply).goOn _
  | thread _ name => exact h.congr rfl rfl rfl rfl rfl
  | clock _ clock => exact h.congr rfl rfl rfl rfl rfl

/-- This holds of every client that was just launched. -/
theorem launch {l : Launch} {disk : Disk} {clock : Clock} {ids : Nat → SessionId}
    (h : Application.launch l disk clock ids = .ok a) : Sifted l.config a := by
  obtain ⟨client, hbuild, rfl⟩ := built_of_launch h
  obtain ⟨hchain, hring, hbus⟩ := Client.sifts_of_build hbuild
  have hbegun : Sifted l.config { clock, ids, client } := by
    refine ⟨rfl, ?_, ?_, ?_, fun _ hnone => nomatch hnone⟩
    · rw [hchain]
      exact ⟨⟨[], rfl, fun _ hnone => nomatch hnone⟩, Nat.one_pos⟩
    · rw [hring]
      exact fun _ hnone => nomatch hnone
    · rw [hbus]
      exact fun _ hnone => nomatch hnone
  exact ((hbegun.submit _).submit _).leaveBreadcrumb (keeps_loud _) _ _ _

end Sifted

/-! ## The law -/

/-- Whatever happens in the life of a client, every breadcrumb that is kept, and every one that
the world was told of, is of an enabled type, as long as the host does not take the filter out of
the chain. The handles of breadcrumb callbacks never stand for the filter. -/
theorem disabled_types_are_never_recorded {l : Launch} {disk : Disk} {clock : Clock}
    {ids : Nat → SessionId} {a : Application} {turns : List Turn} {life : Life}
    (hlaunch : launch l disk clock ids = .ok a)
    (hrun : Life.Run { application := a } turns life)
    (hspares : ∀ call, .call call ∈ turns → call.SparesFilter) :
    (∀ crumb ∈ life.application.client.ring.entries,
      l.config.keepsBreadcrumb crumb.kind = true) ∧
    (∀ entry ∈ life.application.journal, entry.Enabled l.config) ∧
    (∀ channel ∈ life.application.client.bus.channels, ∀ event ∈ channel.waiting,
      event.Enabled l.config) ∧
    ∀ callback, (life.application.addBreadcrumbCallback callback).2 ≠ Client.filterId := by
  have hbegun := Sifted.launch hlaunch
  have hsifted : Sifted l.config life.application := by
    induction hrun with
    | stay => exact hbegun
    | step before hstep ih =>
      have hlife := ih fun call hcall => hspares call (List.mem_append_left _ hcall)
      refine hlife.step hstep ?_
      rintro call rfl
      exact hspares call (List.mem_append_right _ List.mem_cons_self)
  exact ⟨hsifted.ring, hsifted.journal, hsifted.channels, hsifted.chain.fresh⟩

/-- A launch that enables only the breadcrumbs that are left by hand. -/
def manualLaunch : Launch :=
  { config := { plainLaunch.config with enabledBreadcrumbTypes := some [.manual] } }

/-- What it launches on an empty disk. -/
def manualApplication : Application :=
  { plainApplication with
    client := { plainClient with
      config := manualLaunch.config
      onBreadcrumb :=
        (({ name := "on_breadcrumb" } : CallbackChain Breadcrumb).add
          (Client.typeFilter manualLaunch.config)).2 } }.greet loud

theorem launch_manualLaunch :
    launch manualLaunch {} ⟨0⟩ (fun n => ⟨n⟩) = .ok manualApplication := by
  rfl

/-- A breadcrumb callback comes and goes, a change of state is not recorded, and what is left by
hand is. -/
theorem only_the_breadcrumb_left_by_hand_is_kept :
    ∃ life : Life,
      Life.Run { application := manualApplication }
        [.call (.addBreadcrumbCallback (.reply fun _ => .proceed)),
          .call (.removeBreadcrumbCallback
            (manualApplication.addBreadcrumbCallback (.reply fun _ => .proceed)).2),
          .call (.leaveBreadcrumb "online" .state Dict.empty),
          .call (.leaveMessage "hello")] life ∧
      life.application.client.ring.entries.length = 1 ∧
      ∀ crumb ∈ life.application.client.ring.entries,
        manualLaunch.config.keepsBreadcrumb crumb.kind = true := by
  have hrun := (((Life.Run.stay { application := manualApplication }).step
    (.call _ (.addBreadcrumbCallback (.reply fun _ => .proceed)))).step
      (.call _ (.removeBreadcrumbCallback
        (manualApplication.addBreadcrumbCallback (.reply fun _ => .proceed)).2))).step
      (.call _ (.leaveBreadcrumb "online" .state Dict.empty))
  have hall := hrun.step (.call _ (.leaveMessage "hello"))
  obtain ⟨hring, _⟩ := disabled_types_are_never_recorded launch_manualLaunch hall (by
    intro call hcall
    simp only [List.nil_append, List.cons_append, List.mem_cons, Turn.call.injEq,
      List.not_mem_nil, or_false] at hcall
    rcases hcall with rfl | rfl | rfl | rfl
    · trivial
    · exact (by decide : (⟨2⟩ : CallbackId) ≠ Client.filterId)
    · trivial
    · trivial)
  exact ⟨_, hall, rfl, hring⟩

/-- The handle of an error callback takes the filter out, and a change of state is recorded. -/
theorem a_handle_of_another_chain_takes_the_filter_out :
    ∃ (l : Launch) (clock : Clock) (ids : Nat → SessionId) (a : Application) (life : Life)
      (crumb : Breadcrumb),
      launch l {} clock ids = .ok a ∧ l.config.enabledBreadcrumbTypes = some [.manual] ∧
        Life.Run { application := a }
          [.call (.addErrorCallback (.reply fun _ => .proceed)),
            .call (.removeBreadcrumbCallback
              (a.addErrorCallback (.reply fun _ => .proceed)).2),
            .call (.leaveBreadcrumb "online" .state Dict.empty)] life ∧
        crumb ∈ life.application.client.ring.entries ∧
        .told .owned (.breadcrumbAdded crumb) ∈ life.application.journal ∧
        crumb.kind = .state := by
  have hrun := (((Life.Run.stay { application := manualApplication }).step
    (.call _ (.addErrorCallback (.reply fun _ => .proceed)))).step
      (.call _ (.removeBreadcrumbCallback
        (manualApplication.addErrorCallback (.reply fun _ => .proceed)).2))).step
      (.call _ (.leaveBreadcrumb "online" .state Dict.empty))
  refine ⟨manualLaunch, _, _, _, _, .new "online" .state Dict.empty manualApplication.now,
    launch_manualLaunch, rfl,
    hrun, ?_, ?_, rfl⟩
  · exact List.mem_singleton.2 rfl
  · exact List.mem_singleton.2 rfl

end CrashReporter
