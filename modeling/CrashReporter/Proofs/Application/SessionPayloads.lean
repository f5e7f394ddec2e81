import CrashReporter.Proofs.Application.Life
import CrashReporter.Proofs.Callback
import CrashReporter.Proofs.Pipeline.SessionAccounts

-- What payloads of sessions carry. A session that was not stored goes out with the app and
-- the device as the session callback left them, whatever way it took through the queue. Once
-- it was stored, it goes out with those that the client itself sees at that moment.

namespace CrashReporter

open Application

/-! ## Payloads -/

/-- The payload carries this app and this device. -/
def SessionPayload.Bears (payload : SessionPayload) (around : Surroundings) : Prop :=
  payload.app = around.app ∧ payload.device = around.device

/-- A payload carries one app and one device. -/
theorem SessionPayload.Bears.eq {payload : SessionPayload} {around other : Surroundings}
    (h : payload.Bears around) (hother : payload.Bears other) : around = other := by
  obtain ⟨app, device⟩ := around
  obtain ⟨rfl, rfl⟩ := h
  obtain ⟨happ, hdevice⟩ := hother
  rw [happ, hdevice]

/-- A callback that gives every payload a fixed app and a fixed device and lets it pass, and
neither adds nor removes callbacks. -/
structure Callback.Fixes (callback : Callback SessionPayload) (fixed : Surroundings) : Prop where
  bears : ∀ r : CallbackRun SessionPayload, (r.call callback).subject.Bears fixed
  chain : ∀ r : CallbackRun SessionPayload, (r.call callback).chain = r.chain
  proceeds : ∀ r : CallbackRun SessionPayload, (r.call callback).proceed = r.proceed

/-- Where such a callback is the only one, every run leaves the chain as it is and the payload
with that app and device. -/
theorem Callback.Fixes.run {callback : Callback SessionPayload} {fixed : Surroundings}
    (h : callback.Fixes fixed) {chain : CallbackChain SessionPayload}
    (honly : chain.entries.map (·.2) = [callback]) (subject : SessionPayload) :
    (chain.run subject).chain = chain ∧ (chain.run subject).subject.Bears fixed := by
  have hrun : chain.run subject =
      ({ chain, subject } : CallbackRun SessionPayload).call callback := by
    unfold CallbackChain.run
    rw [honly]
    exact CallbackRun.callAll_singleton _ _
  rw [hrun]
  exact ⟨h.chain _, h.bears _⟩

/-- The host neither adds nor removes session callbacks. -/
def HostCall.sparesSessionCallbacks : HostCall → Bool
  | addSessionCallback _ | removeSessionCallback _ => false
  | _ => true

/-- The new sessions that a call sends, or has yet to send after a flush. -/
def Flight.first? : Flight → Option SessionPayload
  | newSessions payload => some payload
  | storedSessions _ flush => flush.next
  | _ => none

/-- The call sends sessions that were stored. -/
def Flight.sendsStored : Flight → Bool
  | storedSessions .. => true
  | _ => false

/-! ## Tasks -/

/-- Every task of a queue. -/
def TaskQueue.tasks (q : TaskQueue) : List Task := q.running ++ q.inHand.toList ++ q.waiting

namespace TaskQueue

variable {q : TaskQueue} {task : Task}

theorem mem_tasks_receive (h : task ∈ q.receive.tasks) : task ∈ q.tasks := by
  unfold receive at h
  split at h
  · next first rest hnone hwaiting =>
    unfold tasks at h ⊢
    rw [hwaiting]
    simp only [List.mem_append, List.mem_cons, Option.toList_some, List.not_mem_nil,
      or_false] at h ⊢
    rcases h with (h | h) | h
    · exact .inl (.inl h)
    · exact .inr (.inl h)
    · exact .inr (.inr h)
  · exact h

theorem mem_tasks_start (h : task ∈ q.start.tasks) : task ∈ q.tasks := by
  unfold start at h
  split at h
  · next first hhand =>
    split at h
    · unfold tasks at h ⊢
      rw [hhand]
      simp only [Option.toList_none, List.append_nil] at h
      exact h
    · exact h
  · exact h

theorem mem_tasks_finish {index : Nat} (h : task ∈ (q.finish index).tasks) : task ∈ q.tasks := by
  unfold finish tasks at *
  simp only [List.mem_append] at h ⊢
  rcases h with (h | h) | h
  · exact .inl (.inl (List.mem_of_mem_eraseIdx h))
  · exact .inl (.inr h)
  · exact .inr h

theorem mem_tasks_submit {new : Task} {r : TaskQueue} (hsubmit : q.submit? new = some r)
    (h : task ∈ r.tasks) : task ∈ q.tasks ∨ task = new := by
  unfold submit? at hsubmit
  split at hsubmit
  · cases hsubmit
  · obtain rfl := Option.some.inj hsubmit
    unfold tasks at h ⊢
    simp only [← List.append_assoc, List.mem_append, List.mem_singleton] at h ⊢
    exact h

end TaskQueue

/-! ## The client -/

/-- These are the session callbacks of a client, and all new sessions that are left to its
background carry a fixed app and a fixed device. -/
structure Governed (callbacks : List (Callback SessionPayload)) (fixed : Surroundings)
    (c : Client) : Prop where
  callbacks : c.onSession.entries.map (·.2) = callbacks
  queued : ∀ payload, .deliverSessions payload ∈ c.queue.tasks → payload.Bears fixed

namespace Governed

variable {callbacks : List (Callback SessionPayload)} {callback : Callback SessionPayload}
  {fixed : Surroundings} {c : Client} {a : Application} {alarm : Alarm}

/-- What concerns neither the session callbacks nor the tasks leaves this as it is. -/
theorem congr (h : Governed callbacks fixed c) {d : Client} (hchain : d.onSession = c.onSession)
    (hqueue : d.queue = c.queue) : Governed callbacks fixed d := by
  obtain ⟨hcallbacks, hqueued⟩ := h
  rw [← hchain] at hcallbacks
  rw [← hqueue] at hqueued
  exact ⟨hcallbacks, hqueued⟩

/-- Fewer tasks carry no more. -/
theorem changeQueue (h : Governed callbacks fixed c) {q : TaskQueue}
    (hfewer : ∀ task ∈ q.tasks, task ∈ c.queue.tasks) :
    Governed callbacks fixed { c with queue := q } :=
  ⟨h.callbacks, fun payload hmem => h.queued payload (hfewer _ hmem)⟩

theorem submit (h : Governed callbacks fixed a.client) {task : Task}
    (htask : ∀ payload, task = .deliverSessions payload → payload.Bears fixed) :
    Governed callbacks fixed (a.submit task).client := by
  cases hsubmit : a.client.queue.submit? task with
  | none =>
    rw [submit_of_full hsubmit]
    exact h.congr rfl rfl
  | some q =>
    rw [submit_of_room hsubmit]
    refine ⟨h.callbacks, ?_⟩
    intro payload hmem
    rcases TaskQueue.mem_tasks_submit hsubmit hmem with hmem | heq
    · exact h.queued payload hmem
    · exact htask payload heq.symm

theorem dispatchEvent (h : Governed callbacks fixed a.client) (event : Event) :
    Governed callbacks fixed (a.dispatchEvent event).client := by
  unfold Application.dispatchEvent
  split
  · have hstored : Governed callbacks fixed (a.persistEvent event).client := h.congr rfl rfl
    exact hstored.submit fun _ heq => nomatch heq
  · exact h.submit fun _ heq => nomatch heq

/-- Reports have no part in this. -/
theorem unreported (callbacks : List (Callback SessionPayload)) (fixed : Surroundings) :
    Unreported fun a => Governed callbacks fixed a.client where
  journal := fun _ _ h => h
  bus := fun _ _ h => h.congr rfl rfl
  ring := fun _ _ h => h.congr rfl rfl
  onError := fun _ _ h => h.congr rfl rfl
  onBreadcrumb := fun _ _ h => h.congr rfl rfl
  tracker := fun _ _ h => h.congr rfl rfl
  dispatch := fun _ event h => h.dispatchEvent event
  elsewhere := fun _ b _ h hclient => h.congr (by rw [hclient]) (by rw [hclient])

/-- A session that is offered for delivery is left to the background as the callback left it. -/
theorem trackSession (hfix : callback.Fixes fixed) (h : Governed [callback] fixed a.client)
    (number : Nat) : Governed [callback] fixed (a.trackSession loud number).client := by
  have hs := unreported [callback] fixed
  rcases trackSession_cases a loud number with hsame | ⟨session, run, b, tracker, released, hrun,
    hb, hprepared, hgoes⟩
  · rw [hsame]
    exact h
  · obtain ⟨hchain, hbears⟩ := hfix.run h.callbacks (a.client.sessionPayload a.now session)
    rw [← hrun] at hchain hbears
    have hcalled : Governed [callback] fixed
        (a.changeClient fun c => { c with onSession := run.chain }).client := h.congr hchain rfl
    have hheeded := hs.heed hs.loud hcalled run.incidents
    rw [← hb] at hheeded
    rw [hgoes]
    cases released with
    | none => exact hs.tracker b tracker hheeded
    | some payload =>
      refine Governed.submit (hs.tracker b tracker hheeded) ?_
      intro other heq
      obtain rfl := Task.deliverSessions.inj heq
      have hreleased := SessionTracker.prepareDelivery_eq_some.1 (congrArg Prod.snd hprepared)
      rw [hreleased.2.1]
      exact hbears

theorem followTracker (hfix : callback.Fixes fixed) (h : Governed [callback] fixed a.client)
    (step : SessionTracker × List StateEvent) (started : Bool) :
    Governed [callback] fixed (a.followTracker loud step started).client := by
  have hs := unreported [callback] fixed
  have htold := hs.tellAll hs.loud (hs.tracker a step.1 h) step.2
  unfold Application.followTracker
  simp only
  generalize (a.changeTracker step.1).tellAll loud step.2 = b at htold
  split
  · have hgiven : Governed [callback] fixed { b with idsGiven := b.idsGiven + 1 }.client := htold
    exact hgiven.trackSession hfix _
  · exact htold

/-- Whatever the host asks for, as long as it leaves the session callbacks alone. -/
theorem carryOut (hfix : callback.Fixes fixed) (h : Governed [callback] fixed a.client)
    {call : HostCall} (hcall : call.sparesSessionCallbacks = true) :
    Governed [callback] fixed (a.carryOut call).client := by
  have hs := unreported [callback] fixed
  have hk := hs.loud
  cases call with
  | startSession => exact h.followTracker hfix _ _
  | pauseSession => exact h.followTracker hfix _ _
  | resumeSession => exact h.followTracker hfix _ _
  | registerSession session => exact h.followTracker hfix _ _
  | moveActivity activity transition =>
    have hleft := hs.leaveBreadcrumb hk h activity .navigation
      (Dict.empty.insert "ActivityLifecycle" (.str transition.callbackName))
    unfold Application.carryOut Application.moveActivity
    simp only
    split
    · exact followTracker hfix hleft _ _
    · exact hleft
  | leaveMessage message => exact hs.addBreadcrumb hk h _
  | leaveBreadcrumb name kind metadata => exact hs.leaveBreadcrumb hk h _ _ _
  | reportError error state lastly => exact hs.report hk h _ _ _
  | reportUnhandled error state extra => exact hs.report hk h _ _ _
  | changeConnectivity connected =>
    have hleft := hs.leaveBreadcrumb hk h "Connectivity change" .state
      (Dict.empty.insert "hasConnection" (.bool connected))
    unfold Application.carryOut Application.changeConnectivity
    simp only
    split
    · exact Governed.submit hleft fun _ heq => nomatch heq
    · exact hleft
  | addErrorCallback callback => exact h.congr rfl rfl
  | addBreadcrumbCallback callback => exact h.congr rfl rfl
  | addSessionCallback callback => cases hcall
  | removeErrorCallback id => exact h.congr rfl rfl
  | removeBreadcrumbCallback id => exact h.congr rfl rfl
  | removeSessionCallback id => cases hcall
  | registerObserver observer => exact h.congr rfl rfl
  | unregisterObserver id => exact h.congr rfl rfl
  | subscribe => exact h.congr rfl rfl
  | collect index => exact h.congr rfl rfl
  | setUser user => exact h.congr rfl rfl
  | setContext context => exact h.congr rfl rfl
  | changeMetadata f => exact h.congr rfl rfl
  | installHook => exact h
  | raise panic => exact hk panic a h
  | close => exact ⟨h.callbacks, h.queued⟩

end Governed

/-! ## What a call sends -/

namespace Pipeline

variable {p : Pipeline} {around : Surroundings} {flight other : Flight}

/-- A flush sends what is stored with the app and the device that it is given, and holds back
the new sessions; or it sends these. -/
theorem sends_startSessionFlush {next : Option SessionPayload}
    (h : (p.startSessionFlush around next).2 = .waiting flight) :
    flight.first? = next ∧
      ∀ batch flush, flight = .storedSessions batch flush → batch.Bears around := by
  have hend : ∀ (q : Pipeline) (outcome : FlushOutcome),
      (q.endSessionFlush outcome next).2 = .waiting flight → flight.first? = next ∧
        ∀ batch flush, flight = .storedSessions batch flush → batch.Bears around := by
    intro q outcome hsent
    cases next with
    | none => cases hsent
    | some payload =>
      obtain rfl := Progress.waiting.inj hsent
      exact ⟨rfl, fun _ _ heq => nomatch heq⟩
  unfold startSessionFlush at h
  split at h
  · exact hend _ _ h
  · cases hclaim : p.sessions.claim with
    | error e =>
      rw [hclaim] at h
      exact hend _ _ h
    | ok claimed =>
      rw [hclaim] at h
      simp only at h
      split at h
      · exact hend _ _ h
      · obtain rfl := Progress.waiting.inj h
        refine ⟨rfl, ?_⟩
        intro batch flush heq
        obtain ⟨rfl, _⟩ := Flight.storedSessions.inj heq
        exact ⟨rfl, rfl⟩

theorem first?_of_event (h : flight.request.kind = .event) :
    flight.first? = none ∧ ∀ batch flush, flight ≠ .storedSessions batch flush := by
  cases flight with
  | newSessions payload => cases h
  | storedSessions batch flush => cases h
  | newEvent payload => exact ⟨rfl, fun _ _ heq => nomatch heq⟩
  | storedEvent payload flush => exact ⟨rfl, fun _ _ heq => nomatch heq⟩

/-- A task sends its own sessions or what is stored. -/
theorem sends_begin {task : Task} (h : (p.begin task around).2 = .waiting flight) :
    (∀ payload, flight.first? = some payload → task = .deliverSessions payload) ∧
      ∀ batch flush, flight = .storedSessions batch flush → batch.Bears around := by
  have hevent : flight.request.kind = .event →
      (∀ payload, flight.first? = some payload → task = .deliverSessions payload) ∧
        ∀ batch flush, flight = .storedSessions batch flush → batch.Bears around := by
    intro hkind
    obtain ⟨hnone, hnew⟩ := first?_of_event hkind
    refine ⟨?_, fun batch flush heq => absurd heq (hnew batch flush)⟩
    intro payload hfirst
    rw [hnone] at hfirst
    cases hfirst
  cases task with
  | deliverEvent event =>
    obtain rfl := Progress.waiting.inj h
    exact hevent rfl
  | flushEvents => exact hevent ((eventStep_startEventFlush p false).sends flight h)
  | deliverSessions payload =>
    obtain ⟨hfirst, hbatch⟩ := sends_startSessionFlush h
    refine ⟨?_, hbatch⟩
    intro other hother
    rw [hfirst] at hother
    rw [Option.some.inj hother]
  | flushSessions =>
    obtain ⟨hfirst, hbatch⟩ := sends_startSessionFlush h
    refine ⟨?_, hbatch⟩
    intro other hother
    rw [hfirst] at hother
    cases hother

/-- After an answer a call sends nothing but the new sessions that it held back. -/
theorem sends_settle {status : DeliveryStatus}
    (h : (p.settle flight status).2 = .waiting other) :
    (∀ payload, other.first? = some payload → flight.first? = some payload) ∧
      ∀ batch flush, other ≠ .storedSessions batch flush := by
  have hevent : flight.request.kind = .event →
      (∀ payload, other.first? = some payload → flight.first? = some payload) ∧
        ∀ batch flush, other ≠ .storedSessions batch flush := by
    intro hkind
    obtain ⟨hnone, hnew⟩ := first?_of_event ((eventStep_settle p flight hkind status).sends other h)
    refine ⟨?_, hnew⟩
    intro payload hfirst
    rw [hnone] at hfirst
    cases hfirst
  cases flight with
  | newEvent payload => exact hevent rfl
  | storedEvent payload flush => exact hevent rfl
  | newSessions payload => cases status <;> cases h
  | storedSessions batch flush =>
    have hnext : ∃ payload, flush.next = some payload ∧ other = .newSessions payload := by
      simp only [settle, settleStoredSessions] at h
      cases hflush : flush.next with
      | none =>
        rw [hflush] at h
        cases status <;> cases h
      | some payload =>
        rw [hflush] at h
        cases status <;> exact ⟨payload, rfl, (Progress.waiting.inj h).symm⟩
    obtain ⟨payload, hflush, rfl⟩ := hnext
    refine ⟨fun _ hfirst => hflush.trans hfirst, ?_⟩
    intro batch flush heq
    cases heq

end Pipeline

/-! ## Whole lives -/

/-- What comes of a life under such calls of the host as are allowed. -/
inductive Life.Follows (allowed : HostCall → Bool) (begun : Life) : Life → Prop
  | refl : Follows allowed begun begun
  | step {life next : Life} {turn : Turn} (before : Follows allowed begun life)
      (h : Step life turn next) (hcalls : ∀ call, turn = .call call → allowed call = true) :
      Follows allowed begun next

/-- The host can flush the sessions at any time. -/
theorem Life.Follows.flushSessions {allowed : HostCall → Bool} {begun life : Life}
    {flight : Flight} (h : Follows allowed begun life)
    (hflight : (life.application.client.pipeline.startSessionFlush
      (life.application.client.surroundings life.application.now) none).2 = .waiting flight) :
    ∃ next, Follows allowed begun next ∧ ∃ s ∈ next.sent, s.flight = flight := by
  have hbegin : (life.application.begin .flushSessions).2 = .waiting flight := hflight
  have hnext := h.step (.flush life .session) fun call heq => by cases heq
  refine ⟨_, hnext, ?_⟩
  unfold goOn PayloadKind.flush
  simp only [hbegin]
  exact ⟨_, List.mem_append_right _ List.mem_cons_self, rfl⟩

/-- New sessions go out with a fixed app and a fixed device, and stored ones with those that
the client saw when it sent them. -/
def Sending.Faithful (s : Sending) (fixed : Surroundings) : Prop :=
  ∀ payload, s.flight.request = .sessions payload →
    payload.Bears (if s.flight.sendsStored then s.around else fixed)

/-- The client is governed by one callback, and so is all that was sent or is held back. -/
structure GovernedLife (callback : Callback SessionPayload) (fixed : Surroundings) (life : Life) :
    Prop where
  client : Governed [callback] fixed life.application.client
  heldBack : ∀ flight ∈ life.flights, ∀ payload, flight.first? = some payload →
    payload.Bears fixed
  sent : ∀ s ∈ life.sent, s.Faithful fixed

namespace GovernedLife

variable {callback : Callback SessionPayload} {fixed : Surroundings} {life next : Life}

/-- A call that goes on keeps this, if what it sends now is as it has to be. -/
theorem goOn (h : GovernedLife callback fixed life) {step : Application × Progress}
    (hclient : Governed [callback] fixed step.1.client)
    (hsends : ∀ flight, step.2 = .waiting flight →
      (∀ payload, flight.first? = some payload → payload.Bears fixed) ∧
        ∀ batch flush, flight = .storedSessions batch flush →
          batch.Bears (step.1.client.surroundings step.1.now)) :
    GovernedLife callback fixed (life.goOn step) := by
  obtain ⟨b, progress⟩ := step
  cases progress with
  | finished outcome => exact ⟨hclient, h.heldBack, h.sent⟩
  | waiting flight =>
    obtain ⟨hfirst, hbatch⟩ := hsends flight rfl
    refine ⟨hclient, ?_, ?_⟩
    · intro other hother
      rcases List.mem_cons.1 hother with rfl | hother
      · exact hfirst
      · exact h.heldBack other hother
    · intro s hs
      rcases List.mem_append.1 hs with hs | hs
      · exact h.sent s hs
      · obtain rfl := List.mem_singleton.1 hs
        intro payload hrequest
        cases flight with
        | newEvent event => cases hrequest
        | storedEvent event flush => cases hrequest
        | newSessions first =>
          obtain rfl := Request.sessions.inj hrequest
          exact hfirst first rfl
        | storedSessions batch flush =>
          obtain rfl := Request.sessions.inj hrequest
          exact hbatch batch flush rfl

theorem begin (h : GovernedLife callback fixed life) {task : Task}
    (htask : ∀ payload, task = .deliverSessions payload → payload.Bears fixed) :
    GovernedLife callback fixed (life.goOn (life.application.begin task)) := by
  refine h.goOn (h.client.congr rfl rfl) ?_
  intro flight hsent
  obtain ⟨hfirst, hbatch⟩ := Pipeline.sends_begin hsent
  exact ⟨fun payload hpayload => htask payload (hfirst payload hpayload), hbatch⟩

theorem answer {a : Application} {before after : List Flight} {sent : List Sending}
    {flight : Flight} (h : GovernedLife callback fixed ⟨a, before ++ flight :: after, sent⟩)
    (reply : Answer) :
    GovernedLife callback fixed
      (Life.goOn ⟨a, before ++ after, sent⟩ (a.answer loud flight reply)) := by
  have hs := Governed.unreported [callback] fixed
  have hrest : GovernedLife callback fixed ⟨a, before ++ after, sent⟩ := by
    refine ⟨h.client, ?_, h.sent⟩
    intro other hother
    apply h.heldBack
    rcases List.mem_append.1 hother with hother | hother
    · exact List.mem_append_left _ hother
    · exact List.mem_append_right _ (List.mem_cons_of_mem _ hother)
  have halarmed := hs.loud.alarmed h.client reply
  have htold := hs.tell hs.loud halarmed (Pipeline.report flight reply.outcome)
  rw [answer_eq]
  refine hrest.goOn (htold.congr rfl rfl) ?_
  intro other hsent
  obtain ⟨hfirst, hnew⟩ := Pipeline.sends_settle hsent
  refine ⟨?_, fun batch flush heq => absurd heq (hnew batch flush)⟩
  intro payload hpayload
  exact h.heldBack flight (by simp) payload (hfirst payload hpayload)

theorem step (hfix : callback.Fixes fixed) (h : GovernedLife callback fixed life) {turn : Turn}
    (hstep : Life.Step life turn next)
    (hcalls : ∀ call, turn = .call call → call.sparesSessionCallbacks = true) :
    GovernedLife callback fixed next := by
  cases hstep with
  | call _ call => exact ⟨h.client.carryOut hfix (hcalls call rfl), h.heldBack, h.sent⟩
  | flush _ kind =>
    apply h.begin
    intro payload heq
    cases kind <;> cases heq
  | receive =>
    exact ⟨h.client.changeQueue fun _ => TaskQueue.mem_tasks_receive, h.heldBack, h.sent⟩
  | start => exact ⟨h.client.changeQueue fun _ => TaskQueue.mem_tasks_start, h.heldBack, h.sent⟩
  | begin _ task hrunning =>
    apply h.begin
    rintro payload rfl
    apply h.client.queued
    exact List.mem_append_left _ (List.mem_append_left _ hrunning)
  | finish _ index =>
    exact ⟨h.client.changeQueue fun _ => TaskQueue.mem_tasks_finish, h.heldBack, h.sent⟩
  | answer a before after sent flight reply => exact h.answer reply
  | thread _ name => exact ⟨h.client, h.heldBack, h.sent⟩
  | clock _ clock => exact ⟨h.client, h.heldBack, h.sent⟩

end GovernedLife

/-! ## The law -/

/-- A client that was just launched has no session callbacks, and no sessions to send. -/
theorem governed_launch {l : Launch} {disk : Disk} {clock : Clock} {ids : Nat → SessionId}
    {a : Application} (h : launch l disk clock ids = .ok a) (fixed : Surroundings) :
    Governed [] fixed a.client := by
  have hs := Governed.unreported [] fixed
  obtain ⟨client, rfl, hbuilt⟩ := launch_eq_ok h
  have hclient : Governed [] fixed client := by
    refine ⟨by rw [hbuilt.onSession]; rfl, ?_⟩
    intro payload hmem
    rw [hbuilt.queue] at hmem
    cases hmem
  have hevents : Governed [] fixed
      (({ clock, ids, client } : Application).submit .flushEvents).client :=
    hclient.submit fun _ heq => nomatch heq
  have hsessions : Governed [] fixed
      ((({ clock, ids, client } : Application).submit .flushEvents).submit .flushSessions).client :=
    hevents.submit fun _ heq => nomatch heq
  exact hs.leaveBreadcrumb hs.loud hsessions _ _ _

/-- Where the only session callback gives payloads a fixed app and a fixed device, every payload
of new sessions carries these, in every life of the client. A payload of stored sessions carries
what the client itself sees when it sends them, and so the callback's only if that is the same. -/
theorem sessions_go_out_as_the_callback_left_them {l : Launch} {disk : Disk} {clock : Clock}
    {ids : Nat → SessionId} {a : Application} {callback : Callback SessionPayload}
    {fixed : Surroundings} {life : Life} (hlaunch : launch l disk clock ids = .ok a)
    (hfix : callback.Fixes fixed)
    (h : Life.Follows HostCall.sparesSessionCallbacks
      { application := (a.addSessionCallback callback).1 } life) :
    ∀ s ∈ life.sent, ∀ payload, s.flight.request = .sessions payload →
      (payload.Bears fixed ↔ (s.flight.sendsStored = true → s.around = fixed)) ∧
        (s.flight.sendsStored = true → payload.Bears s.around) := by
  have hbegun : GovernedLife callback fixed
      { application := (a.addSessionCallback callback).1 } := by
    obtain ⟨hcallbacks, hqueued⟩ := governed_launch hlaunch fixed
    refine ⟨⟨?_, hqueued⟩, ?_, ?_⟩
    · have hadded : (a.addSessionCallback callback).1.client.onSession.entries.map (·.2) =
          a.client.onSession.entries.map (·.2) ++ [callback] := List.map_append
      rw [hadded, hcallbacks, List.nil_append]
    · intro flight hflight
      cases hflight
    · intro s hs
      cases hs
  have hlife : GovernedLife callback fixed life := by
    induction h with
    | refl => exact hbegun
    | step before hstep hcalls ih => exact ih.step hfix hstep hcalls
  intro s hs payload hrequest
  have hfaithful := hlife.sent s hs payload hrequest
  cases hstored : s.flight.sendsStored with
  | false =>
    rw [hstored] at hfaithful
    exact ⟨iff_of_true hfaithful nofun, nofun⟩
  | true =>
    rw [hstored] at hfaithful
    refine ⟨⟨fun hbears _ => hfaithful.eq hbears, ?_⟩, fun _ => hfaithful⟩
    intro hsame
    rw [← hsame rfl]
    exact hfaithful

/-- A callback that gives every payload this app and this device. -/
def Callback.fixing (fixed : Surroundings) : Callback SessionPayload :=
  .edit (fun p => { p with app := fixed.app, device := fixed.device }) (.reply fun _ => .proceed)

theorem Callback.fixes_fixing (fixed : Surroundings) : (fixing fixed).Fixes fixed :=
  ⟨fun _ => ⟨rfl, rfl⟩, fun _ => rfl, fun _ => rfl⟩

def redacted : Surroundings := ⟨{ version := some "9.9.9" }, {}⟩

/-- The life of such a client, once its only session callback is there. -/
def redactedLife : Life :=
  { application := ((plainApplication.greet loud).addSessionCallback (.fixing redacted)).1 }

/-- The same client with a session started. The queue is full, and so the session is stored. -/
def redactedStored : Application := redactedLife.application.startSession loud

theorem pipeline_redactedStored :
    redactedStored.client.pipeline = (plainClient.pipeline.persistSessions [sessionOf 0]).1 := by
  rfl

theorem startSessionFlush_redactedStored (around : Surroundings) :
    (redactedStored.client.pipeline.startSessionFlush around none).2 =
      .waiting (.storedSessions ⟨{}, around.app, around.device, [sessionOf 0]⟩
        ⟨[RecordName.ofStamp 1 0], {}, none⟩) := by
  rw [pipeline_redactedStored]
  -- The text of the record is not read step by step: what is legible reads as it was written.
  generalize hstored : (plainClient.pipeline.persistSessions [sessionOf 0]).1 = stored
  have hflushing : stored.flushingSessions = false := by subst hstored; rfl
  have hnotifier : stored.settings.notifier = {} := by subst hstored; rfl
  have hclaim : stored.sessions.claim =
      .ok ([RecordName.ofStamp 1 0], stored.claimSessions.sessions) := by subst hstored; rfl
  have hfound : stored.claimSessions.sessions.found? (RecordName.ofStamp 1 0) =
      some (.file (.text (plainClient.pipeline.sessions.recordText (sessionOf 0)))) := by
    subst hstored; rfl
  have hread : ∀ e ∈ [(RecordName.ofStamp 1 0, sessionOf 0)],
      stored.claimSessions.sessions.read e.1 = .ok e.2 := by
    intro e he
    obtain rfl := List.mem_singleton.1 he
    exact read_sessionOf plainClient.pipeline.sessions (by subst hstored; rfl) hfound
  rw [Pipeline.startSessionFlush_of_claim [(RecordName.ofStamp 1 0, sessionOf 0)] hflushing hclaim
    hread (List.cons_ne_nil _ []) around none, Pipeline.batch, hnotifier]
  rfl

/-- A session that found no room in the queue is stored, and the next flush sends it with the
app that the client itself sees. -/
theorem follows_redactedLife :
    ∃ life, redactedLife.Follows HostCall.sparesSessionCallbacks life ∧
      ∃ s ∈ life.sent, ∃ payload flush, s.flight = .storedSessions payload flush ∧
        payload.app.version = none := by
  have hbegun : redactedLife.Follows HostCall.sparesSessionCallbacks redactedLife := .refl
  have hstarted : redactedLife.Follows HostCall.sparesSessionCallbacks
      { application := redactedStored } :=
    hbegun.step (.call _ .startSession) (by rintro _ ⟨⟩; rfl)
  obtain ⟨life, hlife, s, hs, hflight⟩ :=
    hstarted.flushSessions (startSessionFlush_redactedStored _)
  exact ⟨life, hlife, s, hs, _, _, hflight, rfl⟩

/-- There the stored session carries what the client sees, and not what the callback left. -/
theorem a_stored_session_goes_out_as_the_client_sees_it :
    ∃ life : Life, redactedLife.Follows HostCall.sparesSessionCallbacks life ∧
      ∃ s ∈ life.sent, ∃ payload, s.flight.request = .sessions payload ∧
        payload.Bears s.around ∧ s.around ≠ redacted := by
  obtain ⟨life, hlife, s, hs, payload, flush, hflight, hversion⟩ := follows_redactedLife
  have hrequest : s.flight.request = .sessions payload := by rw [hflight]; rfl
  have hstored : s.flight.sendsStored = true := by rw [hflight]; rfl
  obtain ⟨_, hbears⟩ := sessions_go_out_as_the_callback_left_them launch_plainLaunch
    (Callback.fixes_fixing redacted) hlife s hs payload hrequest
  refine ⟨life, hlife, s, hs, payload, hrequest, hbears hstored, ?_⟩
  intro hsame
  obtain ⟨happ, _⟩ := hbears hstored
  rw [happ, hsame] at hversion
  cases hversion

/-- On an empty disk, and under a callback that gives every payload the same app and the same
device, a payload goes out with another app. -/
theorem what_the_callback_left_does_not_reach_a_stored_session :
    ∃ (l : Launch) (clock : Clock) (ids : Nat → SessionId) (a : Application)
      (callback : Callback SessionPayload) (fixed : Surroundings) (life : Life),
      launch l {} clock ids = .ok a ∧ a.client.pipeline.sessions.names = [] ∧
        callback.Fixes fixed ∧
        Life.Follows HostCall.sparesSessionCallbacks
          { application := (a.addSessionCallback callback).1 } life ∧
        ∃ s ∈ life.sent, ∃ payload, s.flight.request = .sessions payload ∧
          ¬ payload.Bears fixed := by
  obtain ⟨life, hlife, s, hs, payload, flush, hflight, hversion⟩ := follows_redactedLife
  refine ⟨plainLaunch, _, _, _, _, redacted, life, launch_plainLaunch, rfl,
    Callback.fixes_fixing redacted, hlife, s, hs, payload, by rw [hflight]; rfl, ?_⟩
  rintro ⟨happ, _⟩
  rw [happ] at hversion
  cases hversion

end CrashReporter
