import MessageSync.Proofs.Engine.Handlers
import MessageSync.Proofs.Engine.Runs
import MessageSync.Proofs.Link.Machine
import MessageSync.Simulation.Fixtures

/-!
# The engine at rest

The state of the connection is spread over the machine, the retry timer, the transport, the registry
and the coordinator. Between two inputs they agree: the machine is connected exactly if the link is
up, a retry is armed exactly while the machine reconnects, and while there is no connection nobody
waits for an answer of the server.

Within a step the link may break at any send. So less is kept there: an open link belongs to a
connected machine. The look at the link that ends the step makes up for the rest.
-/

namespace MessageSync

/-- A transport whose link is down after it was closed, and after an attempt to open it failed. -/
class LawfulTransport (τ : Type) [Transport τ] : Prop where
  disconnect (transport : τ) : Transport.isConnected (Transport.disconnect transport) = false
  connect_failed {transport after : τ} {url : String} {error : TransportError} :
    Transport.isConnected transport = false →
    Transport.connect transport url = (.failed error, after) → Transport.isConnected after = false

namespace Engine

variable {σ τ : Type} {before after engine : Engine σ τ}

/-- No subscribe and no sync request waits for an answer. -/
structure Quiet (engine : Engine σ τ) : Prop where
  subscribes : engine.registry.pending = .empty
  syncs : ∀ conversationId, engine.coordinator.isInFlight conversationId = false

theorem Quiet.congr (quiet : before.Quiet) (registry : after.registry = before.registry)
    (coordinator : after.coordinator = before.coordinator) : after.Quiet :=
  ⟨by rw [registry, quiet.subscribes], by rw [coordinator]; exact quiet.syncs⟩

theorem Outward.quiet (outward : Outward before after) (quiet : before.Quiet) : after.Quiet :=
  quiet.congr (by rw [outward.same]) (by rw [outward.same])

theorem Quiet.tame {coordinator : SyncCoordinator} (quiet : engine.Quiet)
    (tame : engine.coordinator.Tame coordinator) :
    Quiet { engine with coordinator } := by
  refine ⟨quiet.subscribes, ?_⟩
  intro conversationId
  rw [← Bool.not_eq_true]
  intro waits
  have waited := tame.inFlight conversationId waits
  rw [quiet.syncs] at waited
  cases waited

/-! ## What holds of the connection -/

variable [Transport τ]

/-- The engine between two inputs, when no attempt to connect is open. -/
structure AtRest (engine : Engine σ τ) : Prop where
  connected : engine.machine.state = .connected ↔ Transport.isConnected engine.transport = true
  reconnecting : (∃ attempt, engine.machine.state = .reconnecting attempt) ↔
    engine.retryAt.isSome = true ∧ engine.machine.retryScheduled = true
  armed : engine.retryAt.isSome = engine.machine.retryScheduled
  still : engine.machine.state ≠ .connecting
  quiet : engine.machine.state ≠ .connected → engine.Quiet

/-- The engine within a step, when no attempt to connect is open: the link may have broken. -/
structure Working (engine : Engine σ τ) : Prop where
  opening : engine.opening = none
  resting : engine.machine.Resting
  armed : engine.retryAt.isSome = engine.machine.retryScheduled
  link : Transport.isConnected engine.transport = true → engine.machine.isConnected = true
  quiet : engine.machine.isConnected = false → engine.Quiet

/-- The engine during an attempt to connect. -/
structure Trying (engine : Engine σ τ) : Prop where
  trying : engine.machine.Trying
  unarmed : engine.retryAt = none
  quiet : engine.Quiet

/-- Whether or not an attempt to connect is open, all is as it is to be then. -/
structure Sound (engine : Engine σ τ) : Prop where
  working : engine.opening = none → engine.Working
  trying : engine.opening ≠ none → engine.Trying

/-! ## What leaves the connection alone -/

/-- The machine and the retry timer are the same, and the link was not opened. -/
structure Steady (before after : Engine σ τ) : Prop where
  machine : after.machine = before.machine
  retryAt : after.retryAt = before.retryAt
  opening : after.opening = before.opening
  link : Transport.isConnected after.transport = true → Transport.isConnected before.transport = true

/-- Also, while there is no connection nothing is made to wait for an answer. -/
structure Calm (before after : Engine σ τ) : Prop extends Steady before after where
  quiet : before.machine.isConnected = false → before.Quiet → after.Quiet

theorem Sends.steady (sends : Sends before after) : Steady before after := by
  rw [sends.same]
  exact ⟨rfl, rfl, rfl, sends.link⟩

instance : Mild (Steady : Engine σ τ → Engine σ τ → Prop) where
  refl _ := ⟨rfl, rfl, rfl, id⟩
  trans _ _ _ first second :=
    ⟨second.machine.trans first.machine, second.retryAt.trans first.retryAt,
      second.opening.trans first.opening, fun connected => first.link (second.link connected)⟩
  outward _ _ outward := by
    rw [outward.same]
    exact ⟨rfl, rfl, rfl, id⟩
  dispatches := dispatches_of_sends fun _ _ => Sends.steady
  tame _ _ _ := ⟨rfl, rfl, rfl, id⟩

instance : Mild (Calm : Engine σ τ → Engine σ τ → Prop) where
  refl engine := ⟨refl_of Steady engine, fun _ => id⟩
  trans _ _ _ first second :=
    ⟨trans_of Steady first.toSteady second.toSteady, fun apart quiet =>
      second.quiet (by rw [first.machine, apart]) (first.quiet apart quiet)⟩
  outward _ _ outward :=
    ⟨Telling.outward _ _ outward, fun _ => outward.quiet⟩
  dispatches := dispatches_of_sends fun _ _ sends =>
    ⟨sends.steady, fun _ quiet => quiet.congr (by rw [sends.same]) (by rw [sends.same])⟩
  tame engine coordinator tame :=
    ⟨Mild.tame engine coordinator tame, fun _ quiet => quiet.tame tame⟩

/-- While there is a connection, anything may be made to wait. -/
theorem Steady.calm (steady : Steady before after)
    (connected : before.machine.isConnected = true) : Calm before after :=
  ⟨steady, fun apart => by simp [connected] at apart⟩

theorem Working.calm (working : before.Working) (calm : Calm before after) : after.Working where
  opening := calm.opening.trans working.opening
  resting := by rw [calm.machine]; exact working.resting
  armed := by rw [calm.machine, calm.retryAt]; exact working.armed
  link connected := by rw [calm.machine]; exact working.link (calm.link connected)
  quiet apart := by
    rw [calm.machine] at apart
    exact calm.quiet apart (working.quiet apart)

/-! ## Handlers that leave the connection alone -/

theorem calm_registry {registry : SubscriptionRegistry}
    (pending : engine.registry.pending = .empty → registry.pending = .empty) :
    Calm engine { engine with registry } :=
  ⟨⟨rfl, rfl, rfl, id⟩, fun _ quiet => ⟨pending quiet.subscribes, quiet.syncs⟩⟩

theorem calm_expire (instant : Instant) :
    Always Calm (onRegistry (·.expire instant) : EngineM σ τ (List String)) := by
  refine always_onRegistry fun engine => calm_registry fun none => ?_
  simp [SubscriptionRegistry.expire, none, Keyed.empty]

theorem calm_forget (conversationId : String) :
    Always Calm (onRegistry (·.unsubscribe conversationId) : EngineM σ τ Bool) := by
  refine always_onRegistry fun engine => calm_registry fun none => ?_
  simp [SubscriptionRegistry.unsubscribe, none, Keyed.erase, Keyed.empty]

theorem calm_subscribe (conversationId : String) (waiter : Waiter) :
    Always Calm (subscribe conversationId waiter : EngineM σ τ Unit) := by
  intro engine
  by_cases connected : engine.machine.isConnected = true
  · have steady : Always Steady (subscribe conversationId waiter : EngineM σ τ Unit) :=
      always_subscribe fun _ _ _ => ⟨rfl, rfl, rfl, id⟩
    exact (steady engine).calm connected
  · rw [Bool.not_eq_true] at connected
    simp only [subscribe]
    split
    · exact always_reply (by simp) engine
    · simp only [isConnected, run_bind, run_get, run_pure, connected, Bool.not_false, reduceIte]
      exact always_reply (by simp) engine

section Handlers

variable [MessageLog σ]

theorem calm_release (conversationId : String) :
    Always Calm (release conversationId : EngineM σ τ Unit) := by
  refine always_release fun engine =>
    ⟨⟨rfl, rfl, rfl, id⟩, fun _ quiet => ⟨quiet.subscribes, fun other => ?_⟩⟩
  rw [← Bool.not_eq_true]
  intro waits
  have waited := SyncCoordinator.isInFlight_untrack waits
  rw [quiet.syncs] at waited
  cases waited

theorem calm_unsubscribe (conversationId : String) :
    Always Calm (unsubscribe conversationId : EngineM σ τ Bool) :=
  always_unsubscribe (calm_forget conversationId) (calm_release conversationId)

theorem calm_sendMessage (conversationId contents : String) :
    Always Calm
      (sendMessage conversationId contents : EngineM σ τ (Except EngineError Message)) :=
  always_sendMessage (fun _ => ⟨⟨rfl, rfl, rfl, id⟩, fun _ quiet => quiet.congr rfl rfl⟩)
    fun _ _ => ⟨⟨rfl, rfl, rfl, id⟩, fun _ quiet => quiet.congr rfl rfl⟩

theorem calm_runSync (instant : Instant) (conversationId : String) :
    Always Calm (runSync instant conversationId : EngineM σ τ Unit) := by
  intro engine
  by_cases connected : engine.machine.isConnected = true
  · have steady : Always Steady (runSync instant conversationId : EngineM σ τ Unit) :=
      always_runSync (fun _ _ _ => ⟨rfl, rfl, rfl, id⟩) _
    exact (steady engine).calm connected
  · exact runSync_of_not_connected instant conversationId (Bool.not_eq_true _ ▸ connected)

theorem calm_finishTimer (firedAt : Instant) :
    Always Calm (finishTimer firedAt : EngineM σ τ Unit) :=
  always_finishTimer (calm_expire firedAt) calm_runSync

theorem steady_takeFrame (frame : Packing.Bytes) :
    Always Steady (takeFrame frame : EngineM σ τ Unit) :=
  always_takeFrame (fun _ _ _ => ⟨rfl, rfl, rfl, id⟩) (fun _ _ => ⟨rfl, rfl, rfl, id⟩)
    (fun _ _ _ => ⟨rfl, rfl, rfl, id⟩) frame

end Handlers

/-! ## Effects of the machine -/

/-- The engine with its machine moved on, and the new state published. -/
def moved (engine : Engine σ τ) (machine : ConnectionMachine) : Engine σ τ :=
  { engine with
    machine
    status := { engine.status with state := machine.state, epoch := machine.epoch } }

theorem run_handle {input : ConnectionInput} {machine : ConnectionMachine}
    {effects : List ConnectionEffect} (handled : engine.machine.handle input = (machine, effects)) :
    (handle input).run engine = (effects.contains .openTransport,
      ((effects.forM perform).run (engine.moved machine)).2) := by
  simp only [handle, run_bind, run_get, run_modify, handled]
  rfl

theorem apply_of_handle {input : ConnectionInput} {machine : ConnectionMachine}
    {effects : List ConnectionEffect} (handled : engine.machine.handle input = (machine, effects))
    (noOpening : effects.contains .openTransport = false) :
    ((apply input).run engine).2 = ((effects.forM perform).run (engine.moved machine)).2 := by
  simp only [apply, run_bind, run_handle handled, noOpening, Bool.false_eq_true, reduceIte, run_pure]

theorem apply_of_handle_opening {input : ConnectionInput} {machine : ConnectionMachine}
    {effects : List ConnectionEffect} (handled : engine.machine.handle input = (machine, effects))
    (opens : effects.contains .openTransport = true) :
    ((apply input).run engine).2 =
      (openTransport.run ((effects.forM perform).run (engine.moved machine)).2).2 := by
  simp only [apply, run_bind, run_handle handled, opens, reduceIte]

theorem run_cancelRetry :
    (perform .cancelRetry).run engine = ((), { engine with retryAt := none }) := rfl

theorem run_scheduleRetry (delay : Millis) :
    (perform (.scheduleRetry delay)).run engine =
      ((), { engine with retryAt := some (engine.clock.now + delay) }) := rfl

theorem run_closeTransport :
    (perform .closeTransport).run engine =
      ((), { engine with
        transport := Transport.disconnect engine.transport
        stanzas := .start }) := rfl

/-- Giving up on what waits changes the registry and the schedules, and puts something out. -/
theorem same_abandonPending (engine : Engine σ τ) :
    ((perform .abandonPending).run engine).2 = { engine with
      registry := (engine.registry.abandonPending .connectionLost).2
      coordinator := (engine.coordinator.abandonInFlight .notConnected engine.clock.now).2.2
      status := ((perform .abandonPending).run engine).2.status
      outputs := ((perform .abandonPending).run engine).2.outputs } := by
  simp only [perform, onRegistry, now, run_bind, run_get, run_modify, run_pure]
  have answered := (outward_answerSubscribes
    (engine.registry.abandonPending .connectionLost).1
    { engine with registry := (engine.registry.abandonPending .connectionLost).2 }).same
  generalize ((answerSubscribes _).run _).2 = emptied at answered ⊢
  have told (answers : List SyncAnswer) (conversationIds : List String) : Always Outward (do
      answerSyncs answers
      conversationIds.forM publishSyncError : EngineM σ τ Unit) :=
    .bind (outward_answerSyncs answers) fun _ => .forM fun _ _ => outward_publishSyncError _
  refine (told _ _ _).same.trans ?_
  rw [answered]
  rfl

/-- Giving up on what waits leaves nothing that waits. -/
theorem perform_abandonPending (engine : Engine σ τ) :
    Steady engine ((perform .abandonPending).run engine).2 ∧
      ((perform .abandonPending).run engine).2.Quiet := by
  rw [same_abandonPending]
  exact ⟨⟨rfl, rfl, rfl, id⟩, ⟨rfl, SyncCoordinator.isInFlight_abandonInFlight⟩⟩

theorem steady_greets : Always Steady
    ([.handshake, .resubscribe, .syncAll].forM perform : EngineM σ τ Unit) := by
  refine .forM fun effect mem => ?_
  simp only [List.mem_cons, List.not_mem_nil, or_false] at mem
  rcases mem with rfl | rfl | rfl
  · exact always_sendHandshake
  · exact .bind .get fun _ => .forM fun _ _ => always_sendSubscribe _
  · exact .bind always_now fun _ => always_onCoordinator fun _ => SyncCoordinator.hushed_triggerAll

/-! ## Attempts to connect -/

theorem Sound.of_working (working : engine.Working) : engine.Sound :=
  ⟨fun _ => working, fun opening => absurd working.opening opening⟩

omit [Transport τ] in
theorem Trying.congr (trying : before.Trying) (machine : after.machine = before.machine)
    (retryAt : after.retryAt = before.retryAt) (registry : after.registry = before.registry)
    (coordinator : after.coordinator = before.coordinator) : after.Trying :=
  ⟨by rw [machine]; exact trying.trying, by rw [retryAt]; exact trying.unarmed,
    trying.quiet.congr registry coordinator⟩

omit [Transport τ] in
theorem Trying.setLastError (trying : engine.Trying) (error : Option String) :
    Trying ((setLastError error).run engine).2 :=
  trying.congr rfl rfl rfl rfl

theorem Trying.failed (trying : engine.Trying) (opening : engine.opening = none)
    (down : Transport.isConnected engine.transport = false) :
    Working ((handle .openFailed).run engine).2 := by
  rcases trying.trying.handle_openFailed with ⟨next, delay, handled, resting, apart, scheduled⟩
  rw [run_handle handled]
  simp only [run_forM_cons, run_forM_nil, run_scheduleRetry]
  refine ⟨opening, resting, scheduled.symm, ?_, fun _ => trying.quiet.congr rfl rfl⟩
  intro connected
  cases connected.symm.trans down

theorem Trying.opened (trying : engine.Trying) (opening : engine.opening = none) :
    Working ((handle .opened).run engine).2 := by
  rcases trying.trying.handle_opened with ⟨next, handled, resting, connected, unscheduled⟩
  have working : (engine.moved next).Working := {
    opening := opening
    resting := resting
    armed := by simp [moved, trying.unarmed, unscheduled]
    link := fun _ => connected
    quiet := fun apart => by simp [moved, connected] at apart }
  rw [run_handle handled]
  exact working.calm ((steady_greets _).calm connected)

theorem Trying.openTransport [LawfulTransport τ] (trying : engine.Trying)
    (opening : engine.opening = none) (down : Transport.isConnected engine.transport = false) :
    Sound (openTransport.run engine).2 := by
  simp only [Engine.openTransport, run_bind, run_get, run_set]
  cases attempt : Transport.connect engine.transport engine.url with
  | mk outcome transport =>
  cases outcome with
  | opened =>
      have trying : Trying { engine with transport } := trying.congr rfl rfl rfl rfl
      exact .of_working ((trying.setLastError none).opened opening)
  | failed error =>
      have trying : Trying { engine with transport } := trying.congr rfl rfl rfl rfl
      exact .of_working ((trying.setLastError _).failed opening
        (LawfulTransport.connect_failed down attempt))
  | unanswered => exact ⟨nofun, fun _ => trying.congr rfl rfl rfl rfl⟩

theorem Trying.abandonOpening [LawfulTransport τ] (trying : engine.Trying) (attempt : Opening) :
    Working ((abandonOpening attempt).run engine).2 := by
  let closed : Engine σ τ :=
    { engine with opening := none, transport := Transport.disconnect engine.transport }
  have trying : closed.Trying := trying.congr rfl rfl rfl rfl
  exact (trying.setLastError _).failed rfl (LawfulTransport.disconnect _)

/-! ## Inputs of the machine -/

theorem Working.moved (working : engine.Working) : (engine.moved engine.machine).Working :=
  ⟨working.opening, working.resting, working.armed, working.link,
    fun apart => (working.quiet apart).congr rfl rfl⟩

theorem Working.unarmed (working : engine.Working)
    (unscheduled : engine.machine.retryScheduled = false) : engine.retryAt = none := by
  have armed := working.armed
  rw [unscheduled] at armed
  simpa using armed

theorem Working.down (working : engine.Working) (apart : engine.machine.isConnected = false) :
    Transport.isConnected engine.transport = false := by
  rw [← Bool.not_eq_true]
  intro up
  cases (working.link up).symm.trans apart

theorem Working.connectRequested [LawfulTransport τ] (working : engine.Working) :
    Sound ((apply .connectRequested).run engine).2 := by
  rcases working.resting.handle_connectRequested with
    handled | ⟨apart, unscheduled, next, handled, trying⟩
  · rw [apply_of_handle handled rfl]
    exact .of_working working.moved
  · rw [apply_of_handle_opening handled rfl]
    have trying : (engine.moved next).Trying :=
      ⟨trying, working.unarmed unscheduled, (working.quiet apart).congr rfl rfl⟩
    exact trying.openTransport working.opening (working.down apart)

theorem Working.networkOnline [LawfulTransport τ] (working : engine.Working) :
    Sound ((apply .networkOnline).run engine).2 := by
  rcases working.resting.handle_networkOnline with handled | ⟨apart, next, handled, trying⟩
  · rw [apply_of_handle handled rfl]
    exact .of_working working.moved
  · rw [apply_of_handle_opening handled rfl]
    have trying : Trying { (engine.moved next : Engine σ τ) with retryAt := none } :=
      ⟨trying, rfl, (working.quiet apart).congr rfl rfl⟩
    exact trying.openTransport working.opening (working.down apart)

/-- The retry that is due is taken off the timer first. -/
theorem Working.retryDue [LawfulTransport τ] (working : engine.Working)
    (armed : engine.retryAt.isSome = true) :
    Sound ((apply .retryDue).run { engine with retryAt := none }).2 := by
  have scheduled : engine.machine.retryScheduled = true := working.armed.symm.trans armed
  rcases working.resting.handle_retryDue scheduled with ⟨apart, next, handled, trying⟩
  have handled : ({ engine with retryAt := none } : Engine σ τ).machine.handle .retryDue =
      (next, [.openTransport]) := handled
  rw [apply_of_handle_opening handled rfl]
  have trying : Trying (({ engine with retryAt := none } : Engine σ τ).moved next) :=
    ⟨trying, rfl, (working.quiet apart).congr rfl rfl⟩
  exact trying.openTransport working.opening (working.down apart)

theorem Working.disconnectRequested [LawfulTransport τ] (working : engine.Working) :
    Working ((apply .disconnectRequested).run engine).2 := by
  rcases engine.machine.handle_disconnectRequested with
    handled | ⟨next, handled, resting, apart, unscheduled⟩
  · rw [apply_of_handle handled rfl]
    exact working.moved
  · rw [apply_of_handle handled rfl]
    simp only [run_forM_cons, run_forM_nil, run_cancelRetry, run_closeTransport]
    rcases perform_abandonPending { (engine.moved next : Engine σ τ) with retryAt := none } with
      ⟨steady, quiet⟩
    generalize ((perform .abandonPending : EngineM σ τ Unit).run _).2 = abandoned
      at steady quiet ⊢
    refine ⟨steady.opening.trans working.opening, ?_, ?_, ?_, fun _ => quiet.congr rfl rfl⟩
    · exact steady.machine.symm ▸ resting
    · rw [steady.machine, steady.retryAt]
      exact unscheduled.symm
    · intro connected
      cases connected.symm.trans (LawfulTransport.disconnect _)

theorem Working.closed (working : engine.Working)
    (down : Transport.isConnected engine.transport = false) :
    Working ((apply .closed).run engine).2 ∧
      ((apply .closed).run engine).2.machine.isConnected = false := by
  rcases working.resting.handle_closed with
    ⟨handled, apart⟩ | ⟨-, next, delay, handled, resting, apart, scheduled⟩
  · rw [apply_of_handle handled rfl]
    exact ⟨working.moved, apart⟩
  · rw [apply_of_handle handled rfl]
    rcases perform_abandonPending (engine.moved next) with ⟨steady, quiet⟩
    simp only [run_forM_cons, run_forM_nil, run_scheduleRetry]
    generalize ((perform .abandonPending).run (engine.moved next)).2 = abandoned at steady quiet ⊢
    have apart : abandoned.machine.isConnected = false := by rw [steady.machine]; exact apart
    refine ⟨⟨steady.opening.trans working.opening, ?_, ?_, ?_, fun _ => quiet.congr rfl rfl⟩,
      apart⟩
    · exact steady.machine.symm ▸ resting
    · rw [steady.machine]
      exact scheduled.symm
    · intro connected
      cases (steady.link connected).symm.trans down

/-! ## Steps -/

theorem Working.atRest (working : engine.Working)
    (up : engine.machine.isConnected = true → Transport.isConnected engine.transport = true) :
    engine.AtRest where
  connected := by
    rw [← ConnectionMachine.isConnected_iff]
    exact ⟨up, working.link⟩
  reconnecting := by
    rw [← working.resting.scheduled, working.armed, and_self]
  armed := working.armed
  still := working.resting.still
  quiet apart := by
    rw [ne_eq, ← ConnectionMachine.isConnected_iff, Bool.not_eq_true] at apart
    exact working.quiet apart

theorem AtRest.working (atRest : engine.AtRest) (opening : engine.opening = none) :
    engine.Working where
  opening := opening
  resting := by
    refine ⟨atRest.still, ?_⟩
    rw [atRest.reconnecting, atRest.armed, and_self]
  armed := atRest.armed
  link up := ConnectionMachine.isConnected_iff.mpr (atRest.connected.mpr up)
  quiet apart := by
    apply atRest.quiet
    rw [ne_eq, ← ConnectionMachine.isConnected_iff, Bool.not_eq_true]
    exact apart

/-- The look at the link after an input brings the engine to rest. -/
theorem Working.noticeBrokenLink (working : engine.Working) :
    Working (noticeBrokenLink.run engine).2 ∧ AtRest (noticeBrokenLink.run engine).2 := by
  simp only [Engine.noticeBrokenLink, isConnected, linkUp, run_bind, run_get, run_pure]
  by_cases broken : (engine.machine.isConnected && !Transport.isConnected engine.transport) = true
  · simp only [broken, reduceIte]
    rw [Bool.and_eq_true, Bool.not_eq_true'] at broken
    rcases working.closed broken.2 with ⟨working, apart⟩
    exact ⟨working, working.atRest fun connected => by rw [apart] at connected; cases connected⟩
  · simp only [broken, Bool.false_eq_true, reduceIte]
    refine ⟨working, working.atRest fun connected => ?_⟩
    simpa [connected] using broken

theorem Sound.reply (sound : engine.Sound) (waiter : Waiter) (answer : Reply) :
    Sound ((reply waiter answer).run engine).2 :=
  ⟨fun opening =>
      (sound.working opening).calm ⟨⟨rfl, rfl, rfl, id⟩, fun _ quiet => quiet.congr rfl rfl⟩,
    fun opening => (sound.trying opening).congr rfl rfl rfl rfl⟩

variable [MessageLog σ]

theorem Sound.goOnWithTimer (sound : engine.Sound) (instant : Instant) :
    Sound ((goOnWithTimer instant).run engine).2 := by
  simp only [Engine.goOnWithTimer, run_bind, run_get]
  cases opening : engine.opening with
  | none => exact .of_working ((sound.working opening).calm (calm_finishTimer instant engine))
  | some attempt =>
      have trying := sound.trying (by simp [opening])
      exact ⟨nofun, fun _ => trying.congr rfl rfl rfl rfl⟩

variable [LawfulTransport τ]

theorem Working.handleCommand (working : engine.Working) (command : Command) :
    Sound ((handleCommand command).run engine).2 := by
  cases command with
  | connect => exact working.connectRequested
  | networkOnline => exact working.networkOnline
  | disconnect waiter => exact (Sound.of_working working.disconnectRequested).reply _ _
  | subscribe conversationId waiter =>
      exact .of_working (working.calm (calm_subscribe conversationId waiter engine))
  | unsubscribe conversationId waiter =>
      exact (Sound.of_working (working.calm (calm_unsubscribe conversationId engine))).reply _ _
  | isSubscribed conversationId waiter => exact (Sound.of_working working).reply _ _
  | send envelope waiter =>
      have calm : Calm engine ((dispatch envelope).run engine).2 :=
        Outspoken.dispatches envelope engine
      exact (Sound.of_working (working.calm calm)).reply _ _
  | sendMessage conversationId contents waiter =>
      exact (Sound.of_working
        (working.calm (calm_sendMessage conversationId contents engine))).reply _ _
  | syncNow conversationId waiter =>
      exact .of_working (working.calm (always_syncNow conversationId waiter engine))
  | messages conversationId waiter => exact (Sound.of_working working).reply _ _

theorem Working.onTimer (working : engine.Working) : Sound (onTimer.run engine).2 := by
  rw [run_onTimer]
  split
  · next due =>
      have armed : engine.retryAt.isSome = true := by
        rcases (Option.any_eq_true _ _).mp due with ⟨retryAt, held, -⟩
        rw [held]
        rfl
      exact (working.retryDue armed).goOnWithTimer engine.clock.now
  · exact (Sound.of_working working).goOnWithTimer engine.clock.now

theorem Trying.onOpeningOver (trying : engine.Trying) {attempt : Opening}
    (opening : engine.opening = some attempt) : Working (onOpeningOver.run engine).2 := by
  have working := trying.abandonOpening attempt
  simp only [Engine.onOpeningOver, run_bind, run_get, opening]
  split
  · exact working.calm (calm_finishTimer _ _)
  · exact working

/-- The link when an input comes: it may have broken while the engine waited, but it was not opened.
A frame comes over an open link, and a link that is found closed or broken is down. -/
def Carries (before : Engine σ τ) (input : Input) (found : Engine σ τ) : Prop :=
  match input with
  | .command _ | .timer => Transport.isConnected found.transport = true →
      Transport.isConnected before.transport = true
  | .frame _ => Transport.isConnected before.transport = true
  | .closed | .receiveFailed _ => Transport.isConnected before.transport = true ∧
      Transport.isConnected found.transport = false
  | .openingOver => True

/-- Inputs come as the engine takes them, over a link that only breaks behind its back. -/
structure ComesLinked (before : Engine σ τ) (input : Input) (found : Engine σ τ) : Prop extends
    Arrives before input found where
  carries : Carries before input found

/-! ## Runs -/

/-- Between two inputs the engine is at rest, or makes an attempt to connect. -/
structure Rests (engine : Engine σ τ) : Prop where
  atRest : engine.opening = none → engine.AtRest
  trying : engine.opening ≠ none → engine.Trying

omit [LawfulTransport τ] in
theorem Sound.rests {input : Input} (sound : Sound ((Engine.take input).run engine).2) :
    Rests ((step input).run engine).2 := by
  rw [run_step]
  generalize ((Engine.take input).run engine).2 = taken at sound ⊢
  split
  · next none =>
      rcases (sound.working (by simpa using none)).noticeBrokenLink with ⟨working, atRest⟩
      exact ⟨fun _ => atRest, fun opening => absurd working.opening opening⟩
  · next opening =>
      have opening : taken.opening ≠ none := by simpa using opening
      exact ⟨fun none => absurd none opening, sound.trying⟩

omit [MessageLog σ] [LawfulTransport τ] in
/-- What is not the engine's own does not matter, apart from the link. -/
theorem Working.found (working : before.Working) {found : Engine σ τ}
    (drifts : Drifts before found)
    (link : Transport.isConnected found.transport = true → before.machine.isConnected = true) :
    found.Working where
  opening := by rw [drifts]; exact working.opening
  resting := by rw [drifts]; exact working.resting
  armed := by rw [drifts]; exact working.armed
  link up := by rw [drifts]; exact link up
  quiet apart := by
    rw [drifts] at apart
    exact (working.quiet apart).congr (by rw [drifts]) (by rw [drifts])

theorem Rests.take (rests : before.Rests) {input : Input} {found : Engine σ τ}
    (comes : ComesLinked before input found) : Sound ((Engine.take input).run found).2 := by
  cases opening : before.opening with
  | some attempt =>
      obtain rfl := comes.awaited.mp (by rw [opening]; rfl)
      have trying := rests.trying (by simp [opening])
      have foundTrying : found.Trying := by
        apply trying.congr <;> rw [comes.drifts]
      have foundOpening : found.opening = some attempt := by rw [comes.drifts, opening]
      exact .of_working (foundTrying.onOpeningOver foundOpening)
  | none =>
  have working := (rests.atRest opening).working opening
  have carries := comes.carries
  cases input with
  | command command =>
      exact (working.found comes.drifts fun up => working.link (carries up)).handleCommand command
  | timer => exact (working.found comes.drifts fun up => working.link (carries up)).onTimer
  | frame content =>
      have connected := working.link carries
      -- The link may break while the frame is handled, but the machine stays connected until the
      -- look at the link.
      have foundConnected : found.machine.isConnected = true := by rw [comes.drifts]; exact connected
      have foundWorking := working.found comes.drifts fun _ => connected
      exact .of_working (foundWorking.calm ((steady_takeFrame content found).calm foundConnected))
  | closed =>
      have foundWorking := working.found comes.drifts fun _ => working.link carries.1
      exact .of_working (foundWorking.closed carries.2).1
  | receiveFailed error =>
      have foundWorking := working.found comes.drifts fun _ => working.link carries.1
      have told := foundWorking.calm (Telling.outward _ _ (outward_setLastError (some error.message) found))
      exact .of_working (told.closed carries.2).1
  | openingOver =>
      have attempted := comes.awaited.mpr rfl
      rw [opening] at attempted
      cases attempted

/-- Between two inputs an engine whose transport was not connected before is at rest, unless it
waits for the answer to an attempt to connect. -/
theorem atRest_of_runs {settings : Settings} {transport : τ} {log : σ} {clock : Clock}
    {first : Engine σ τ} (started : start settings transport log clock = .ok first)
    (down : Transport.isConnected transport = false) (runs : Runs ComesLinked first engine)
    (opening : engine.opening = none) : engine.AtRest := by
  have fresh := fresh_of_start started
  have initially : first.Rests := by
    rcases fresh.machine with ⟨backoff, machine⟩
    have working : first.Working := {
      opening := fresh.opening
      resting := machine ▸ ConnectionMachine.resting_start backoff
      armed := by rw [fresh.retryAt, machine]; rfl
      link := fun up => by rw [fresh.transport, down] at up; cases up
      quiet := fun _ => ⟨fresh.registry, fresh.waits⟩ }
    refine ⟨fun _ => working.atRest ?_, fun opening => absurd fresh.opening opening⟩
    intro connected
    rw [machine] at connected
    cases connected
  have rests := runs.keeps initially fun before input found rests comes => (rests.take comes).rests
  exact rests.atRest opening

instance : LawfulTransport ScriptedTransport where
  disconnect _ := rfl
  connect_failed {transport after url error} down attempt := by
    change transport.connect = (.failed error, after) at attempt
    change transport.connected = false at down
    change after.connected = false
    simp only [ScriptedTransport.connect] at attempt
    split at attempt
    · cases attempt
      exact down
    · split at attempt
      · cases attempt
      · split at attempt
        · cases attempt
          exact down
        · cases attempt

/-- An engine that finds no server. -/
def deserted : Except StartError (Engine Store ScriptedTransport) :=
  start Settings.standard { unreachable := true } Store.empty ⟨0, default⟩

theorem atRest_deserted : ∃ first engine, deserted = .ok first ∧ Runs ComesLinked first engine ∧
    engine.machine.state = .reconnecting 1 ∧ engine.retryAt = some 1000 ∧ engine.AtRest := by
  have left : deserted.toOption.map (fun first =>
      let engine := ((step (.command .connect)).run first).2
      (engine.opening.isNone, engine.machine.state, engine.retryAt)) =
        some (true, .reconnecting 1, some 1000) := by decide +kernel
  rcases exists_of_toOption_map left with ⟨first, started, same⟩
  simp only [Prod.mk.injEq] at same
  rcases same with ⟨opening, state, retryAt⟩
  have fresh := fresh_of_start started
  have comes : ComesLinked first (.command .connect) first := ⟨⟨rfl, by simp [fresh.opening]⟩, id⟩
  have runs : Runs ComesLinked first ((step (.command .connect)).run first).2 := .next .initial comes
  exact ⟨first, _, started, runs, state, retryAt,
    atRest_of_runs started rfl runs (by simpa using opening)⟩

end Engine

end MessageSync
