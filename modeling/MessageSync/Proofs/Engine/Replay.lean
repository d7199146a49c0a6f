import MessageSync.Proofs.Engine.Sessions
import MessageSync.Proofs.Engine.Subscriptions

/-!
# What a connection starts with

Once a connection is open, the engine greets the server and subscribes to every retained conversation
again, before it sends anything else. After that every tracked conversation is to sync at once.
-/

namespace MessageSync

/-- The frames of the envelopes, numbered one after the other. -/
def StanzaTracker.frames (tracker : StanzaTracker) : List Envelope → List Packing.Bytes
  | [] => []
  | envelope :: later =>
    { envelope with stanzaId := tracker.take.1 }.frame :: frames tracker.take.2 later

/-- The envelope that subscribes to a conversation. -/
def Envelope.subscription (conversationId : String) : Envelope :=
  .ofRecord Subscribe.layout conversationId .subscribe ⟨conversationId⟩

/-- The link is up whenever one of the frames is to be sent, as it is if they are all sent without an
error. -/
def StaysUp {τ : Type} [Transport τ] : τ → List Packing.Bytes → Prop
  | _, [] => True
  | transport, frame :: later =>
    Transport.isConnected transport = true ∧ StaysUp (Transport.send transport frame).2 later

theorem Envelope.validate_subscription {conversationId : String} (named : conversationId ≠ "") :
    (Envelope.subscription conversationId).validate = .ok () := by
  simp [subscription, ofRecord, Envelope.of, validate, named]

namespace Engine

variable {σ τ : Type}

/-- What is to be sent first over a new connection. -/
def greeting (engine : Engine σ τ) : List Envelope :=
  .handshake engine.features engine.stanzas.lastServer ::
    engine.registry.retained.map .subscription

variable [Transport τ] {engine found tried : Engine σ (Recorder τ)} {input : Input}

/-! ## Sending one after the other -/

theorem same_foldl_handedOver (envelopes : List Envelope) :
    envelopes.foldl handedOver engine = { engine with
      stanzas := (envelopes.foldl handedOver engine).stanzas
      transport := (envelopes.foldl handedOver engine).transport } := by
  induction envelopes generalizing engine with
  | nil => rfl
  | cons envelope later same => exact same

theorem calls_foldl_handedOver (envelopes : List Envelope) :
    (envelopes.foldl handedOver engine).transport.calls =
      engine.transport.calls ++ (engine.stanzas.frames envelopes).map .send := by
  induction envelopes generalizing engine with
  | nil => exact (List.append_nil _).symm
  | cons envelope later called =>
      rw [List.foldl_cons, called]
      exact List.append_assoc _ [_] _

theorem run_forM_sendSubscribe {conversationIds : List String}
    (connected : engine.machine.isConnected = true)
    (named : ∀ conversationId ∈ conversationIds, conversationId ≠ "")
    (up : StaysUp engine.transport.inner
      (engine.stanzas.frames (conversationIds.map .subscription))) :
    ((conversationIds.forM sendSubscribe).run engine).2 =
      (conversationIds.map Envelope.subscription).foldl handedOver engine := by
  induction conversationIds generalizing engine with
  | nil => rfl
  | cons conversationId later sent =>
      have here : ((sendSubscribe conversationId).run engine).2 =
          engine.handedOver (.subscription conversationId) :=
        run_dispatch_of_valid connected up.1
          (Envelope.validate_subscription (named _ List.mem_cons_self))
      rw [run_forM_cons, here]
      exact sent connected (fun other mem => named other (List.mem_cons_of_mem _ mem)) up.2

theorem run_greets (connected : engine.machine.isConnected = true) (sound : engine.registry.Sound)
    (up : StaysUp engine.transport.inner (engine.stanzas.frames engine.greeting)) :
    (([.handshake, .resubscribe, .syncAll].forM perform : EngineM σ (Recorder τ) Unit).run
        engine).2 =
      let sent := engine.greeting.foldl handedOver engine
      { sent with coordinator := sent.coordinator.triggerAll sent.clock.now } := by
  have greets : ((perform .handshake).run engine).2 =
      engine.handedOver (.handshake engine.features engine.stanzas.lastServer) := by
    change ((dispatch (.handshake engine.features engine.stanzas.lastServer)).run engine).2 = _
    exact run_dispatch_of_valid connected up.1 rfl
  let greeted := engine.handedOver (.handshake engine.features engine.stanzas.lastServer)
  have replays : ((engine.registry.retained.forM sendSubscribe).run greeted).2 =
      (engine.registry.retained.map Envelope.subscription).foldl handedOver greeted :=
    run_forM_sendSubscribe connected (fun _ mem => sound.ne_of_mem_retained mem) up.2
  rw [run_forM_cons, greets, run_forM_cons]
  change ((perform .syncAll).run ((engine.registry.retained.forM sendSubscribe).run _).2).2 = _
  rw [replays]
  rfl

/-- A transport that opens and stays up is asked for nothing but what greets the server, and every
conversation is made due. -/
theorem greets_openTransport (underway : tried.machine.Underway) (sound : tried.registry.Sound)
    (opened : (Transport.connect tried.transport.inner tried.url).1 = .opened)
    (up : StaysUp (Transport.connect tried.transport.inner tried.url).2
      (tried.stanzas.frames tried.greeting)) :
    let left := (openTransport.run tried).2
    left.transport.calls = tried.transport.calls ++
        .connect .opened :: (tried.stanzas.frames tried.greeting).map .send ∧
      left.coordinator = tried.coordinator.triggerAll tried.clock.now := by
  rcases attempt : Transport.connect tried.transport.inner tried.url with ⟨outcome, inner⟩
  rw [attempt] at opened up
  obtain rfl : outcome = .opened := opened
  have connects : Transport.connect tried.transport tried.url =
      (.opened, tried.transport.after (.connect .opened) inner) := by
    rw [Recorder.connect_eq, attempt]
  rcases run_openTransport_of_opened underway connects with ⟨machine, status, connected, left⟩
  let fresh : Engine σ (Recorder τ) := { tried with
    transport := tried.transport.after (.connect .opened) inner, machine, status }
  have greets : (([.handshake, .resubscribe, .syncAll].forM perform).run fresh).2 = _ :=
    run_greets connected sound up
  rw [left, greets]
  refine ⟨(calls_foldl_handedOver _).trans (List.append_assoc _ [_] _), ?_⟩
  rw [same_foldl_handedOver]

/-! ## Steps that open a connection -/

variable [MessageLog σ]

/-- A step that opens a connection asks nothing of the transport before that. -/
theorem attempts_of_opened {earlier later : List TransportCall} (stays : ¬Closes input found)
    (apart : found.opening.isSome = true → found.machine.isConnected = false)
    (opened : callsSince found ((step input).run found).2 = earlier ++ .connect .opened :: later) :
    earlier = [] ∧ ∃ tried more, Attempts input found tried ∧
      (Transport.connect found.transport.inner found.url).1 = .opened ∧
      ((step input).run found).2.transport.calls = (told input found).transport.calls ++ more := by
  rcases speaks_step stays apart with speaks | ⟨tried, attempts, speaks⟩
  · rcases speaks.accounts with ⟨calls, apart, accounts⟩
    have same : (heard input found).transport = found.transport := by rw [same_heard]
    rw [callsSince_of_append (same ▸ accounts.made)] at opened
    exact absurd (by rw [opened]; simp) (apart .opened)
  · obtain ⟨machine, status, retryAt, rfl⟩ : ∃ machine status retryAt,
        tried = { found with machine, status, retryAt } := ⟨_, _, _, attempts.same⟩
    rcases accounts_openTransport attempts.underway with ⟨opening, others, opens⟩
    rcases speaks.accounts with ⟨calls, apart, accounts⟩
    have made := accounts.made
    rw [attempts.opens, opens.made, List.append_assoc] at made
    have since : callsSince found ((step input).run found).2 = _ := callsSince_of_append made
    rw [since] at opened
    cases earlier with
    | nil =>
        rw [List.nil_append, List.cons_append, List.cons.injEq,
          TransportCall.connect.injEq] at opened
        exact ⟨rfl, _, calls, attempts, opened.1, accounts.made⟩
    | cons first earlier =>
        -- After the transport was opened, a step does not open it again.
        rw [List.cons_append, List.cons_append, List.cons.injEq] at opened
        have mem : .connect .opened ∈ opening ++ calls := by
          rw [opened.2]
          simp
        exact absurd mem fun mem => (List.mem_append.mp mem).elim (others _) (apart _)

/-- When a connection is opened in a run and the link stays up, the engine greets the server and
subscribes to every retained conversation, in order, before it asks anything else of the transport.
The retained conversations are those that are active and those whose subscribe was cut off when a
connection went away and that were not forgotten since. Then every tracked conversation that waits for
no answer is to sync at once. -/
theorem replay_of_opened {settings : Settings} {transport : τ} {log : σ} {clock : Clock}
    {comes : Engine σ (Recorder τ) → Input → Engine σ (Recorder τ) → Prop}
    {first : Engine σ (Recorder τ)} {past : List (Taken σ (Recorder τ))}
    {earlier later : List TransportCall}
    (started : start settings (⟨transport, []⟩ : Recorder τ) log clock = .ok first)
    (arrives : ∀ before input found, comes before input found → Arrives before input found)
    (took : Took comes first engine past) (arrival : comes engine input found)
    (opened : callsSince found ((step input).run found).2 = earlier ++ .connect .opened :: later)
    (up : StaysUp (Transport.connect found.transport.inner found.url).2
      (found.stanzas.frames found.greeting)) :
    (earlier = [] ∧ ∃ more, later = (found.stanzas.frames found.greeting).map .send ++ more) ∧
    found.registry.retained.Pairwise (· < ·) ∧
    (∀ conversationId, conversationId ∈ found.registry.retained ↔
      found.registry.isSubscribed conversationId = true ∨
        Interrupted past conversationId) ∧
    ∀ conversationId, (told input found).coordinator.isTracked conversationId = true →
      (told input found).coordinator.isInFlight conversationId = false →
        conversationId ∈ (told input found).coordinator.due found.clock.now := by
  have drift (before : Engine σ (Recorder τ)) input found (arrival : comes before input found) :
      Drifts before found := (arrives before input found arrival).drifts
  have drifts := drift _ _ _ arrival
  have orderly : found.Orderly := (orderly_of_runs started drift took.runs).drift drifts
  rcases exists_session took.runs with ⟨events, session⟩
  rcases session.keeps arrives (noted_of_start started) with ⟨ledger, -, noted⟩
  have apart := (noted.drift drifts).apart
  have stays : ¬Closes input found := by
    intro closes
    rw [callsSince_of_append (step_of_closes closes).1] at opened
    cases earlier with
    | nil => cases opened
    | cons first earlier => simp at opened
  rcases attempts_of_opened stays apart opened with ⟨rfl, tried, more, attempts, opens, made⟩
  -- The engine that opens its transport has the registry and the schedules of the one that was found.
  obtain ⟨machine, status, retryAt, rfl⟩ : ∃ machine status retryAt,
      tried = { found with machine, status, retryAt } := ⟨_, _, _, attempts.same⟩
  have greets := greets_openTransport attempts.underway orderly.sound opens up
  rw [← attempts.opens] at greets
  rcases greets with ⟨greeted, triggered⟩
  refine ⟨⟨rfl, more, ?_⟩, orderly.sound.retained_sorted, fun conversationId => ?_,
    fun conversationId => ?_⟩
  · rw [greeted, List.append_assoc] at made
    have since : callsSince found ((step input).run found).2 = _ := callsSince_of_append made
    rw [since] at opened
    exact (List.cons.inj opened).2.symm
  · have same : found.registry = engine.registry := by rw [drifts]
    rw [SubscriptionRegistry.mem_retained, same, ← isInterrupted_iff started drift took]
  · rw [triggered]
    exact SyncCoordinator.mem_due_triggerAll

theorem staysUp_of_connected {transport : ScriptedTransport} (connected : transport.connected = true)
    (reliable : transport.sendsFail = false) (frames : List Packing.Bytes) :
    StaysUp transport frames := by
  induction frames generalizing transport with
  | nil => trivial
  | cons frame later stays =>
      have sent : (Transport.send transport frame).2 =
          { transport with sent := transport.sent ++ [frame] } := by
        change (transport.send frame).2 = _
        simp [ScriptedTransport.send, connected, reliable]
      exact ⟨connected, by rw [sent]; exact stays connected reliable⟩

/-- The engine after a subscribe was sent. -/
def subscribing (first : Engine Store (Recorder ScriptedTransport)) :
    Engine Store (Recorder ScriptedTransport) :=
  ((step (.command (.subscribe "c1" 0))).run ((step (.command .connect)).run first).2).2

/-- The engine when it is time to connect again, after the connection was lost while the subscribe
waited. -/
def resuming (first : Engine Store (Recorder ScriptedTransport)) :
    Engine Store (Recorder ScriptedTransport) :=
  { ((step .closed).run (subscribing first)).2 with clock := ⟨1000, default⟩ }

/-- What it takes to follow the engine through a lost connection: no attempt to connect is left
without an answer, the transport opens and stays up, and what there is to replay. -/
theorem opened_resuming : ∃ first, recorded = .ok first ∧
    let attempt := (resuming first).transport.inner.connect
    let coordinator := (told .timer (resuming first)).coordinator
    ((step (.command .connect)).run first).2.opening.isSome = false ∧
      (subscribing first).opening.isSome = false ∧ (resuming first).opening.isSome = false ∧
      attempt.2.connected = true ∧ attempt.2.sendsFail = false ∧
      (resuming first).registry.isSubscribed "c1" = false ∧ coordinator.isTracked "c1" = true ∧
      coordinator.isInFlight "c1" = false ∧
      (callsSince (resuming first) ((step .timer).run (resuming first)).2).head? =
        some (.connect .opened) ∧
      (resuming first).features = ["sync", "subscriptions"] ∧
      (resuming first).registry.retained = ["c1"] ∧ (resuming first).stanzas = ⟨3, 0⟩ := by
  have left : recorded.toOption.map (fun first =>
      let attempt := (resuming first).transport.inner.connect
      let coordinator := (told .timer (resuming first)).coordinator
      ([((step (.command .connect)).run first).2.opening.isSome, (subscribing first).opening.isSome,
          (resuming first).opening.isSome, attempt.2.connected, attempt.2.sendsFail,
          (resuming first).registry.isSubscribed "c1", coordinator.isTracked "c1",
          coordinator.isInFlight "c1"],
        (callsSince (resuming first) ((step .timer).run (resuming first)).2).head?,
        [(resuming first).features, (resuming first).registry.retained],
        (resuming first).stanzas)) =
      some ([false, false, false, true, false, false, true, false], some (.connect .opened),
        [["sync", "subscriptions"], ["c1"]], ⟨3, 0⟩) := by
    decide +kernel
  rcases exists_of_toOption_map left with ⟨first, started, same⟩
  simp only [Prod.mk.injEq, List.cons.injEq, and_true] at same
  rcases same with ⟨⟨linked, asked, resumed, up, reliable, inactive, tracked, rests⟩, opened,
    ⟨features, retained⟩, stanzas⟩
  exact ⟨first, started, linked, asked, resumed, up, reliable, inactive, tracked, rests, opened,
    features, retained, stanzas⟩

theorem replay_of_opened_resuming : ∃ first past, recorded = .ok first ∧
    Took Arrives first ((step .closed).run (subscribing first)).2 past ∧
    (∃ more, callsSince (resuming first) ((step .timer).run (resuming first)).2 =
      .connect .opened :: (StanzaTracker.frames ⟨3, 0⟩
        [.handshake ["sync", "subscriptions"] 0, .subscription "c1"]).map .send ++ more) ∧
    Interrupted past "c1" ∧ "c1" ∈ (told .timer (resuming first)).coordinator.due 1000 := by
  rcases opened_resuming with ⟨first, started, linked, asked, resumed, up, reliable, inactive,
    tracked, rests, opened, features, retained, stanzas⟩
  have fresh := fresh_of_start started
  have connects : Arrives first (.command .connect) first := ⟨rfl, by simp [fresh.opening]⟩
  have subscribes : Arrives _ (.command (.subscribe "c1" 0))
      ((step (.command .connect)).run first).2 := ⟨rfl, by simp [linked]⟩
  have breaks : Arrives (subscribing first) .closed (subscribing first) := ⟨rfl, by simp [asked]⟩
  have resumes : Arrives ((step .closed).run (subscribing first)).2 .timer (resuming first) :=
    ⟨rfl, by simpa [resuming] using resumed⟩
  have took := Took.next (.next (.next .initial connects) subscribes) breaks
  cases since : callsSince (resuming first) ((step .timer).run (resuming first)).2 with
  | nil => simp [since] at opened
  | cons call later =>
      obtain rfl : call = .connect .opened := by simpa [since] using opened
      have greeting : (resuming first).greeting =
          [.handshake ["sync", "subscriptions"] 0, .subscription "c1"] := by
        rw [Engine.greeting, features, stanzas, retained]
        rfl
      rw [← List.nil_append (.connect .opened :: later)] at since
      rcases replay_of_opened started (fun _ _ _ => id) took resumes since
        (staysUp_of_connected up reliable _) with ⟨⟨-, more, rfl⟩, -, replayed, due⟩
      rw [greeting, stanzas] at since
      refine ⟨first, _, started, took, ⟨more, since⟩, ?_, due "c1" tracked rests⟩
      exact ((replayed "c1").mp (by simp [retained])).resolve_left (by simp [inactive])

end Engine

end MessageSync
