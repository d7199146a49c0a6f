import MessageSync.Proofs.Engine.Computations

/-!
# What every handler does

The handlers of frames, subscribes and due sync runs put something out, send something and change
the schedules. What else a handler does is named in its statement: a relation that allows that too
holds of the whole handler.
-/

namespace MessageSync

/-- The acknowledgement of a conversation: the one that it names, else the one that its envelope
names. -/
def SubscribeAck.addressed (ack : SubscribeAck) (envelope : Envelope) : SubscribeAck :=
  if ack.conversationId = "" then { ack with conversationId := envelope.conversationId } else ack

/-- What a command tells the connection machine, if it concerns the connection. -/
def Command.told? : Command → Option ConnectionInput
  | .connect => some .connectRequested
  | .disconnect _ => some .disconnectRequested
  | .networkOnline => some .networkOnline
  | _ => none

namespace Engine

variable {σ τ : Type} [Transport τ] {related : Engine σ τ → Engine σ τ → Prop}
  [Discreet related]

/-! ## Subscribes -/

/-- A subscribe is noted in the registry. -/
theorem always_subscribe {conversationId : String} {waiter : Waiter}
    (begins : conversationId ≠ "" → ∀ (engine : Engine σ τ) (instant : Instant),
      related engine { engine with
        registry := (engine.registry.begin conversationId waiter instant).2 }) :
    Always related (subscribe conversationId waiter : EngineM σ τ Unit) := by
  simp only [subscribe]
  split
  · exact always_reply (by simp)
  · next named =>
      refine .bind always_isConnected fun connected => ?_
      split
      · exact always_reply (by simp)
      · refine .bind always_now fun instant => ?_
        refine .bind (always_onCoordinator fun _ => SyncCoordinator.hushed_track) fun _ => ?_
        refine .bind (always_onRegistry fun engine => begins named engine instant) fun isNew => ?_
        split
        · exact always_sendSubscribe _
        · exact .pure ()

/-! ## Frames -/

/-- Once an acknowledgement has changed the registry, no more is done than to tell of it. -/
theorem related_takeAck {engine : Engine σ τ} (envelope : Envelope) (ack : SubscribeAck) :
    related { engine with registry :=
        (engine.registry.acknowledge (ack.addressed envelope) engine.clock.now).2.2 }
      ((takeAck envelope ack).run engine).2 := by
  have registered : Outward { engine with registry :=
        (engine.registry.acknowledge (ack.addressed envelope) engine.clock.now).2.2 }
      ((onRegistry (·.acknowledge (ack.addressed envelope) engine.clock.now)).run engine).2 :=
    outward_onRegistry (·.acknowledge (ack.addressed envelope) engine.clock.now) engine
  refine trans_of related (Telling.outward _ _ registered) ?_
  simp only [takeAck, SubscribeAck.addressed, run_bind, run_now]
  generalize (onRegistry _ : EngineM σ τ AckOutcome).run engine = registered
  rcases registered with ⟨outcome, registered⟩
  cases outcome with
  | rejected | revoked => exact Always.outward (outward_tell _) registered
  | activated | confirmed | ignored => exact refl_of related registered

theorem always_takeAck (envelope : Envelope) (ack : SubscribeAck)
    (acknowledges : ∀ (engine : Engine σ τ) (instant : Instant), related engine { engine with
      registry := (engine.registry.acknowledge (ack.addressed envelope) instant).2.2 }) :
    Always related (takeAck envelope ack : EngineM σ τ Unit) :=
  fun engine => trans_of related (acknowledges engine engine.clock.now) (related_takeAck _ _)

theorem always_takeError (envelope : Envelope) (error : ErrorBody) :
    Always related (takeError envelope error : EngineM σ τ Unit) := by
  simp only [takeError]
  split
  · exact .pure ()
  · refine .bind (.outward (outward_setLastError _)) fun _ => ?_
    split
    · exact .pure ()
    · refine .bind .get fun engine => ?_
      split
      · exact .bind always_now fun _ => always_failSync _ _ _
      · exact .pure ()

theorem always_withBody {ρ : Type} (envelope : Envelope) (layout : Layout ρ ρ)
    {act : ρ → EngineM σ τ Unit}
    (always : ∀ body, envelope.bodyAs layout.codec = .ok body → Always related (act body)) :
    Always related (withBody envelope layout act) := by
  simp only [withBody]
  split
  · next body read => exact always body read
  · exact .pure ()

variable [MessageLog σ]

/-- Once the registry has forgotten a conversation, the server is told and the conversation may be
released. -/
theorem related_unsubscribe {engine : Engine σ τ} {conversationId : String}
    (releases : Always related (release conversationId : EngineM σ τ Unit)) :
    related ((onRegistry (·.unsubscribe conversationId)).run engine).2
      ((unsubscribe conversationId).run engine).2 := by
  refine Always.rest fun changed => ?_
  split
  · refine .bind always_isConnected fun connected => ?_
    split
    · exact .bind (always_sendRecord _ _ _ _) fun _ => .bind releases fun _ => .pure _
    · exact .bind releases fun _ => .pure _
  · exact .pure _

theorem always_unsubscribe {conversationId : String}
    (forgets : Always related (onRegistry (·.unsubscribe conversationId) : EngineM σ τ Bool))
    (releases : Always related (release conversationId : EngineM σ τ Unit)) :
    Always related (unsubscribe conversationId : EngineM σ τ Bool) :=
  fun engine => trans_of related (forgets engine) (related_unsubscribe releases)

/-- Once a local id is minted, a request to write inserts a record. -/
theorem related_sendMessage {engine : Engine σ τ} {conversationId contents : String}
    (named : conversationId ≠ "")
    (inserts : ∀ (engine : Engine σ τ) (log : σ), related engine { engine with log }) :
    related ((mint conversationId contents).run engine).2
      ((sendMessage conversationId contents).run engine).2 := by
  simp only [sendMessage, named, reduceIte]
  rw [run_bind, run_now]
  refine Always.rest fun message => ?_
  refine .bind (always_onLog fun engine => inserts engine _) fun inserted => ?_
  cases inserted with
  | error error => exact .pure _
  | ok done =>
      refine .bind (always_onCoordinator fun _ =>
        SyncCoordinator.hushed_track.trans SyncCoordinator.hushed_noteActivity) fun _ => ?_
      refine .bind (.outward (outward_tell _)) fun _ => ?_
      refine .bind always_isConnected fun connected => ?_
      split
      · exact .bind (always_sendRecord _ _ _ _) fun _ => .pure _
      · exact .pure _

theorem always_sendMessage {conversationId contents : String}
    (mints : Always related (mint conversationId contents : EngineM σ τ Message))
    (inserts : ∀ (engine : Engine σ τ) (log : σ), related engine { engine with log }) :
    Always related
      (sendMessage conversationId contents : EngineM σ τ (Except EngineError Message)) := by
  intro engine
  by_cases named : conversationId = ""
  · simp only [sendMessage, named, reduceIte]
    exact refl_of related engine
  · exact trans_of related (mints engine) (related_sendMessage named inserts)

/-! ## Commands -/

/-- What a command does besides answering: it tells the connection machine something, changes the
registry, releases a conversation, writes a message or asks for a sync. -/
theorem always_handleCommand_of {command : Command}
    (applies : ∀ input, command.told? = some input →
      Always related (apply input : EngineM σ τ Unit))
    (begins : ∀ conversationId waiter, command = .subscribe conversationId waiter →
      conversationId ≠ "" → ∀ (engine : Engine σ τ) (instant : Instant),
        related engine { engine with
          registry := (engine.registry.begin conversationId waiter instant).2 })
    (forgets : ∀ conversationId waiter, command = .unsubscribe conversationId waiter →
      ∀ engine : Engine σ τ, related engine { engine with
        registry := (engine.registry.unsubscribe conversationId).2.2 })
    (releases : ∀ conversationId, Always related (release conversationId : EngineM σ τ Unit))
    (writes : ∀ conversationId contents waiter,
      command = .sendMessage conversationId contents waiter →
        Always related (handleCommand command : EngineM σ τ Unit))
    (asks : ∀ conversationId waiter, command = .syncNow conversationId waiter →
      Always related (handleCommand command : EngineM σ τ Unit)) :
    Always related (handleCommand command : EngineM σ τ Unit) := by
  cases command with
  | connect | networkOnline => exact applies _ rfl
  | disconnect waiter => exact .bind (applies _ rfl) fun _ => always_reply (by simp)
  | subscribe conversationId waiter => exact always_subscribe (begins _ _ rfl)
  | unsubscribe conversationId waiter =>
      exact .bind (always_unsubscribe (always_onRegistry (forgets _ _ rfl)) (releases _)) fun _ =>
        always_reply (by simp)
  | isSubscribed conversationId waiter => exact .bind .get fun _ => always_reply (by simp)
  | send envelope waiter =>
      exact .bind (Outspoken.dispatches _) fun _ => always_reply (by simp)
  | sendMessage conversationId contents waiter => exact writes _ _ _ rfl
  | syncNow conversationId waiter => exact asks _ _ rfl
  | messages conversationId waiter =>
      exact .bind (always_query _) fun _ => always_reply (by simp)

/-! ## Records that are received -/

section Frames

variable (reconciles : ∀ (engine : Engine σ τ) (record : Message) (window : MatchWindow),
    related engine
      { engine with log := ((MessageLog.reconcile record window).runOn engine.log).2 })

include reconciles in
theorem always_ingest (record : Message) :
    Always related (ingest record : EngineM σ τ (Except LogError Unit)) := by
  refine .bind .get fun engine => ?_
  refine .bind (always_onLog fun other => reconciles other record engine.window) fun result => ?_
  cases result with
  | error error => exact .pure _
  | ok outcome =>
      simp only
      split
      · refine .bind (.bind (always_query _) fun found => ?_) fun _ => .pure _
        split
        · exact .outward (outward_tell _)
        · exact .pure ()
      · exact .pure _

include reconciles in
theorem always_takeChat (envelope : Envelope) (role : Role) (chat : ChatMessage) :
    Always related (takeChat envelope role chat : EngineM σ τ Unit) := by
  simp only [takeChat]
  generalize (if chat.conversationId = "" then _ else chat : ChatMessage) = addressed
  split
  · exact .pure ()
  · refine .bind .get fun engine => ?_
    refine .bind (always_onCoordinator fun _ => SyncCoordinator.hushed_noteActivity) fun _ => ?_
    exact .bind (always_ingest reconciles _) fun _ => .pure ()

include reconciles in
theorem always_takeResults (submitted : List String) (results : List SyncResult)
    (applied : List String) (summary : SyncSummary) :
    Always related
      (takeResults submitted results applied summary : EngineM σ τ (Except LogError SyncSummary)) := by
  induction results generalizing applied summary with
  | nil => exact .pure _
  | cons result results rest =>
      simp only [takeResults]
      split
      · exact rest _ _
      · refine .bind (always_ingest reconciles _) fun ingested => ?_
        cases ingested with
        | error error => exact .pure _
        | ok done =>
            simp only
            split <;> exact rest _ _

include reconciles in
theorem always_takeSyncResponse (response : SyncResponse) :
    Always related (takeSyncResponse response : EngineM σ τ Unit) := by
  intro engine
  simp only [takeSyncResponse, now, run_bind, run_get, run_pure, run_modify]
  -- The request is taken before anything else is done with the answer.
  have taken : related engine { engine with
      coordinator := (engine.coordinator.takeInFlight response.conversationId).2 } :=
    Discreet.hushed engine _ SyncCoordinator.hushed_takeInFlight
  refine trans_of related taken ?_
  generalize (engine.coordinator.takeInFlight response.conversationId).1 = submitted
  cases submitted with
  | none => exact refl_of related _
  | some submitted =>
      refine Always.bind (always_takeResults reconciles _ _ _ _) (fun taken => ?_) _
      cases taken with
      | error error => exact always_failSync _ _ _
      | ok summary => exact always_completeSync _ _

include reconciles in
theorem always_route {envelope : Envelope}
    (acknowledges : envelope.messageType = .subscribeAck →
      ∀ ack, envelope.bodyAs SubscribeAck.layout.codec = .ok ack →
      ∀ (engine : Engine σ τ) (instant : Instant), related engine { engine with
        registry := (engine.registry.acknowledge (ack.addressed envelope) instant).2.2 }) :
    Always related (route envelope : EngineM σ τ Unit) := by
  simp only [route]
  split
  · next isAck =>
      exact always_withBody _ _ fun ack read => always_takeAck _ ack (acknowledges isAck ack read)
  · exact always_withBody _ _ fun _ _ => always_takeChat reconciles _ _ _
  · exact always_withBody _ _ fun _ _ => always_takeChat reconciles _ _ _
  · exact always_withBody _ _ fun _ _ => always_takeSyncResponse reconciles _
  · refine always_withBody _ _ fun available _ => .bind .get fun engine => ?_
    split
    · exact .bind always_now fun _ =>
        always_onCoordinator fun _ => SyncCoordinator.hushed_trigger
    · exact .pure ()
  · exact always_withBody _ _ fun _ _ => .outward (outward_tell _)
  · exact always_withBody _ _ fun _ _ => .outward (outward_tell _)
  · exact always_withBody _ _ fun _ _ => always_takeError _ _
  · exact .pure ()

include reconciles in
/-- The stanza number of a frame is noted, an acknowledgement changes the registry, and records may
be reconciled with the log. -/
theorem always_takeFrame
    (observes : ∀ (engine : Engine σ τ) (stanza : Int64),
      related engine { engine with stanzas := engine.stanzas.observe stanza })
    (acknowledges : ∀ (engine : Engine σ τ) (ack : SubscribeAck) (instant : Instant),
      related engine { engine with registry := (engine.registry.acknowledge ack instant).2.2 })
    (frame : Packing.Bytes) : Always related (takeFrame frame : EngineM σ τ Unit) := by
  refine .bind .get fun engine => ?_
  split
  · exact .pure ()
  · refine .bind (fun engine => observes engine _) fun _ => always_route reconciles ?_
    exact fun _ ack _ engine instant => acknowledges engine _ instant

end Frames

/-! ## Sync runs -/

section Syncs

variable {changed : Engine σ τ → Engine σ τ → Prop} [Outspoken changed] {conversationId : String}
  (schedules : ∀ (engine : Engine σ τ) (coordinator : SyncCoordinator),
    engine.coordinator.ChangesOnly conversationId coordinator →
      changed engine { engine with coordinator })

include schedules in
theorem always_startSync (instant : Instant) :
    Always changed (startSync conversationId instant : EngineM σ τ (Except SyncError Unit)) := by
  refine .bind (always_query _) fun counted => ?_
  cases counted with
  | error error => exact .pure _
  | ok count =>
      have notes : Always changed
          (onCoordinator (·.noteCount conversationId count instant) : EngineM σ τ Unit) :=
        fun engine => schedules engine _ (SyncCoordinator.changesOnly_noteCount count)
      refine .bind notes fun _ => .bind (always_query _) fun listed => ?_
      split
      · exact .pure _
      · refine .bind (always_completeSync_of fun engine live => ?_) fun _ => .pure _
        exact schedules engine _ (SyncCoordinator.changesOnly_succeed ⟨conversationId, 0, 0, 0⟩ live)
      · next pending _ =>
          refine .get_bind fun engine => ?_
          have noted : changed engine { engine with
              coordinator := (engine.coordinator.begin conversationId
                (SyncRequest.ofPending conversationId pending).localIds instant).2 } :=
            schedules engine _ (SyncCoordinator.changesOnly_begin _)
          refine trans_of changed noted ?_
          simp only [run_bind, run_modify]
          split
          · exact refl_of changed _
          · refine Always.bind (Outspoken.dispatches _) (fun sent => ?_) _
            split <;> exact .pure _

include schedules in
/-- A sync run changes the schedule of its conversation. -/
theorem always_runSync (instant : Instant) :
    Always changed (runSync instant conversationId : EngineM σ τ Unit) := by
  refine .bind always_isConnected fun connected => ?_
  split
  · refine .bind (always_startSync schedules _) fun started => ?_
    split
    · exact always_failSync_of fun engine =>
        schedules engine _ SyncCoordinator.changesOnly_fail
    · exact .pure ()
  · refine .bind (always_pushLive _) fun live => ?_
    exact fun engine => schedules engine _ (SyncCoordinator.changesOnly_skip live)

end Syncs

/-- While there is no connection, a sync run that is due is put off. -/
theorem runSync_of_not_connected {engine : Engine σ τ} (instant : Instant) (conversationId : String)
    (apart : engine.machine.isConnected = false) :
    related engine ((runSync instant conversationId).run engine).2 := by
  have skips : Always related (do
      let live ← pushLive conversationId
      onCoordinator (·.skip conversationId instant live) : EngineM σ τ Unit) :=
    .bind (always_pushLive _) fun live =>
      always_onCoordinator fun _ => SyncCoordinator.hushed_skip live
  simp only [runSync, isConnected, run_bind, run_get, run_pure, apart, Bool.false_eq_true,
    reduceIte]
  exact skips engine

/-! ## Timers -/

theorem always_finishTimer {firedAt : Instant}
    (expires : Always related (onRegistry (·.expire firedAt) : EngineM σ τ (List String)))
    (syncs : ∀ instant conversationId,
      Always related (runSync instant conversationId : EngineM σ τ Unit)) :
    Always related (finishTimer firedAt : EngineM σ τ Unit) := by
  refine .bind expires fun _ => ?_
  refine .bind .get fun engine => ?_
  refine .bind (.forM fun _ _ => always_failSync _ _ _) fun _ => ?_
  refine .bind always_now fun instant => ?_
  exact .bind .get fun engine => .forM fun _ _ => syncs instant _

/-- What is left of a timer after the machine was told of a retry: nothing yet, if the attempt to
connect has no answer. -/
def goOnWithTimer (instant : Instant) : EngineM σ τ Unit := do
  match (← get).opening with
  | some opening => modify ({ · with opening := some { opening with timerAt := some instant } })
  | none => finishTimer instant

theorem run_onTimer (engine : Engine σ τ) :
    onTimer.run engine =
      if engine.retryAt.any (· ≤ engine.clock.now) then
        (goOnWithTimer engine.clock.now).run
          ((apply .retryDue).run { engine with retryAt := none }).2
      else (goOnWithTimer engine.clock.now).run engine := by
  change (if engine.retryAt.any (· ≤ engine.clock.now) = true then _ else _ :
    EngineM σ τ Unit).run engine = _
  split <;> rfl

end Engine

end MessageSync
