import MessageSync.Proofs.Engine.Rest
import MessageSync.Proofs.Engine.Steps
import MessageSync.Proofs.Schedule.Waiting
import MessageSync.Proofs.Subscription.Waiting

/-!
# What a step consists of

A step is a sequence of changes of a few kinds: the machine is moved on and its state published,
subscribes begin or wait no longer, schedules change while no run ends, and runs end, with the errors
of their conversations published. This is told here once, for every input. A law about the registry,
the schedules, the answers or what is published holds of every step if it holds of each kind of
change.
-/

namespace MessageSync

/-- A caller that waits for the answer to a subscribe, or to a request to sync. -/
inductive Caller where
  | subscriber (waiter : Waiter)
  | syncer (waiter : Waiter)
deriving DecidableEq

/-- The caller that an output answers, if it is one who subscribed or asked for a sync. -/
def Output.answered? : Output → Option Caller
  | .reply waiter (.subscribed _) => some (.subscriber waiter)
  | .reply waiter (.synced _) => some (.syncer waiter)
  | _ => none

/-- The callers that subscribe or ask for a sync with an input. -/
def Input.callers : Input → List Caller
  | .command (.subscribe _ waiter) => [.subscriber waiter]
  | .command (.syncNow _ waiter) => [.syncer waiter]
  | _ => []

/-- The input is a command that may make the engine take up the conversation. -/
inductive Input.TakesUp : Input → String → Prop where
  | subscribe (conversationId : String) (waiter : Waiter) :
      TakesUp (.command (.subscribe conversationId waiter)) conversationId
  | sendMessage (conversationId contents : String) (waiter : Waiter) :
      TakesUp (.command (.sendMessage conversationId contents waiter)) conversationId
  | syncNow (conversationId : String) (waiter : Waiter) :
      TakesUp (.command (.syncNow conversationId waiter)) conversationId

/-- What is put out as the answer to a subscribe. -/
def SubscribeAnswer.output (answer : SubscribeAnswer) : Output :=
  .reply answer.waiter (.subscribed answer.result)

/-- What is put out as the answer to a request to sync. -/
def SyncAnswer.output (answer : SyncAnswer) : Output :=
  .reply answer.waiter (.synced answer.result)

namespace Engine

variable {σ τ α β : Type} {engine before middle after : Engine σ τ} {input : Input}
  {asked more : List Caller}

/-! ## Changes -/

/-- Nothing differs of the machine, the registry, the schedules, what was put out, and what is
published of them. -/
structure Apart (before after : Engine σ τ) : Prop where
  machine : after.machine = before.machine
  registry : after.registry = before.registry
  coordinator : after.coordinator = before.coordinator
  outputs : after.outputs = before.outputs
  state : after.status.state = before.status.state
  epoch : after.status.epoch = before.status.epoch
  syncErrors : after.status.syncErrors = before.status.syncErrors

/-- The engine with its registry changed, and the callers answered that this concerns. -/
def registered (engine : Engine σ τ) (registry : SubscriptionRegistry)
    (answers : List SubscribeAnswer) : Engine σ τ :=
  { engine with registry, outputs := engine.outputs ++ answers.map SubscribeAnswer.output }

/-- The engine with its coordinator changed, and the callers answered that this concerns. -/
def scheduled (engine : Engine σ τ) (coordinator : SyncCoordinator) (answers : List SyncAnswer) :
    Engine σ τ :=
  { engine with coordinator, outputs := engine.outputs ++ answers.map SyncAnswer.output }

/-- The engine with the errors of some conversations published. -/
def published (engine : Engine σ τ) (conversationIds : List String) : Engine σ τ :=
  ((conversationIds.forM publishSyncError).run engine).2

theorem published_cons (conversationId : String) (conversationIds : List String) :
    engine.published (conversationId :: conversationIds) =
      ((publishSyncError conversationId).run engine).2.published conversationIds := rfl

/-- Publishing errors changes nothing but what is published of them. -/
theorem same_published (conversationIds : List String) :
    engine.published conversationIds = { engine with status := { engine.status with
      syncErrors := (engine.published conversationIds).status.syncErrors } } := by
  induction conversationIds generalizing engine with
  | nil => rfl
  | cons conversationId conversationIds same =>
      rw [published_cons, same]
      rfl

@[simp]
theorem machine_published (conversationIds : List String) :
    (engine.published conversationIds).machine = engine.machine := by rw [same_published]

@[simp]
theorem registry_published (conversationIds : List String) :
    (engine.published conversationIds).registry = engine.registry := by rw [same_published]

@[simp]
theorem coordinator_published (conversationIds : List String) :
    (engine.published conversationIds).coordinator = engine.coordinator := by rw [same_published]

@[simp]
theorem outputs_published (conversationIds : List String) :
    (engine.published conversationIds).outputs = engine.outputs := by rw [same_published]

@[simp]
theorem state_published (conversationIds : List String) :
    (engine.published conversationIds).status.state = engine.status.state := by rw [same_published]

@[simp]
theorem epoch_published (conversationIds : List String) :
    (engine.published conversationIds).status.epoch = engine.status.epoch := by rw [same_published]

theorem get?_publishSyncError (conversationId other : String) :
    ((publishSyncError conversationId).run engine).2.status.syncErrors.get? other =
      if other = conversationId then
        (engine.coordinator.lastError? conversationId).map SyncError.message
      else engine.status.syncErrors.get? other := by
  simp only [publishSyncError, setSyncError, run_bind, run_get, run_modify]
  cases engine.coordinator.lastError? conversationId with
  | none => exact Keyed.get?_erase _ _ _
  | some error => exact Keyed.get?_set _ _ _ _

/-- What is published of the given conversations is what the coordinator has of them, and of the
others nothing else than before. -/
theorem get?_published (conversationIds : List String) (other : String) :
    (engine.published conversationIds).status.syncErrors.get? other =
      if other ∈ conversationIds then
        (engine.coordinator.lastError? other).map SyncError.message
      else engine.status.syncErrors.get? other := by
  induction conversationIds generalizing engine with
  | nil => rfl
  | cons conversationId conversationIds later =>
      have kept : ((publishSyncError conversationId).run engine).2.coordinator =
          engine.coordinator := rfl
      rw [published_cons, later, kept, get?_publishSyncError]
      by_cases same : other = conversationId
      · simp [same]
      · simp [same]

/-- One change that is made while an input is taken, with the callers that it is the first to know
of. -/
inductive Change (input : Input) : List Caller → Engine σ τ → Engine σ τ → Prop where
  | apart {before after : Engine σ τ} (apart : Apart before after) : Change input [] before after
  | moved (engine : Engine σ τ) (told : ConnectionInput) :
      Change input [] engine (engine.moved (engine.machine.handle told).1)
  /-- Something is put out. If it answers a caller, nobody else knew of the caller. -/
  | put (engine : Engine σ τ) (output : Output) :
      Change input output.answered?.toList engine
        { engine with outputs := engine.outputs ++ [output] }
  | begun (engine : Engine σ τ) {conversationId : String} {waiter : Waiter} (instant : Instant)
      (asks : input = .command (.subscribe conversationId waiter)) :
      Change input [.subscriber waiter] engine
        { engine with registry := (engine.registry.begin conversationId waiter instant).2 }
  | finished {engine : Engine σ τ} {answers : List SubscribeAnswer}
      {registry : SubscriptionRegistry} (finishes : engine.registry.Finishes answers registry) :
      Change input [] engine (engine.registered registry answers)
  | rescheduled {engine : Engine σ τ} {asked : List Waiter} {coordinator : SyncCoordinator}
      (reschedules : engine.coordinator.Reschedules input.TakesUp asked coordinator) :
      Change input (asked.map .syncer) engine { engine with coordinator }
  | concluded {engine : Engine σ τ} {conversationIds : List String} {answers : List SyncAnswer}
      {coordinator : SyncCoordinator}
      (concludes : engine.coordinator.Concludes conversationIds answers coordinator) :
      Change input [] engine ((engine.scheduled coordinator answers).published conversationIds)

/-- Changes that are made one after the other while an input is taken. -/
inductive Changes (input : Input) : List Caller → Engine σ τ → Engine σ τ → Prop where
  | none (engine : Engine σ τ) : Changes input [] engine engine
  | next {before middle after : Engine σ τ} {asked more : List Caller}
      (changes : Changes input asked before middle) (change : Change input more middle after) :
      Changes input (asked ++ more) before after

theorem Change.changes (change : Change input asked before after) :
    Changes input asked before after :=
  .next (.none before) change

theorem Changes.trans (first : Changes input asked before middle)
    (second : Changes input more middle after) : Changes input (asked ++ more) before after := by
  induction second with
  | none engine => rwa [List.append_nil]
  | next changes change ih =>
      rw [← List.append_assoc]
      exact .next (ih first) change

/-- What holds of an engine and is kept by every change holds after all changes. -/
theorem Changes.keeps {holds : Engine σ τ → Prop} (changes : Changes input asked before after)
    (kept : ∀ asked before after, Change input asked before after → holds before → holds after)
    (initially : holds before) : holds after := by
  induction changes with
  | none engine => exact initially
  | next changes change ih => exact kept _ _ _ change (ih initially)

instance : IsPreorder (Engine σ τ) (Changes input []) where
  refl engine := .none engine
  trans _ _ _ first second := first.trans second

theorem Changes.none_trans (first : Changes input [] before middle)
    (second : Changes input asked middle after) : Changes input asked before after :=
  first.trans second

theorem Changes.trans_none (first : Changes input asked before middle)
    (second : Changes input [] middle after) : Changes input asked before after := by
  simpa using first.trans second

/-- The first part of a computation need not know of a caller. -/
theorem changes_bind {first : EngineM σ τ α} {next : α → EngineM σ τ β}
    (always : Always (Changes input []) first)
    (alwaysNext : ∀ value, Always (Changes input asked) (next value)) :
    Always (Changes input asked) (first >>= next) :=
  fun engine => (always engine).none_trans (alwaysNext _ _)

theorem changes_bind_none {first : EngineM σ τ α} {next : α → EngineM σ τ β}
    (always : Always (Changes input asked) first)
    (alwaysNext : ∀ value, Always (Changes input []) (next value)) :
    Always (Changes input asked) (first >>= next) :=
  fun engine => (always engine).trans_none (alwaysNext _ _)

/-! ## Parts of computations -/

instance : IsPreorder (Engine σ τ) Apart where
  refl _ := ⟨rfl, rfl, rfl, rfl, rfl, rfl, rfl⟩
  trans _ _ _ first second :=
    ⟨second.machine.trans first.machine, second.registry.trans first.registry,
      second.coordinator.trans first.coordinator, second.outputs.trans first.outputs,
      second.state.trans first.state, second.epoch.trans first.epoch,
      second.syncErrors.trans first.syncErrors⟩

theorem Always.changes {computation : EngineM σ τ α} (always : Always Apart computation) :
    Always (Changes input []) computation :=
  always.mono fun _ _ apart => (Change.apart apart).changes

theorem changes_onLog (run : LogM σ α) :
    Always (Changes input []) (onLog run : EngineM σ τ (Except LogError α)) :=
  .changes fun _ => ⟨rfl, rfl, rfl, rfl, rfl, rfl, rfl⟩

theorem changes_setLastError (error : Option String) :
    Always (Changes input []) (setLastError error : EngineM σ τ Unit) :=
  .changes fun _ => ⟨rfl, rfl, rfl, rfl, rfl, rfl, rfl⟩

theorem changes_isConnected : Always (Changes input []) (isConnected : EngineM σ τ Bool) :=
  .bind .get fun _ => .pure _

theorem changes_now : Always (Changes input []) (now : EngineM σ τ Instant) :=
  .bind .get fun _ => .pure _

theorem changes_pushLive (conversationId : String) :
    Always (Changes input []) (pushLive conversationId : EngineM σ τ Bool) :=
  .bind .get fun _ => .pure _

theorem changes_put (output : Output) :
    Always (Changes input output.answered?.toList) (put output : EngineM σ τ Unit) :=
  fun engine => (Change.put engine output).changes

theorem changes_reply (waiter : Waiter) (answer : Reply) :
    Always (Changes input (Output.reply waiter answer).answered?.toList)
      (reply waiter answer : EngineM σ τ Unit) :=
  changes_put _

theorem changes_tell (event : Event) :
    Always (Changes input []) (tell event : EngineM σ τ Unit) :=
  .bind .get fun _ => .forM fun listener _ => changes_put (.told listener event)

theorem run_onRegistry
    (change : SubscriptionRegistry → α × List SubscribeAnswer × SubscriptionRegistry) :
    (onRegistry change : EngineM σ τ α).run engine = ((change engine.registry).1,
      engine.registered (change engine.registry).2.2 (change engine.registry).2.1) := by
  change ((change engine.registry).1, ((answerSubscribes _).run _).2) = _
  exact congrArg (Prod.mk _) (congrArg Prod.snd (run_forM_put SubscribeAnswer.output _))

theorem changes_onRegistry
    {change : SubscriptionRegistry → α × List SubscribeAnswer × SubscriptionRegistry}
    (finishes : ∀ registry : SubscriptionRegistry,
      registry.Finishes (change registry).2.1 (change registry).2.2) :
    Always (Changes input []) (onRegistry change : EngineM σ τ α) := by
  intro engine
  rw [run_onRegistry]
  exact (Change.finished (finishes _)).changes

theorem changes_onCoordinator {change : SyncCoordinator → SyncCoordinator}
    (reschedules : ∀ coordinator : SyncCoordinator,
      coordinator.Reschedules input.TakesUp [] (change coordinator)) :
    Always (Changes input []) (onCoordinator change : EngineM σ τ Unit) :=
  fun engine => (Change.rescheduled (reschedules engine.coordinator)).changes

/-- Runs end: their callers are answered, and the errors are published. -/
theorem changes_conclude (conversationIds : List String)
    (change : SyncCoordinator → List SyncAnswer × SyncCoordinator)
    (concludes : engine.coordinator.Concludes conversationIds (change engine.coordinator).1
      (change engine.coordinator).2) :
    Changes input [] engine ((do
      finishSyncs change
      conversationIds.forM publishSyncError : EngineM σ τ Unit).run engine).2 := by
  have ends : Changes input [] engine _ := (Change.concluded concludes).changes
  simp only [finishSyncs, run_bind, run_get, run_modify, run_answerSyncs]
  exact ends

theorem changes_failSync (conversationId : String) (error : SyncError) (instant : Instant) :
    Always (Changes input []) (failSync conversationId error instant : EngineM σ τ Unit) :=
  fun _ => changes_conclude [conversationId] _ SyncCoordinator.concludes_fail

theorem changes_completeSync (summary : SyncSummary) (instant : Instant) :
    Always (Changes input []) (completeSync summary instant : EngineM σ τ Unit) := by
  refine .bind (changes_pushLive _) fun live => .bind (changes_tell _) fun _ => ?_
  exact fun _ => changes_conclude [summary.conversationId] _
    (SyncCoordinator.concludes_succeed summary live)

/-! ## The connection -/

section Transport

variable [Transport τ]

theorem changes_dispatch (envelope : Envelope) : Always (Changes input [])
    (dispatch envelope : EngineM σ τ (Except EngineError Int64)) := by
  refine .changes ((sends_dispatch envelope).mono fun before after sends => ?_)
  rw [sends.same]
  exact ⟨rfl, rfl, rfl, rfl, rfl, rfl, rfl⟩

theorem changes_sendRecord {ρ : Type} (layout : Layout ρ ρ) (conversationId : String)
    (messageType : MessageType) (record : ρ) : Always (Changes input [])
      (sendRecord layout conversationId messageType record : EngineM σ τ Unit) :=
  .bind (changes_dispatch _) fun _ => .pure ()

theorem changes_perform (effect : ConnectionEffect) :
    Always (Changes input []) (perform effect : EngineM σ τ Unit) := by
  cases effect with
  | openTransport => exact .pure ()
  | closeTransport | scheduleRetry | cancelRetry =>
      exact .changes fun _ => ⟨rfl, rfl, rfl, rfl, rfl, rfl, rfl⟩
  | handshake => exact .bind .get fun _ => changes_sendRecord _ _ _ _
  | resubscribe => exact .bind .get fun _ => .forM fun _ _ => changes_sendRecord _ _ _ _
  | abandonPending =>
      refine .bind (changes_onRegistry fun _ =>
        SubscriptionRegistry.finishes_abandonPending _ _) fun _ => ?_
      refine .get_bind fun engine => ?_
      -- All runs that wait for an answer end at once, and only then are the errors published.
      exact changes_conclude _ (·.failAll
        (engine.coordinator.abandonInFlight .notConnected engine.clock.now).1 .notConnected
        engine.clock.now) (SyncCoordinator.concludes_failAll _)
  | syncAll =>
      exact .bind changes_now fun _ =>
        changes_onCoordinator fun _ => SyncCoordinator.reschedules_triggerAll

theorem changes_handle (told : ConnectionInput) :
    Always (Changes input []) (handle told : EngineM σ τ Bool) := by
  intro engine
  rw [run_handle rfl]
  exact trans_of (Changes input []) (Change.moved engine _).changes
    (Always.forM (fun effect _ => changes_perform effect) _)

instance : Connecting (Changes input [] : Engine σ τ → Engine σ τ → Prop) where
  setLastError := changes_setLastError
  transport engine transport := by
    have apart : Apart engine { engine with transport } := ⟨rfl, rfl, rfl, rfl, rfl, rfl, rfl⟩
    exact (Change.apart apart).changes
  opening engine opening := by
    have apart : Apart engine { engine with opening } := ⟨rfl, rfl, rfl, rfl, rfl, rfl, rfl⟩
    exact (Change.apart apart).changes
  handles := changes_handle

theorem changes_apply (told : ConnectionInput) :
    Always (Changes input []) (apply told : EngineM σ τ Unit) :=
  always_apply told

end Transport

/-! ## What is received -/

section Frames

variable [MessageLog σ]

theorem changes_ingest (record : Message) :
    Always (Changes input []) (ingest record : EngineM σ τ (Except LogError Unit)) := by
  refine .bind .get fun _ => .bind (changes_onLog _) fun result => ?_
  cases result with
  | error error => exact .pure _
  | ok outcome =>
      simp only
      split
      · refine .bind (.bind (changes_onLog _) fun found => ?_) fun _ => .pure _
        split
        · exact changes_tell _
        · exact .pure ()
      · exact .pure _

omit [MessageLog σ] in
theorem changes_takeAck (envelope : Envelope) (ack : SubscribeAck) :
    Always (Changes input []) (takeAck envelope ack : EngineM σ τ Unit) := by
  refine .bind changes_now fun instant => ?_
  refine .bind (changes_onRegistry fun _ =>
    SubscriptionRegistry.finishes_acknowledge _ _) fun outcome => ?_
  cases outcome with
  | rejected | revoked => exact changes_tell _
  | activated | confirmed | ignored => exact .pure ()

theorem changes_takeChat (envelope : Envelope) (role : Role) (chat : ChatMessage) :
    Always (Changes input []) (takeChat envelope role chat : EngineM σ τ Unit) := by
  simp only [takeChat]
  generalize (if chat.conversationId = "" then _ else chat : ChatMessage) = addressed
  split
  · exact .pure ()
  · refine .bind .get fun engine => ?_
    refine .bind (changes_onCoordinator fun _ => SyncCoordinator.reschedules_noteActivity) fun _ => ?_
    exact .bind (changes_ingest _) fun _ => .pure ()

theorem changes_takeResults (submitted : List String) (results : List SyncResult)
    (applied : List String) (summary : SyncSummary) : Always (Changes input [])
      (takeResults submitted results applied summary :
        EngineM σ τ (Except LogError SyncSummary)) := by
  induction results generalizing applied summary with
  | nil => exact .pure _
  | cons result results rest =>
      simp only [takeResults]
      split
      · exact rest _ _
      · refine .bind (changes_ingest _) fun ingested => ?_
        cases ingested with
        | error error => exact .pure _
        | ok done =>
            simp only
            split <;> exact rest _ _

theorem changes_takeSyncResponse (response : SyncResponse) :
    Always (Changes input []) (takeSyncResponse response : EngineM σ τ Unit) := by
  intro engine
  simp only [takeSyncResponse, now, run_bind, run_get, run_pure, run_modify]
  have taken : Changes input [] engine { engine with
      coordinator := (engine.coordinator.takeInFlight response.conversationId).2 } :=
    (Change.rescheduled SyncCoordinator.reschedules_takeInFlight).changes
  refine trans_of (Changes input []) taken ?_
  generalize (engine.coordinator.takeInFlight response.conversationId).1 = submitted
  cases submitted with
  | none => exact .none _
  | some submitted =>
      refine Always.bind (changes_takeResults _ _ _ _) (fun taken => ?_) _
      cases taken with
      | error error => exact changes_failSync _ _ _
      | ok summary => exact changes_completeSync _ _

omit [MessageLog σ] in
theorem changes_takeError (envelope : Envelope) (error : ErrorBody) :
    Always (Changes input []) (takeError envelope error : EngineM σ τ Unit) := by
  simp only [takeError]
  split
  · exact .pure ()
  · refine .bind (changes_setLastError _) fun _ => ?_
    split
    · exact .pure ()
    · refine .bind .get fun engine => ?_
      split
      · exact .bind changes_now fun _ => changes_failSync _ _ _
      · exact .pure ()

omit [MessageLog σ] in
theorem changes_withBody {ρ : Type} (envelope : Envelope) (layout : Layout ρ ρ)
    {act : ρ → EngineM σ τ Unit} (always : ∀ body, Always (Changes input []) (act body)) :
    Always (Changes input []) (withBody envelope layout act) := by
  simp only [withBody]
  split
  · exact always _
  · exact .pure ()

theorem changes_route (envelope : Envelope) :
    Always (Changes input []) (route envelope : EngineM σ τ Unit) := by
  simp only [route]
  split
  · exact changes_withBody _ _ fun _ => changes_takeAck _ _
  · exact changes_withBody _ _ fun _ => changes_takeChat _ _ _
  · exact changes_withBody _ _ fun _ => changes_takeChat _ _ _
  · exact changes_withBody _ _ fun _ => changes_takeSyncResponse _
  · refine changes_withBody _ _ fun available => .get_bind fun engine => ?_
    split
    · next tracked =>
        exact (Change.rescheduled (SyncCoordinator.reschedules_trigger tracked)).changes
    · exact .none _
  · exact changes_withBody _ _ fun _ => changes_tell _
  · exact changes_withBody _ _ fun _ => changes_tell _
  · exact changes_withBody _ _ fun _ => changes_takeError _ _
  · exact .pure ()

theorem changes_takeFrame (frame : Packing.Bytes) :
    Always (Changes input []) (takeFrame frame : EngineM σ τ Unit) := by
  refine .bind .get fun engine => ?_
  split
  · exact .pure ()
  · next envelope _ =>
      have observes : Always (Changes input []) (modify fun engine =>
          { engine with stanzas := engine.stanzas.observe envelope.stanzaId } :
          EngineM σ τ Unit) := .changes fun _ => ⟨rfl, rfl, rfl, rfl, rfl, rfl, rfl⟩
      exact .bind observes fun _ => changes_route _

end Frames

/-! ## Timers -/

section Timers

variable [MessageLog σ] [Transport τ]

theorem changes_startSync (conversationId : String) (instant : Instant) : Always (Changes input [])
    (startSync conversationId instant : EngineM σ τ (Except SyncError Unit)) := by
  refine .bind (changes_onLog _) fun counted => ?_
  cases counted with
  | error error => exact .pure _
  | ok count =>
      refine .bind (changes_onCoordinator fun _ => SyncCoordinator.reschedules_noteCount _)
        fun _ => .bind (changes_onLog _) fun listed => ?_
      split
      · exact .pure _
      · exact .bind (changes_completeSync _ _) fun _ => .pure _
      · next pending _ =>
        refine .get_bind fun engine => ?_
        have noted : Changes input [] engine { engine with
            coordinator := (engine.coordinator.begin conversationId
              (SyncRequest.ofPending conversationId pending).localIds instant).2 } :=
          (Change.rescheduled (SyncCoordinator.reschedules_begin _)).changes
        refine trans_of (Changes input []) noted ?_
        simp only [run_bind, run_modify]
        split
        · exact .none _
        · refine Always.bind (changes_dispatch _) (fun sent => ?_) _
          split <;> exact .pure _

theorem changes_runSync (instant : Instant) (conversationId : String) :
    Always (Changes input []) (runSync instant conversationId : EngineM σ τ Unit) := by
  refine .bind changes_isConnected fun connected => ?_
  split
  · refine .bind (changes_startSync _ _) fun started => ?_
    split
    · exact changes_failSync _ _ _
    · exact .pure ()
  · exact .bind (changes_pushLive _) fun live =>
      changes_onCoordinator fun _ => SyncCoordinator.reschedules_skip live

omit [MessageLog σ] [Transport τ] in
theorem changes_endWaits (firedAt : Instant) :
    Always (Changes input []) (endWaits firedAt : EngineM σ τ Unit) := by
  refine .bind (changes_onRegistry fun _ => SubscriptionRegistry.finishes_expire _) fun _ => ?_
  exact .bind .get fun _ => .forM fun _ _ => changes_failSync _ _ _

theorem changes_finishTimer (firedAt : Instant) :
    Always (Changes input []) (finishTimer firedAt : EngineM σ τ Unit) := by
  intro engine
  rw [run_finishTimer]
  have due : Always (Changes input []) (runDue : EngineM σ τ Unit) :=
    .bind changes_now fun _ => .bind .get fun _ => .forM fun _ _ => changes_runSync _ _
  exact trans_of (Changes input []) (changes_endWaits firedAt engine) (due _)

omit [MessageLog σ] in
/-- What a timer does about a retry. -/
theorem changes_retried (engine : Engine σ τ) : Changes input [] engine engine.retried := by
  have unarmed : Apart engine { engine with retryAt := none } := ⟨rfl, rfl, rfl, rfl, rfl, rfl, rfl⟩
  exact related_retried_of (Change.apart unarmed).changes

theorem changes_onTimer : Always (Changes input []) (onTimer : EngineM σ τ Unit) := by
  refine always_onTimer changes_finishTimer fun engine => ?_
  have unarmed : Apart engine { engine with retryAt := none } := ⟨rfl, rfl, rfl, rfl, rfl, rfl, rfl⟩
  exact (Change.apart unarmed).changes

theorem changes_onOpeningOver :
    Always (Changes input []) (onOpeningOver : EngineM σ τ Unit) :=
  always_onOpeningOver changes_finishTimer

end Timers

/-! ## Commands -/

section Commands

variable {conversationId : String} {waiter : Waiter}

theorem changes_track (takes : input.TakesUp conversationId) (instant : Instant) :
    Always (Changes input [])
      (onCoordinator (·.track conversationId instant) : EngineM σ τ Unit) :=
  changes_onCoordinator fun _ => SyncCoordinator.reschedules_track takes

/-- A caller comes to wait for a sync run of a tracked conversation. -/
theorem changes_await (tracked : engine.coordinator.isTracked conversationId = true)
    (instant : Instant) : Changes input [.syncer waiter] engine ((do
      finishSyncs (·.addWaiter conversationId waiter)
      if !(← get).coordinator.isInFlight conversationId then
        onCoordinator (·.trigger conversationId instant) : EngineM σ τ Unit).run engine).2 := by
  rcases SyncCoordinator.addWaiter_of_tracked tracked waiter with ⟨noAnswer, joins⟩
  have still : (engine.coordinator.addWaiter conversationId waiter).2.isTracked conversationId :=
    (SyncCoordinator.tame_addWaiter waiter).tracked conversationId tracked
  have joined : Changes input [.syncer waiter] engine { engine with
      coordinator := (engine.coordinator.addWaiter conversationId waiter).2 } :=
    (Change.rescheduled joins).changes
  simp only [finishSyncs, run_bind, run_get, run_modify, noAnswer, run_answerSyncs, List.map_nil,
    List.append_nil]
  -- The caller is noted before the run is asked for, so the rest concerns nobody new.
  refine joined.trans_none ?_
  by_cases waits :
      (engine.coordinator.addWaiter conversationId waiter).2.isInFlight conversationId = true
  · simp only [waits, Bool.not_true, Bool.false_eq_true, reduceIte]
    exact .none _
  · simp only [waits, Bool.not_false, reduceIte]
    exact (Change.rescheduled (SyncCoordinator.reschedules_trigger still)).changes

theorem changes_syncNow (asks : input = .command (.syncNow conversationId waiter)) :
    Always (Changes input [.syncer waiter])
      (syncNow conversationId waiter : EngineM σ τ Unit) := by
  refine changes_bind changes_now fun instant => ?_
  intro engine
  have takes : input.TakesUp conversationId := asks ▸ .syncNow conversationId waiter
  have tracks := changes_track takes instant engine
  refine tracks.none_trans ?_
  rw [run_bind]
  by_cases connected : engine.machine.isConnected = true
  · simp only [isConnected, onCoordinator, run_bind, run_get, run_pure, run_modify, connected,
      Bool.not_true, Bool.false_eq_true, reduceIte]
    exact changes_await SyncCoordinator.isTracked_track instant
  · simp only [isConnected, onCoordinator, run_bind, run_get, run_pure, run_modify, connected,
      Bool.not_false, reduceIte]
    exact changes_bind (changes_failSync _ _ _)
      (fun _ => changes_reply waiter (.synced _)) _

variable [Transport τ]

theorem changes_subscribe (asks : input = .command (.subscribe conversationId waiter)) :
    Always (Changes input [.subscriber waiter])
      (subscribe conversationId waiter : EngineM σ τ Unit) := by
  simp only [subscribe]
  split
  · exact changes_reply waiter (.subscribed _)
  · refine changes_bind changes_isConnected fun connected => ?_
    split
    · exact changes_reply waiter (.subscribed _)
    · refine changes_bind changes_now fun instant => ?_
      refine changes_bind (changes_track (asks ▸ .subscribe _ _) _) fun _ => ?_
      have begins : Always (Changes input [.subscriber waiter]) (onRegistry fun registry =>
          ((registry.begin conversationId waiter instant).1, [],
            (registry.begin conversationId waiter instant).2) : EngineM σ τ Bool) := by
        intro engine
        rw [run_onRegistry]
        simpa [registered] using (Change.begun engine instant asks).changes
      refine changes_bind_none begins fun isNew => ?_
      split
      · exact changes_sendRecord _ _ _ _
      · exact .pure ()

variable [MessageLog σ]

omit [Transport τ] [MessageLog σ] in
/-- What is published of a conversation that is not tracked is that it has no error. -/
theorem run_setSyncError_of_untracked
    (untracked : engine.coordinator.isTracked conversationId = false) :
    (setSyncError conversationId none).run engine = (publishSyncError conversationId).run engine := by
  simp only [publishSyncError, run_bind, run_get, SyncCoordinator.lastError?_of_untracked untracked,
    Option.map_none]

omit [Transport τ] in
theorem changes_release (conversationId : String) :
    Always (Changes input []) (release conversationId : EngineM σ τ Unit) := by
  refine .bind .get fun _ => ?_
  split
  · exact .pure ()
  · refine .bind (changes_onLog _) fun listed => ?_
    split
    · intro engine
      have left : ((finishSyncs (·.untrack conversationId)).run engine).2.coordinator =
          (engine.coordinator.untrack conversationId).2 := by
        simp only [finishSyncs, run_bind, run_get, run_modify, run_answerSyncs]
      have ends : Changes input [] engine ((do
          finishSyncs (·.untrack conversationId)
          [conversationId].forM publishSyncError : EngineM σ τ Unit).run engine).2 :=
        changes_conclude [conversationId] _ SyncCoordinator.concludes_untrack
      rw [run_bind, run_setSyncError_of_untracked (left ▸ SyncCoordinator.isTracked_untrack_self)]
      exact ends
    · exact .pure ()

theorem changes_unsubscribe (conversationId : String) :
    Always (Changes input []) (unsubscribe conversationId : EngineM σ τ Bool) := by
  refine .bind (changes_onRegistry fun _ =>
    SubscriptionRegistry.finishes_unsubscribe _) fun changed => ?_
  split
  · refine .bind changes_isConnected fun connected => ?_
    split
    · exact .bind (changes_sendRecord _ _ _ _) fun _ => .bind (changes_release _) fun _ => .pure _
    · exact .bind (changes_release _) fun _ => .pure _
  · exact .pure _

theorem changes_sendMessage {contents : String} (takes : input.TakesUp conversationId) :
    Always (Changes input [])
      (sendMessage conversationId contents : EngineM σ τ (Except EngineError Message)) := by
  simp only [sendMessage]
  split
  · exact .pure _
  · have mints : Always (Changes input []) (mint conversationId contents : EngineM σ τ Message) :=
      .changes fun _ => ⟨rfl, rfl, rfl, rfl, rfl, rfl, rfl⟩
    refine .bind changes_now fun instant => .bind mints fun message => ?_
    refine .bind (changes_onLog _) fun inserted => ?_
    cases inserted with
    | error error => exact .pure _
    | ok done =>
        refine .bind (changes_onCoordinator fun _ =>
          (SyncCoordinator.reschedules_track takes).trans
            SyncCoordinator.reschedules_noteActivity) fun _ => ?_
        refine .bind (changes_tell _) fun _ => .bind changes_isConnected fun connected => ?_
        split
        · exact .bind (changes_sendRecord _ _ _ _) fun _ => .pure _
        · exact .pure _

theorem changes_handleCommand (command : Command) :
    Always (Changes (.command command) (Input.command command).callers)
      (handleCommand command : EngineM σ τ Unit) := by
  cases command with
  | connect | networkOnline => exact changes_apply _
  | disconnect waiter =>
      exact changes_bind (changes_apply _) fun _ =>
        changes_reply waiter (.disconnected _)
  | subscribe conversationId waiter => exact changes_subscribe rfl
  | unsubscribe conversationId waiter =>
      exact changes_bind (changes_unsubscribe _) fun _ =>
        changes_reply waiter (.flag _)
  | isSubscribed conversationId waiter =>
      exact changes_bind .get fun _ => changes_reply waiter (.flag _)
  | send envelope waiter =>
      exact changes_bind (changes_dispatch _) fun _ => changes_reply waiter (.sent _)
  | sendMessage conversationId contents waiter =>
      exact changes_bind (changes_sendMessage (.sendMessage _ _ _)) fun _ =>
        changes_reply waiter (.written _)
  | syncNow conversationId waiter => exact changes_syncNow rfl
  | messages conversationId waiter =>
      exact changes_bind (changes_onLog _) fun _ => changes_reply waiter (.listed _)

/-! ## Steps -/

theorem changes_take (input : Input) :
    Always (Changes input input.callers) (take input : EngineM σ τ Unit) := by
  cases input with
  | command command => exact changes_handleCommand command
  | frame content => exact changes_takeFrame content
  | closed => exact changes_apply _
  | receiveFailed error =>
      exact changes_bind (changes_setLastError _) fun _ => changes_apply _
  | timer => exact changes_onTimer
  | openingOver => exact changes_onOpeningOver

/-- A step consists of changes, and the callers that these know of first are those of its input. -/
theorem changes_step (input : Input) :
    Always (Changes input input.callers) (step input : EngineM σ τ Unit) :=
  fun engine => (changes_take input engine).trans_none
    (related_step_of_take always_noticeBrokenLink input engine)

end Commands

end Engine

end MessageSync
