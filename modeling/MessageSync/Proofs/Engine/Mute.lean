import MessageSync.Proofs.Engine.Rest
import MessageSync.Proofs.Engine.Steps

/-!
# What listeners of messages hear nothing of

Listeners of messages are called only where a record is merged or written. Everything else that a
step consists of leaves the log, the listeners and their calls about messages as they are: the
connection, the subscriptions, the schedules, the timers, and what is answered and published.
-/

namespace MessageSync

/-- The input neither writes a message nor brings a frame. -/
def Input.IsMute : Input → Prop
  | .command (.sendMessage _ _ _) | .frame _ => False
  | _ => True

namespace Engine

variable {σ τ α : Type} {engine before after : Engine σ τ}

/-- The calls of listeners about messages, in order. -/
def messageCalls (engine : Engine σ τ) : List (ListenerId × Message) :=
  engine.outputs.filterMap fun
    | .told listener (.message message) => some (listener, message)
    | _ => none

/-- The log and the listeners are the same, and no listener was called about a message. -/
structure Mute (before after : Engine σ τ) : Prop where
  log : after.log = before.log
  window : after.window = before.window
  listeners : after.listeners = before.listeners
  calls : after.messageCalls = before.messageCalls

instance : IsPreorder (Engine σ τ) Mute where
  refl _ := ⟨rfl, rfl, rfl, rfl⟩
  trans _ _ _ first second :=
    ⟨second.log.trans first.log, second.window.trans first.window,
      second.listeners.trans first.listeners, second.calls.trans first.calls⟩

/-! ## Output -/

theorem mute_put {output : Output}
    (other : ∀ listener message, output ≠ .told listener (.message message)) :
    Always Mute (put output : EngineM σ τ Unit) := by
  intro engine
  refine ⟨rfl, rfl, rfl, ?_⟩
  simp only [messageCalls, put, run_modify, List.filterMap_append]
  cases output with
  | reply => simp
  | told listener event => cases event <;> simp_all

theorem mute_reply (waiter : Waiter) (answer : Reply) :
    Always Mute (reply waiter answer : EngineM σ τ Unit) :=
  mute_put (by simp)

theorem mute_tell {event : Event} (other : ∀ message, event ≠ .message message) :
    Always Mute (tell event : EngineM σ τ Unit) :=
  .bind .get fun _ => .forM fun _ _ => mute_put fun _ message same =>
    other message (Output.told.inj same).2

theorem mute_onRegistry
    (change : SubscriptionRegistry → α × List SubscribeAnswer × SubscriptionRegistry) :
    Always Mute (onRegistry change : EngineM σ τ α) := by
  intro engine
  have answered (answers : List SubscribeAnswer) :
      Always Mute (answerSubscribes answers : EngineM σ τ Unit) := .forM fun _ _ => mute_reply _ _
  have changed : Mute engine { engine with registry := (change engine.registry).2.2 } :=
    ⟨rfl, rfl, rfl, rfl⟩
  exact trans_of Mute changed (answered (change engine.registry).2.1 _)

theorem mute_onCoordinator (change : SyncCoordinator → SyncCoordinator) :
    Always Mute (onCoordinator change : EngineM σ τ Unit) :=
  fun _ => ⟨rfl, rfl, rfl, rfl⟩

theorem mute_answerSyncs (answers : List SyncAnswer) :
    Always Mute (answerSyncs answers : EngineM σ τ Unit) :=
  .forM fun _ _ => mute_reply _ _

theorem mute_finishSyncs (change : SyncCoordinator → List SyncAnswer × SyncCoordinator) :
    Always Mute (finishSyncs change : EngineM σ τ Unit) := by
  intro engine
  have changed : Mute engine { engine with coordinator := (change engine.coordinator).2 } :=
    ⟨rfl, rfl, rfl, rfl⟩
  exact trans_of Mute changed (mute_answerSyncs (change engine.coordinator).1 _)

theorem mute_publishSyncError (conversationId : String) :
    Always Mute (publishSyncError conversationId : EngineM σ τ Unit) :=
  .bind .get fun _ _ => ⟨rfl, rfl, rfl, rfl⟩

theorem mute_setLastError (error : Option String) :
    Always Mute (setLastError error : EngineM σ τ Unit) :=
  fun _ => ⟨rfl, rfl, rfl, rfl⟩

theorem mute_query {question : σ → Except LogError α} :
    Always Mute (onLog (.query question) : EngineM σ τ _) :=
  fun engine => refl_of Mute engine

theorem mute_now : Always Mute (now : EngineM σ τ Instant) :=
  .bind .get fun _ => .pure _

theorem mute_isConnected : Always Mute (isConnected : EngineM σ τ Bool) :=
  .bind .get fun _ => .pure _

theorem mute_pushLive (conversationId : String) :
    Always Mute (pushLive conversationId : EngineM σ τ Bool) :=
  .bind .get fun _ => .pure _

theorem mute_failSync (conversationId : String) (error : SyncError) (instant : Instant) :
    Always Mute (failSync conversationId error instant : EngineM σ τ Unit) :=
  .bind (mute_finishSyncs _) fun _ => mute_publishSyncError _

theorem mute_completeSync (summary : SyncSummary) (instant : Instant) :
    Always Mute (completeSync summary instant : EngineM σ τ Unit) :=
  .bind (mute_pushLive _) fun _ => .bind (mute_tell (by simp)) fun _ =>
    .bind (mute_finishSyncs _) fun _ => mute_publishSyncError _

/-! ## The connection -/

section Transport

variable [Transport τ]

theorem mute_dispatch (envelope : Envelope) :
    Always Mute (dispatch envelope : EngineM σ τ (Except EngineError Int64)) := by
  refine (sends_dispatch envelope).mono fun before after sends => ?_
  rw [sends.same]
  exact ⟨rfl, rfl, rfl, rfl⟩

theorem mute_sendRecord {ρ : Type} (layout : Layout ρ ρ) (conversationId : String)
    (messageType : MessageType) (record : ρ) :
    Always Mute (sendRecord layout conversationId messageType record : EngineM σ τ Unit) :=
  .bind (mute_dispatch _) fun _ => .pure ()

theorem mute_perform (effect : ConnectionEffect) :
    Always Mute (perform effect : EngineM σ τ Unit) := by
  cases effect with
  | openTransport => exact .pure ()
  | closeTransport | scheduleRetry | cancelRetry => exact fun _ => ⟨rfl, rfl, rfl, rfl⟩
  | handshake => exact .bind .get fun _ => mute_sendRecord _ _ _ _
  | resubscribe => exact .bind .get fun _ => .forM fun _ _ => mute_sendRecord _ _ _ _
  | abandonPending =>
      refine .bind (mute_onRegistry _) fun _ => .get_bind fun engine => ?_
      have ended (answers : List SyncAnswer) (abandoned : List String) : Always Mute (do
          answerSyncs answers
          abandoned.forM publishSyncError : EngineM σ τ Unit) :=
        .bind (mute_answerSyncs _) fun _ => .forM fun _ _ => mute_publishSyncError _
      let coordinator :=
        (engine.coordinator.abandonInFlight .notConnected engine.clock.now).2.2
      have changed : Mute engine { engine with coordinator } := ⟨rfl, rfl, rfl, rfl⟩
      exact trans_of Mute changed (ended _ _ _)
  | syncAll => exact .bind mute_now fun _ => mute_onCoordinator _

theorem mute_handle (told : ConnectionInput) :
    Always Mute (handle told : EngineM σ τ Bool) := by
  intro engine
  rw [run_handle rfl]
  have moved : Mute engine (engine.moved (engine.machine.handle told).1) := ⟨rfl, rfl, rfl, rfl⟩
  exact trans_of Mute moved (Always.forM (fun effect _ => mute_perform effect) _)

instance : Connecting (Mute : Engine σ τ → Engine σ τ → Prop) where
  setLastError := mute_setLastError
  transport _ _ := ⟨rfl, rfl, rfl, rfl⟩
  opening _ _ := ⟨rfl, rfl, rfl, rfl⟩
  handles := mute_handle

end Transport

/-! ## What is received -/

theorem mute_takeAck (envelope : Envelope) (ack : SubscribeAck) :
    Always Mute (takeAck envelope ack : EngineM σ τ Unit) := by
  refine .bind mute_now fun instant => .bind (mute_onRegistry _) fun outcome => ?_
  cases outcome with
  | rejected | revoked => exact mute_tell (by simp)
  | activated | confirmed | ignored => exact .pure ()

theorem mute_takeError (envelope : Envelope) (error : ErrorBody) :
    Always Mute (takeError envelope error : EngineM σ τ Unit) := by
  simp only [takeError]
  split
  · exact .pure ()
  · refine .bind (mute_setLastError _) fun _ => ?_
    split
    · exact .pure ()
    · refine .bind .get fun engine => ?_
      split
      · exact .bind mute_now fun _ => mute_failSync _ _ _
      · exact .pure ()

theorem mute_takeAvailable (available : SyncAvailable) : Always Mute (do
    if (← get).coordinator.isTracked available.conversationId then
      let instant ← now
      onCoordinator (·.trigger available.conversationId instant) : EngineM σ τ Unit) := by
  refine .bind .get fun engine => ?_
  split
  · exact .bind mute_now fun _ => mute_onCoordinator _
  · exact .pure ()

theorem mute_withBody {ρ : Type} (envelope : Envelope) (layout : Layout ρ ρ)
    {act : ρ → EngineM σ τ Unit} (always : ∀ body, Always Mute (act body)) :
    Always Mute (withBody envelope layout act) := by
  simp only [withBody]
  split
  · exact always _
  · exact .pure ()

/-! ## Requests -/

section Requests

theorem mute_syncNow (conversationId : String) (waiter : Waiter) :
    Always Mute (syncNow conversationId waiter : EngineM σ τ Unit) := by
  refine .bind mute_now fun instant => .bind (mute_onCoordinator _) fun _ => ?_
  refine .bind mute_isConnected fun connected => ?_
  split
  · exact .bind (mute_failSync _ _ _) fun _ => mute_reply _ _
  · refine .bind (mute_finishSyncs _) fun _ => .bind .get fun engine => ?_
    split
    · exact mute_onCoordinator _
    · exact .pure ()

theorem mute_release [MessageLog σ] (conversationId : String) :
    Always Mute (release conversationId : EngineM σ τ Unit) := by
  refine .bind .get fun engine => ?_
  split
  · exact .pure ()
  · refine .bind mute_query fun listed => ?_
    split
    · exact .bind (mute_finishSyncs _) fun _ _ => ⟨rfl, rfl, rfl, rfl⟩
    · exact .pure ()

variable [Transport τ]

theorem mute_subscribe (conversationId : String) (waiter : Waiter) :
    Always Mute (subscribe conversationId waiter : EngineM σ τ Unit) := by
  simp only [subscribe]
  split
  · exact mute_reply _ _
  · refine .bind mute_isConnected fun connected => ?_
    split
    · exact mute_reply _ _
    · refine .bind mute_now fun instant => .bind (mute_onCoordinator _) fun _ => ?_
      refine .bind (mute_onRegistry _) fun isNew => ?_
      split
      · exact mute_sendRecord _ _ _ _
      · exact .pure ()

theorem mute_unsubscribe [MessageLog σ] (conversationId : String) :
    Always Mute (unsubscribe conversationId : EngineM σ τ Bool) := by
  refine .bind (mute_onRegistry _) fun changed => ?_
  split
  · refine .bind mute_isConnected fun connected => ?_
    split
    · exact .bind (mute_sendRecord _ _ _ _) fun _ => .bind (mute_release _) fun _ => .pure _
    · exact .bind (mute_release _) fun _ => .pure _
  · exact .pure _

end Requests

/-! ## Timers -/

section Timers

variable [MessageLog σ] [Transport τ]

theorem mute_startSync (conversationId : String) (instant : Instant) :
    Always Mute (startSync conversationId instant : EngineM σ τ (Except SyncError Unit)) := by
  refine .bind mute_query fun counted => ?_
  cases counted with
  | error error => exact .pure _
  | ok count =>
      refine .bind (mute_onCoordinator _) fun _ => .bind mute_query fun listed => ?_
      split
      · exact .pure _
      · exact .bind (mute_completeSync _ _) fun _ => .pure _
      · next pending _ =>
        refine .get_bind fun engine => ?_
        have begun : Mute engine { engine with
            coordinator := (engine.coordinator.begin conversationId
              (SyncRequest.ofPending conversationId pending).localIds instant).2 } :=
          ⟨rfl, rfl, rfl, rfl⟩
        refine trans_of Mute begun ?_
        simp only [run_bind, run_modify]
        split
        · exact refl_of Mute _
        · refine Always.bind (mute_dispatch _) (fun sent => ?_) _
          split <;> exact .pure _

theorem mute_runSync (instant : Instant) (conversationId : String) :
    Always Mute (runSync instant conversationId : EngineM σ τ Unit) := by
  refine .bind mute_isConnected fun connected => ?_
  split
  · refine .bind (mute_startSync _ _) fun started => ?_
    split
    · exact mute_failSync _ _ _
    · exact .pure ()
  · exact .bind (mute_pushLive _) fun live => mute_onCoordinator _

theorem mute_finishTimer (firedAt : Instant) :
    Always Mute (finishTimer firedAt : EngineM σ τ Unit) := by
  refine .bind (mute_onRegistry _) fun _ => .bind .get fun engine => ?_
  refine .bind (.forM fun _ _ => mute_failSync _ _ _) fun _ => ?_
  exact .bind mute_now fun _ => .bind .get fun _ => .forM fun _ _ => mute_runSync _ _

end Timers

/-! ## Inputs -/

section Inputs

variable [MessageLog σ] [Transport τ]

theorem mute_handleCommand {command : Command} (isMute : Input.IsMute (.command command)) :
    Always Mute (handleCommand command : EngineM σ τ Unit) := by
  cases command with
  | connect | networkOnline => exact always_apply _
  | disconnect waiter => exact .bind (always_apply _) fun _ => mute_reply _ _
  | subscribe conversationId waiter => exact mute_subscribe _ _
  | unsubscribe conversationId waiter =>
      exact .bind (mute_unsubscribe _) fun _ => mute_reply _ _
  | isSubscribed conversationId waiter => exact .bind .get fun _ => mute_reply _ _
  | send envelope waiter => exact .bind (mute_dispatch _) fun _ => mute_reply _ _
  | sendMessage => cases isMute
  | syncNow conversationId waiter => exact mute_syncNow _ _
  | messages conversationId waiter => exact .bind mute_query fun _ => mute_reply _ _

theorem mute_take {input : Input} (isMute : input.IsMute) :
    Always Mute (take input : EngineM σ τ Unit) := by
  refine always_take_of_handlers mute_finishTimer (fun _ => ⟨rfl, rfl, rfl, rfl⟩) ?_ ?_
  · rintro command rfl
    exact mute_handleCommand isMute
  · rintro content rfl
    cases isMute

end Inputs

end Engine

end MessageSync
