import Mathlib.Data.List.ReduceOption
import MessageSync.Proofs.Engine.Runs
import MessageSync.Proofs.Engine.SyncRuns
import MessageSync.Proofs.Reconcile.Unsent

/-!
# The outbox

What is written here is not lost: a record that is pending belongs to a conversation that is
tracked, so that a sync of it is scheduled or waits for its answer. Conversations are dropped in one
place only, after a look at the log, and records become pending in one place only, where their
conversation is taken up. All else keeps the conversations that are tracked, and adds no pending
records.
-/

namespace MessageSync

namespace Engine

variable {σ τ : Type} {before after engine : Engine σ τ}

/-! ## Writing a message -/

/-- The record that a request to write gives. -/
def minted (engine : Engine σ τ) (conversationId contents : String) : Message :=
  .newLocal conversationId .user contents engine.clock.calendar engine.localIds.length

theorem run_mint (conversationId contents : String) (engine : Engine σ τ) :
    (mint conversationId contents : EngineM σ τ Message).run engine =
      (engine.minted conversationId contents, { engine with
        localIds := engine.localIds ++ [(engine.minted conversationId contents).id] }) := rfl

section Writing

variable [Transport τ]

/-- What is done about a message once it is stored and its conversation is tracked. -/
def deliver (conversationId : String) (message : Message) :
    EngineM σ τ (Except EngineError Message) := do
  tell (.message message)
  if ← isConnected then
    sendRecord ChatMessage.layout conversationId .userMessage (.ofMessage message)
  return .ok message

theorem run_deliver (conversationId : String) (message : Message) (engine : Engine σ τ) :
    ((deliver conversationId message).run engine).1 = .ok message := by
  rw [deliver, run_bind]
  generalize ((tell (.message message) : EngineM σ τ Unit).run engine).2 = told
  change ((if told.machine.isConnected = true then _ else _ :
    EngineM σ τ (Except EngineError Message)).run told).1 = _
  split <;> rfl

theorem saves_deliver (conversationId : String) (message : Message) :
    Always Saves (deliver conversationId message : EngineM σ τ (Except EngineError Message)) := by
  refine .bind (.outward (outward_tell _)) fun _ => .bind always_isConnected fun connected => ?_
  split
  · exact .bind (always_sendRecord _ _ _ _) fun _ => .pure _
  · exact .pure _

variable [MessageLog σ]

/-- A message that is inserted into the log is written, and its conversation is tracked, with or
without a connection. -/
theorem sendMessage_of_inserted {conversationId contents : String} {engine : Engine σ τ} {log : σ}
    (named : conversationId ≠ "")
    (inserted : MessageLog.insert engine.log (engine.minted conversationId contents) = .ok log) :
    ((sendMessage conversationId contents).run engine).1 =
        .ok (engine.minted conversationId contents) ∧
      Saves { engine with
          log
          coordinator := engine.coordinator.track conversationId engine.clock.now }
        ((sendMessage conversationId contents).run engine).2 := by
  simp only [sendMessage, named, reduceIte]
  rw [run_bind, run_now, run_bind, run_mint, run_bind, run_onLog_modify, inserted]
  -- The answer is fixed before the message is sent, so that a broken link cannot change it.
  refine ⟨run_deliver conversationId _ _, ?_⟩
  refine trans_of Saves ?_ (saves_deliver conversationId _ _)
  exact ⟨rfl, rfl, SyncCoordinator.hushed_noteActivity.toRetains⟩

/-- A message is not written, and nothing of it is left, or it is inserted into the log and its
conversation is tracked, with or without a connection. -/
theorem sendMessage_cases (conversationId contents : String) (engine : Engine σ τ) :
    (∃ error, ((sendMessage conversationId contents).run engine).1 = .error error ∧
      Saves engine ((sendMessage conversationId contents).run engine).2) ∨
    ∃ log, MessageLog.insert engine.log (engine.minted conversationId contents) = .ok log ∧
      ((sendMessage conversationId contents).run engine).1 =
        .ok (engine.minted conversationId contents) ∧
      Saves { engine with
          log
          coordinator := engine.coordinator.track conversationId engine.clock.now }
        ((sendMessage conversationId contents).run engine).2 := by
  by_cases empty : conversationId = ""
  · left
    simp only [sendMessage, empty, reduceIte]
    exact ⟨_, rfl, refl_of Saves engine⟩
  · cases inserted : MessageLog.insert engine.log (engine.minted conversationId contents) with
    | error error =>
        left
        simp only [sendMessage, empty, reduceIte]
        rw [run_bind, run_now, run_bind, run_mint, run_bind, run_onLog_modify, inserted]
        exact ⟨.log error, rfl, .elsewhere rfl rfl rfl⟩
    | ok log =>
        right
        exact ⟨log, rfl, sendMessage_of_inserted empty inserted⟩

theorem written_sendMessage (conversationId contents : String) (engine : Engine σ τ) :
    ((sendMessage conversationId contents).run engine).2.written = engine.written := by
  rcases sendMessage_cases conversationId contents engine with
    ⟨-, -, saves⟩ | ⟨log, -, -, saves⟩
  · exact saves.written
  · exact saves.written

theorem written_take_sendMessage (conversationId contents : String) (waiter : Waiter) :
    ((take (.command (.sendMessage conversationId contents waiter))).run engine).2.written =
      engine.written ++ [(waiter, ((sendMessage conversationId contents).run engine).1)] := by
  rw [← written_sendMessage conversationId contents engine]
  change ((reply waiter (.written ((sendMessage conversationId contents).run engine).1)).run
    ((sendMessage conversationId contents).run engine).2).2.written = _
  simp only [written, reply, put, run_modify, List.filterMap_append]
  rfl

/-- No request to write is answered. -/
def Unanswering (before after : Engine σ τ) : Prop :=
  after.written = before.written

instance : LogRelated (Unanswering : Engine σ τ → Engine σ τ → Prop) where
  refl _ := rfl
  trans _ _ _ first second := Eq.trans second first
  saves _ _ saves := saves.written

theorem written_step_of_other {input : Input}
    (other : ∀ conversationId contents waiter,
      input ≠ .command (.sendMessage conversationId contents waiter)) :
    ((step input).run engine).2.written = engine.written := by
  have keeps : Always Unanswering (step input : EngineM σ τ Unit) :=
    always_step (fun _ => always_release fun _ => rfl) (fun _ _ _ => rfl)
      fun _ _ _ same => absurd same (other _ _ _)
  exact keeps engine

theorem saves_step_of_take (engine : Engine σ τ) (input : Input) :
    Saves ((take input).run engine).2 ((step input).run engine).2 :=
  related_step_of_take always_noticeBrokenLink input engine

end Writing

/-! ## The outbox -/

variable [MessageLog σ] [StoreBacked σ]

/-- The store in which the engine's log keeps its records. -/
def store (engine : Engine σ τ) : Store :=
  StoreBacked.store engine.log

/-- Every pending record was written here, in a conversation that is tracked. -/
structure Outbox (engine : Engine σ τ) : Prop where
  within : engine.store.PendingWithin fun conversationId =>
    engine.coordinator.isTracked conversationId = true
  sorted : engine.coordinator.conversations.Sorted

theorem Outbox.retained (outbox : before.Outbox) (stored : after.store = before.store)
    (retains : before.coordinator.Retains after.coordinator) : after.Outbox :=
  ⟨by rw [stored]; exact outbox.within.mono retains.tracked, retains.sorted outbox.sorted⟩

theorem Outbox.saved (outbox : before.Outbox) (saves : Saves before after) : after.Outbox :=
  outbox.retained (congrArg StoreBacked.store saves.log) saves.retains

/-- If the outbox of the first engine is in order, so is that of the second. -/
def KeepsOutbox (before after : Engine σ τ) : Prop :=
  before.Outbox → after.Outbox

instance : LogRelated (KeepsOutbox : Engine σ τ → Engine σ τ → Prop) where
  refl _ := id
  trans _ _ _ first second outbox := second (first outbox)
  saves _ _ saves outbox := outbox.saved saves

variable [Transport τ]

/-! ## What may change the outbox -/

theorem keepsOutbox_release (conversationId : String) :
    Always KeepsOutbox (release conversationId : EngineM σ τ Unit) := by
  intro engine outbox
  simp only [release, run_bind, run_get]
  by_cases waits : engine.coordinator.isInFlight conversationId = true
  · simp only [waits, reduceIte]
    exact outbox
  · simp only [waits, Bool.false_eq_true, reduceIte, run_bind, run_onLog_query]
    cases listed : MessageLog.pending engine.log conversationId with
    | error error => exact outbox
    | ok records =>
    cases records with
    | cons first rest => exact outbox
    | nil =>
        -- Every pending record of the conversation would have been listed, so that there is none.
        have lists := outbox.within.listsPending (StoreBacked.pending listed)
        have free : ∀ row ∈ engine.store.rows, row.ReadsPending →
            row.conversationId ≠ conversationId := by
          intro row mem pending same
          have listed := lists.rows.mem_iff.mpr
            (List.mem_filter.mpr ⟨mem, decide_eq_true ⟨same, pending⟩⟩)
          cases listed
        have dropped : Outbox { engine with
            coordinator := (engine.coordinator.untrack conversationId).2 } := by
          refine ⟨?_, SyncCoordinator.sorted_untrack outbox.sorted⟩
          intro row mem pending
          rcases outbox.within row mem pending with ⟨unsent, tracked⟩
          exact ⟨unsent, SyncCoordinator.isTracked_untrack (free row mem pending) tracked⟩
        have tells (answers : List SyncAnswer) : Always KeepsOutbox (do
            answerSyncs answers; setSyncError conversationId none : EngineM σ τ Unit) :=
          .bind (.outward (outward_answerSyncs _)) fun _ => .outward (outward_setSyncError _ _)
        exact tells _ _ dropped

omit [Transport τ] in
theorem keepsOutbox_reconcile (engine : Engine σ τ) (record : Message) (window : MatchWindow) :
    KeepsOutbox engine
      { engine with log := ((MessageLog.reconcile record window).runOn engine.log).2 } :=
  fun outbox => ⟨MessageLog.keeps_reconcile record window engine.log outbox.within, outbox.sorted⟩

theorem Outbox.sendMessage (outbox : engine.Outbox) (conversationId contents : String) :
    Outbox ((Engine.sendMessage conversationId contents).run engine).2 := by
  rcases sendMessage_cases conversationId contents engine with
    ⟨-, -, saves⟩ | ⟨log, inserted, -, saves⟩
  · exact outbox.saved saves
  · have stored : Outbox { engine with
        log
        coordinator := engine.coordinator.track conversationId engine.clock.now } := by
      refine ⟨?_, SyncCoordinator.sorted_track outbox.sorted⟩
      have tracks : engine.coordinator.Hushed
          (engine.coordinator.track conversationId engine.clock.now) := SyncCoordinator.hushed_track
      exact (outbox.within.mono tracks.tracked).insert (fun _ => ⟨rfl, SyncCoordinator.isTracked_track⟩)
        (StoreBacked.insert inserted)
    exact stored.saved saves

theorem Outbox.step (outbox : engine.Outbox) (input : Input) :
    Outbox ((Engine.step input).run engine).2 := by
  have keeps : Always KeepsOutbox (Engine.step input : EngineM σ τ Unit) := by
    refine always_step keepsOutbox_release keepsOutbox_reconcile ?_
    rintro conversationId contents waiter rfl engine outbox
    exact (outbox.sendMessage conversationId contents).retained rfl (.refl _)
  exact keeps engine outbox

/-! ## Answers to requests to write -/

/-- The message is one that was just written here, and its row is the only change of the store. -/
structure Adds (store : Store) (message : Message) (after : Store) : Prop where
  pending : message.syncStatus = .pending
  byUser : message.role = .user
  named : message.localId = some message.id
  new : ∀ row ∈ store.rows, row.id ≠ message.id
  rows : after.rows = store.rows ++ [Row.ofMessage message]

/-- What the answer to a request to write says of the store. -/
def Answer (store : Store) (conversationId contents : String) (after : Store) :
    Except EngineError Message → Prop
  | .ok message =>
    message.conversationId = conversationId ∧ message.contents = contents ∧
      Adds store message after
  | .error _ => after = store

/-- A step that takes a request to write answers it, and no other step answers one. -/
def AnswersWrites (input : Input) (before after : Engine σ τ) : Prop :=
  match input with
  | .command (.sendMessage conversationId contents waiter) =>
    ∃ answer, after.written = before.written ++ [(waiter, answer)] ∧
      Answer before.store conversationId contents after.store answer
  | _ => after.written = before.written

theorem answer_sendMessage (conversationId contents : String) :
    Answer engine.store conversationId contents
      (store ((sendMessage conversationId contents).run engine).2)
      ((sendMessage conversationId contents).run engine).1 := by
  rcases sendMessage_cases conversationId contents engine with
    ⟨error, failed, saves⟩ | ⟨log, inserted, done, saves⟩
  · rw [failed]
    exact congrArg StoreBacked.store saves.log
  · rw [done]
    have stored : store ((sendMessage conversationId contents).run engine).2 =
        StoreBacked.store log := congrArg StoreBacked.store saves.log
    rw [stored]
    rcases Store.insert_eq_ok.mp (StoreBacked.insert inserted) with ⟨free, after⟩
    refine ⟨rfl, rfl, rfl, rfl, rfl, ?_, congrArg Store.rows after⟩
    intro row mem same
    exact free row mem (Or.inl same.symm)

theorem answersWrites_step (input : Input) :
    AnswersWrites input engine ((step input).run engine).2 := by
  cases input with
  | command command =>
      cases command with
      | sendMessage conversationId contents waiter =>
          have saves := engine.saves_step_of_take
            (.command (.sendMessage conversationId contents waiter))
          refine ⟨_, saves.written.trans (written_take_sendMessage _ _ _), ?_⟩
          have stored : store ((step (.command (.sendMessage conversationId contents
              waiter))).run engine).2 =
                store ((sendMessage conversationId contents).run engine).2 :=
            congrArg StoreBacked.store saves.log
          rw [stored]
          exact answer_sendMessage conversationId contents
      | _ => exact written_step_of_other (by simp)
  | _ => exact written_step_of_other (by simp)

/-! ## Requests for a sync -/

/-- The request submits the pending records of the conversation, oldest first, and their local ids
are noted as those that wait for an answer. -/
structure Submits (store : Store) (conversationId : String) (request : SyncRequest)
    (noted : Engine σ τ) : Prop where
  lists : ∃ records, store.ListsPending conversationId records ∧
    request = .ofPending conversationId records
  waits : ∃ schedule flight, noted.coordinator.get? conversationId = some schedule ∧
    schedule.inFlight = some flight ∧ ∀ localId, localId ∈ flight.localIds ↔
      ∃ row ∈ store.rows, row.conversationId = conversationId ∧ row.ReadsPending ∧
        row.localId = some localId

theorem mem_localIds_ofPending {store : Store} {conversationId localId : String}
    {records : List Message} (lists : store.ListsPending conversationId records) :
    localId ∈ (SyncRequest.ofPending conversationId records).localIds ↔
      ∃ row ∈ store.rows, row.conversationId = conversationId ∧ row.ReadsPending ∧
        row.localId = some localId := by
  have listed : ∀ row, (∃ record ∈ records, Row.ofMessage record = row) ↔
      row ∈ store.rows ∧ row.conversationId = conversationId ∧ row.ReadsPending := by
    intro row
    rw [← List.mem_map, lists.rows.mem_iff, List.mem_filter, decide_eq_true_eq]
  simp only [SyncRequest.localIds, SyncRequest.ofPending, List.map_map, List.mem_map]
  constructor
  · rintro ⟨record, mem, rfl⟩
    rcases (listed _).mp ⟨record, mem, rfl⟩ with ⟨stored, inside, pending⟩
    rcases Option.isSome_iff_exists.mp (lists.named record mem) with ⟨localId, named⟩
    refine ⟨Row.ofMessage record, stored, inside, pending, ?_⟩
    simp [PendingMessage.ofMessage, Row.ofMessage, named]
  · rintro ⟨row, stored, inside, pending, named⟩
    rcases (listed row).mpr ⟨stored, inside, pending⟩ with ⟨record, mem, rfl⟩
    have named : record.localId = some localId := named
    exact ⟨record, mem, by simp [PendingMessage.ofMessage, named]⟩

theorem Outbox.submits (outbox : engine.Outbox) {input : Input} {run : SyncRun σ τ}
    (mem : run ∈ runsOf input engine) {request : SyncRequest} {noted : Engine σ τ}
    (requests : run.Requests request noted) :
    Submits engine.store run.conversationId request noted := by
  have starts := startsFrom_of_mem_runsOf outbox.sorted mem
  rcases requests.lists with ⟨records, listed, -, rfl⟩
  -- The run lists what is pending in the log that the step found, whichever run of the step it is.
  rw [starts.log] at listed
  have lists := outbox.within.listsPending (StoreBacked.pending listed)
  refine ⟨⟨records, lists, rfl⟩, ?_⟩
  rcases requests.exists_flight starts with ⟨schedule, flight, found, waits, localIds⟩
  refine ⟨schedule, flight, found, waits, ?_⟩
  intro localId
  rw [localIds, List.mem_eraseDups, mem_localIds_ofPending lists]

/-! ## Runs -/

/-- A sync of the conversation is scheduled or waits for its answer, and the engine will wake up for
it. -/
structure Scheduled (engine : Engine σ τ) (conversationId : String) : Prop where
  tracked : engine.coordinator.isTracked conversationId = true
  wakes : ∃ schedule wake, engine.coordinator.get? conversationId = some schedule ∧
    nextWake engine = some wake ∧ wake ≤ schedule.wakeup

omit [MessageLog σ] [StoreBacked σ] [Transport τ] in
theorem scheduled_of_isTracked {conversationId : String}
    (tracked : engine.coordinator.isTracked conversationId = true) :
    engine.Scheduled conversationId := by
  refine ⟨tracked, ?_⟩
  rcases SyncCoordinator.isTracked_iff.mp tracked with ⟨schedule, found⟩
  rcases SyncCoordinator.exists_nextWakeup found with ⟨wakeup, wakes, wakeup_le⟩
  have mem : wakeup ∈ [engine.retryAt, engine.registry.nextDeadline,
      engine.coordinator.nextWakeup].reduceOption := by
    rw [wakes, List.reduceOption_mem_iff]
    simp
  rcases SyncCoordinator.exists_min?_le mem with ⟨wake, wakesFirst, wake_le⟩
  exact ⟨schedule, wake, found, wakesFirst, wake_le.trans wakeup_le⟩

omit [MessageLog σ] [StoreBacked σ] in
theorem saves_teardown : Always Saves (teardown : EngineM σ τ Unit) := by
  refine .bind (always_onRegistry fun _ => .elsewhere rfl rfl rfl) fun _ => ?_
  refine .bind (always_finishSyncs fun _ => ?_) fun _ => ?_
  · exact ⟨rfl, rfl, SyncCoordinator.retains_rejectWaiters .engineStopped⟩
  · exact fun _ => .elsewhere rfl rfl rfl

/-- Inputs come as the engine takes them, and nobody else changes the store. -/
structure ComesStored (before : Engine σ τ) (input : Input) (found : Engine σ τ) : Prop extends
    Arrives before input found where
  stored : found.store = before.store

/-- Nothing that is written to the engine is lost, whatever comes next. -/
structure OutboxSafe (engine : Engine σ τ) : Prop where
  scheduled : ∀ row ∈ engine.store.rows, row.ReadsPending → engine.Scheduled row.conversationId
  answers : ∀ input found, ComesStored engine input found →
    AnswersWrites input found ((step input).run found).2
  submits : ∀ input found, ComesStored engine input found → ∀ run ∈ runsOf input found,
    ∀ request noted, run.Requests request noted →
      Submits found.store run.conversationId request noted
  stops : Saves engine (teardown.run engine).2

omit [Transport τ] in
theorem Outbox.of_comes (outbox : before.Outbox) {input : Input} {found : Engine σ τ}
    (comes : ComesStored before input found) : found.Outbox :=
  outbox.retained comes.stored (by rw [comes.drifts]; exact .refl _)

/-- An engine that starts on a store without pending records never loses what is written to it. -/
theorem outboxSafe_of_runs {settings : Settings} {transport : τ} {log : σ} {clock : Clock}
    {first : Engine σ τ} (started : start settings transport log clock = .ok first)
    (settled : ∀ row ∈ (StoreBacked.store log).rows, ¬row.ReadsPending)
    (runs : Runs ComesStored first engine) : engine.OutboxSafe := by
  have fresh := fresh_of_start started
  have initially : first.Outbox := by
    refine ⟨?_, by rw [fresh.schedules]; exact Keyed.sorted_empty⟩
    intro row mem pending
    rw [store, fresh.log] at mem
    exact absurd pending (settled row mem)
  have outbox := runs.keeps initially fun before input found outbox comes =>
    (outbox.of_comes comes).step input
  refine ⟨?_, ?_, ?_, saves_teardown engine⟩
  · intro row mem pending
    exact scheduled_of_isTracked (outbox.within row mem pending).2
  · intro input found comes
    exact answersWrites_step input
  · intro input found comes run mem request noted requests
    exact (outbox.of_comes comes).submits mem requests

/-- An engine that has not connected yet. -/
def unconnected : Except StartError (Engine Store ScriptedTransport) :=
  start Settings.standard {} Store.empty ⟨0, default⟩

/-- The engine after a message was written, and then a connection was opened. -/
def reconnected (first : Engine Store ScriptedTransport) : Engine Store ScriptedTransport :=
  ((step (.command .connect)).run
    ((step (.command (.sendMessage "general" "hello" 1))).run first).2).2

/-- What was written without a connection is still pending, and the next timer syncs it. -/
theorem outboxSafe_reconnected : ∃ first, unconnected = .ok first ∧
    (reconnected first).store.rows.map Row.syncStatus = ["pending"] ∧
    (runsOf .timer (reconnected first)).map SyncRun.conversationId = ["general"] ∧
    OutboxSafe (reconnected first) := by
  have left : unconnected.toOption.map (fun first =>
      let written := ((step (.command (.sendMessage "general" "hello" 1))).run first).2
      (written.opening.isNone, (reconnected first).store.rows.map Row.syncStatus,
        (runsOf .timer (reconnected first)).map SyncRun.conversationId)) =
          some (true, ["pending"], ["general"]) := by decide +kernel
  rcases exists_of_toOption_map left with ⟨first, started, same⟩
  simp only [Prod.mk.injEq] at same
  rcases same with ⟨opening, rows, runs⟩
  have fresh := fresh_of_start started
  have writes : ComesStored first (.command (.sendMessage "general" "hello" 1)) first :=
    ⟨⟨rfl, by simp [fresh.opening]⟩, rfl⟩
  have connects : ComesStored _ (.command .connect)
      ((step (.command (.sendMessage "general" "hello" 1))).run first).2 :=
    ⟨⟨rfl, by simp [Option.isNone_iff_eq_none.mp opening]⟩, rfl⟩
  refine ⟨first, started, rows, runs, ?_⟩
  exact outboxSafe_of_runs started (by simp [Store.empty, StoreBacked.store])
    (.next (.next .initial writes) connects)

end Engine

end MessageSync
