import MessageSync.Proofs.Engine.Handlers

/-!
# What every step does

What the engine does about its connection, about commands and when a timer fires, for relations that
are about the log, what is put out and the schedules alone. Such a relation holds of a whole step if
it holds of the things that a step may do to these: reconciling a record, releasing a conversation,
writing a message, noting a caller, and a sync run.

A timer leads to sync runs of the conversations that are due, one after the other. They are listed
here, each with the engine that it starts from.
-/

namespace MessageSync

/-- A sync run of a conversation, with the engine that it starts from. -/
structure SyncRun (σ τ : Type) where
  conversationId : String
  instant : Instant
  engine : Engine σ τ

/-- The engine that a sync run leaves. -/
def SyncRun.left {σ τ : Type} [MessageLog σ] [Transport τ] (run : SyncRun σ τ) : Engine σ τ :=
  ((Engine.runSync run.instant run.conversationId).run run.engine).2

namespace Engine

variable {σ τ : Type}

/-- The log and the answers to requests to write are the same, and no conversation was lost. -/
structure Saves (before after : Engine σ τ) : Prop where
  log : after.log = before.log
  written : after.written = before.written
  retains : before.coordinator.Retains after.coordinator

/-- Something else differs than the log, the schedules and what was put out. -/
theorem Saves.elsewhere {before after : Engine σ τ} (log : after.log = before.log)
    (outputs : after.outputs = before.outputs) (coordinator : after.coordinator = before.coordinator) :
    Saves before after :=
  ⟨log, by simp only [Engine.written, outputs], by rw [coordinator]; exact .refl _⟩

variable [Transport τ]

/-- A preorder that is about the log, what is put out and the schedules, and allows what the engine
does of itself. -/
class Scheduling (related : Engine σ τ → Engine σ τ → Prop) : Prop extends Discreet related where
  elsewhere : ∀ before after : Engine σ τ, after.log = before.log →
    after.outputs = before.outputs → after.coordinator = before.coordinator → related before after

/-- A preorder that allows what the machine makes the engine do, and what the engine does to connect
besides. -/
class Connecting (related : Engine σ τ → Engine σ τ → Prop) : Prop extends
    IsPreorder (Engine σ τ) related where
  setLastError : ∀ error, Always related (setLastError error : EngineM σ τ Unit)
  transport : ∀ (engine : Engine σ τ) transport, related engine { engine with transport }
  opening : ∀ (engine : Engine σ τ) opening, related engine { engine with opening }
  handles : ∀ input, Always related (handle input : EngineM σ τ Bool)

/-! ## The connection -/

section Scheduling

variable {related : Engine σ τ → Engine σ τ → Prop} [Scheduling related]

theorem always_abandonPending :
    Always related (perform .abandonPending : EngineM σ τ Unit) := by
  refine .bind (always_onRegistry fun _ => Scheduling.elsewhere _ _ rfl rfl rfl) fun _ => ?_
  have tells (answers : List SyncAnswer) (conversationIds : List String) :
      Always related (do answerSyncs answers; conversationIds.forM publishSyncError :
        EngineM σ τ Unit) :=
    .bind (.outward (outward_answerSyncs _)) fun _ => .forM fun _ _ =>
      .outward (outward_publishSyncError _)
  refine .get_bind fun engine => ?_
  have abandoned : related engine { engine with
      coordinator := (engine.coordinator.abandonInFlight .notConnected engine.clock.now).2.2 } :=
    Discreet.hushed engine _ SyncCoordinator.hushed_abandonInFlight
  exact trans_of related abandoned (tells _ _ _)

theorem always_perform (effect : ConnectionEffect) :
    Always related (perform effect : EngineM σ τ Unit) := by
  cases effect with
  | openTransport => exact .pure ()
  | closeTransport | scheduleRetry | cancelRetry =>
      exact fun engine => Scheduling.elsewhere _ _ rfl rfl rfl
  | handshake => exact always_sendHandshake
  | resubscribe => exact .bind .get fun _ => .forM fun _ _ => always_sendSubscribe _
  | abandonPending => exact always_abandonPending
  | syncAll =>
      exact .bind always_now fun _ =>
        always_onCoordinator fun _ => SyncCoordinator.hushed_triggerAll

theorem always_handle (input : ConnectionInput) :
    Always related (handle input : EngineM σ τ Bool) := by
  refine .get_bind fun engine => ?_
  simp only [run_bind, run_modify]
  have moved : related engine { engine with machine := (engine.machine.handle input).1 } :=
    Scheduling.elsewhere _ _ rfl rfl rfl
  refine trans_of related moved ?_
  refine trans_of related (Always.outward outward_publishState _) ?_
  exact Always.forM (fun effect _ => always_perform effect) _

instance : Connecting related where
  setLastError _ := .outward (outward_setLastError _)
  transport _ _ := Scheduling.elsewhere _ _ rfl rfl rfl
  opening _ _ := Scheduling.elsewhere _ _ rfl rfl rfl
  handles := always_handle

end Scheduling

/-! ## Attempts to connect -/

section Connecting

variable {related : Engine σ τ → Engine σ τ → Prop} [Connecting related]

theorem always_openFailed (reason : String) :
    Always related (openFailed reason : EngineM σ τ Unit) :=
  .bind (Connecting.setLastError _) fun _ => .bind (Connecting.handles _) fun _ => .pure ()

theorem always_openTransport : Always related (openTransport : EngineM σ τ Unit) := by
  refine .get_bind fun engine => ?_
  simp only [run_bind, run_set]
  have opened : related engine
      { engine with transport := (Transport.connect engine.transport engine.url).2 } :=
    Connecting.transport _ _
  refine trans_of related opened ?_
  generalize (Transport.connect engine.transport engine.url).1 = outcome
  cases outcome with
  | opened =>
      refine Always.bind (Connecting.setLastError _) (fun _ => ?_) _
      exact .bind (Connecting.handles _) fun _ => .pure ()
  | failed error => exact always_openFailed _ _
  | unanswered => exact Connecting.opening _ _

theorem always_apply (input : ConnectionInput) :
    Always related (apply input : EngineM σ τ Unit) := by
  refine .bind (Connecting.handles input) fun opens => ?_
  split
  · exact always_openTransport
  · exact .pure ()

theorem always_abandonOpening (opening : Opening) :
    Always related (abandonOpening opening : EngineM σ τ (Option Instant)) := by
  have ends : Always related (modify ({ · with opening := none }) : EngineM σ τ Unit) :=
    fun engine => Connecting.opening _ _
  have closes : Always related (disconnectTransport : EngineM σ τ Unit) :=
    fun engine => Connecting.transport _ _
  refine .bind ends fun _ => .bind closes fun _ => .bind .get fun _ => ?_
  exact .bind (always_openFailed _) fun _ => .pure _

theorem always_noticeBrokenLink : Always related (noticeBrokenLink : EngineM σ τ Unit) := by
  refine .bind (.bind .get fun _ => .pure _) fun connected => ?_
  refine .bind (.bind .get fun _ => .pure _) fun up => ?_
  split
  · exact always_apply _
  · exact .pure ()

end Connecting

/-! ## The sync runs of a step -/

/-- What a timer that fired at the given instant ends. -/
def endWaits (firedAt : Instant) : EngineM σ τ Unit := do
  let _ ← onRegistry (·.expire firedAt)
  let coordinator := (← get).coordinator
  let error := SyncError.timeout (.ofMillis coordinator.policy.responseTimeout)
  (coordinator.timedOut firedAt).forM fun conversationId => failSync conversationId error firedAt

section Listing

variable [MessageLog σ] {engine : Engine σ τ}

/-- The sync runs of the conversations, one after the other. -/
def runsInTurn (instant : Instant) : List String → Engine σ τ → List (SyncRun σ τ)
  | [], _ => []
  | conversationId :: rest, engine =>
    let run := ⟨conversationId, instant, engine⟩
    run :: runsInTurn instant rest run.left

/-- The sync runs of the conversations that are due. -/
def dueRuns (engine : Engine σ τ) : List (SyncRun σ τ) :=
  runsInTurn engine.clock.now (engine.coordinator.due engine.clock.now) engine

/-- The sync runs that a timer leads to which fired at the given instant. -/
def timerRuns (firedAt : Instant) (engine : Engine σ τ) : List (SyncRun σ τ) :=
  dueRuns ((endWaits firedAt).run engine).2

/-- The engine that goes on with a timer: one that was told of a retry, if that is due. -/
def retried (engine : Engine σ τ) : Engine σ τ :=
  if engine.retryAt.any (· ≤ engine.clock.now) then
    ((apply .retryDue).run { engine with retryAt := none }).2
  else engine

/-- The sync runs of the step that takes an input. -/
def runsOf (input : Input) (engine : Engine σ τ) : List (SyncRun σ τ) :=
  match input with
  | .timer =>
    match engine.retried.opening with
    | some _ => []
    | none => timerRuns engine.clock.now engine.retried
  | .openingOver =>
    match engine.opening with
    | none => []
    | some opening =>
      match ((abandonOpening opening).run engine).1 with
      | some firedAt => timerRuns firedAt ((abandonOpening opening).run engine).2
      | none => []
  | _ => []

/-! ## The listed runs are those that take place -/

theorem run_forM_runSync (instant : Instant) (conversationIds : List String) :
    ((conversationIds.forM (runSync instant)).run engine).2 =
      (runsInTurn instant conversationIds engine).foldl (fun _ run => run.left) engine := by
  induction conversationIds generalizing engine with
  | nil => rfl
  | cons conversationId rest ih => exact ih

theorem run_runDue_eq_left :
    (runDue.run engine).2 = (dueRuns engine).foldl (fun _ run => run.left) engine := by
  rw [runDue, run_bind, run_now, run_bind, run_get, run_forM_runSync, dueRuns]

theorem run_onTimer_eq_retried :
    onTimer.run engine = (goOnWithTimer engine.clock.now).run engine.retried := by
  rw [run_onTimer, retried]
  split <;> rfl

theorem run_finishTimer (firedAt : Instant) (engine : Engine σ τ) :
    (finishTimer firedAt).run engine = runDue.run ((endWaits firedAt).run engine).2 := by
  simp only [finishTimer, endWaits, run_bind]

/-- If a step has sync runs, the input was taken when the last of them was over. -/
theorem run_take_eq_left {input : Input} {last : SyncRun σ τ}
    (ends : (runsOf input engine).getLast? = some last) :
    ((take input).run engine).2 = last.left := by
  have finished : ∀ {firedAt : Instant} {engine : Engine σ τ},
      (timerRuns firedAt engine).getLast? = some last →
        ((finishTimer firedAt).run engine).2 = last.left := by
    intro firedAt engine ends
    rcases List.getLast?_eq_some_iff.mp ends with ⟨earlier, runs⟩
    rw [timerRuns] at runs
    rw [run_finishTimer, run_runDue_eq_left, runs, List.foldl_append, List.foldl_cons,
      List.foldl_nil]
  cases input with
  | timer =>
      change (onTimer.run engine).2 = _
      rw [run_onTimer_eq_retried, goOnWithTimer, run_bind, run_get]
      simp only [runsOf] at ends
      cases opening : engine.retried.opening with
      | some attempt =>
          rw [opening] at ends
          cases ends
      | none =>
          rw [opening] at ends
          exact finished ends
  | openingOver =>
      change (onOpeningOver.run engine).2 = _
      rw [onOpeningOver, run_bind, run_get]
      simp only [runsOf] at ends
      cases opening : engine.opening with
      | none =>
          rw [opening] at ends
          cases ends
      | some attempt =>
          rw [opening] at ends
          simp only at ends ⊢
          rw [run_bind]
          cases timed : ((abandonOpening attempt).run engine).1 with
          | none =>
              rw [timed] at ends
              cases ends
          | some firedAt =>
              rw [timed] at ends
              exact finished ends
  | command | frame | closed | receiveFailed => cases ends

end Listing

/-! ## Timers -/

section Connecting

variable {related : Engine σ τ → Engine σ τ → Prop} [Connecting related]

theorem related_retried_of {engine : Engine σ τ}
    (unarms : related engine { engine with retryAt := none }) : related engine engine.retried := by
  simp only [retried]
  split
  · exact trans_of related unarms (always_apply .retryDue _)
  · exact refl_of related engine

variable [MessageLog σ]
  (finishes : ∀ firedAt, Always related (finishTimer firedAt : EngineM σ τ Unit))

include finishes

theorem always_onTimer
    (unarms : ∀ engine : Engine σ τ, related engine { engine with retryAt := none }) :
    Always related (onTimer : EngineM σ τ Unit) := by
  intro engine
  rw [run_onTimer_eq_retried]
  refine trans_of related (related_retried_of (unarms engine)) ?_
  refine Always.get_bind (fun engine => ?_) _
  split
  · exact Connecting.opening _ _
  · exact finishes _ _

theorem always_onOpeningOver : Always related (onOpeningOver : EngineM σ τ Unit) := by
  refine .bind .get fun engine => ?_
  split
  · exact .pure ()
  · refine .bind (always_abandonOpening _) fun timed => ?_
    split
    · exact finishes _
    · exact .pure ()

/-- What a command or a frame does is left open. -/
theorem always_take_of_handlers {input : Input}
    (unarms : ∀ engine : Engine σ τ, related engine { engine with retryAt := none })
    (commands : ∀ command, input = .command command →
      Always related (handleCommand command : EngineM σ τ Unit))
    (frames : ∀ content, input = .frame content →
      Always related (takeFrame content : EngineM σ τ Unit)) :
    Always related (take input : EngineM σ τ Unit) := by
  cases input with
  | command command => exact commands _ rfl
  | frame content => exact frames _ rfl
  | closed => exact always_apply _
  | receiveFailed error => exact .bind (Connecting.setLastError _) fun _ => always_apply _
  | timer => exact always_onTimer finishes unarms
  | openingOver => exact always_onOpeningOver finishes

end Connecting

section Timers

variable {related : Engine σ τ → Engine σ τ → Prop} [Scheduling related]

theorem always_endWaits (firedAt : Instant) :
    Always related (endWaits firedAt : EngineM σ τ Unit) := by
  refine .bind (always_onRegistry fun _ => Scheduling.elsewhere _ _ rfl rfl rfl) fun _ => ?_
  exact .bind .get fun engine => .forM fun _ _ => always_failSync _ _ _

variable {engine : Engine σ τ}

theorem related_retried (engine : Engine σ τ) : related engine engine.retried :=
  related_retried_of (Scheduling.elsewhere _ _ rfl rfl rfl)

variable [MessageLog σ]

omit [Scheduling related] in
theorem related_runsInTurn [IsPreorder _ related] {instant : Instant} {conversationIds : List String}
    (runs : ∀ run ∈ runsInTurn instant conversationIds engine, related run.engine run.left) :
    related engine
      ((runsInTurn instant conversationIds engine).foldl (fun _ run => run.left) engine) := by
  induction conversationIds generalizing engine with
  | nil => exact refl_of related engine
  | cons conversationId rest later =>
      have first : related engine (SyncRun.left ⟨conversationId, instant, engine⟩) :=
        runs _ List.mem_cons_self
      exact trans_of related first (later fun run mem => runs run (List.mem_cons_of_mem _ mem))

theorem related_finishTimer {firedAt : Instant}
    (runs : ∀ run ∈ timerRuns firedAt engine, related run.engine run.left) :
    related engine ((finishTimer firedAt).run engine).2 := by
  rw [run_finishTimer, run_runDue_eq_left]
  exact trans_of related (always_endWaits firedAt engine) (related_runsInTurn runs)

/-- What each sync run of a timer does, the timer does. -/
theorem related_take_of_runs {input : Input} (fires : input = .timer ∨ input = .openingOver)
    (runs : ∀ run ∈ runsOf input engine, related run.engine run.left) :
    related engine ((take input).run engine).2 := by
  rcases fires with rfl | rfl
  · change related engine (onTimer.run engine).2
    rw [run_onTimer_eq_retried, goOnWithTimer, run_bind, run_get]
    refine trans_of related (related_retried engine) ?_
    simp only [runsOf] at runs
    cases opening : engine.retried.opening with
    | some attempt => exact Scheduling.elsewhere _ _ rfl rfl rfl
    | none =>
        rw [opening] at runs
        exact related_finishTimer runs
  · change related engine (onOpeningOver.run engine).2
    rw [onOpeningOver, run_bind, run_get]
    simp only [runsOf] at runs
    cases opening : engine.opening with
    | none => exact refl_of related engine
    | some attempt =>
        have abandons : related engine ((abandonOpening attempt).run engine).2 :=
          always_abandonOpening attempt engine
        rw [opening] at runs
        simp only at runs ⊢
        rw [run_bind]
        cases timed : ((abandonOpening attempt).run engine).1 with
        | none => exact abandons
        | some firedAt =>
            rw [timed] at runs
            exact trans_of related abandons (related_finishTimer runs)

theorem always_fires {input : Input}
    (syncs : ∀ instant conversationId,
      Always related (runSync instant conversationId : EngineM σ τ Unit))
    (fires : input = .timer ∨ input = .openingOver) :
    Always related (take input : EngineM σ τ Unit) :=
  fun _ => related_take_of_runs fires fun run _ => syncs run.instant run.conversationId run.engine

end Timers

/-! ## Commands and steps -/

section Steps

variable {related : Engine σ τ → Engine σ τ → Prop} [Scheduling related] [MessageLog σ]
  {input : Input}

/-- An input is taken without anything else done to the log, the schedules and what is put out than
reconciling records, releasing conversations, writing messages, noting callers and what a timer
does. -/
theorem always_take_of
    (releases : ∀ conversationId, Always related (release conversationId : EngineM σ τ Unit))
    (reconciles : ∀ (engine : Engine σ τ) (record : Message) (window : MatchWindow),
      related engine
        { engine with log := ((MessageLog.reconcile record window).runOn engine.log).2 })
    (writes : ∀ conversationId contents waiter,
      input = .command (.sendMessage conversationId contents waiter) →
        Always related (take input : EngineM σ τ Unit))
    (asks : ∀ conversationId waiter, input = .command (.syncNow conversationId waiter) →
      Always related (take input : EngineM σ τ Unit))
    (fires : input = .timer ∨ input = .openingOver →
      Always related (take input : EngineM σ τ Unit)) :
    Always related (take input : EngineM σ τ Unit) := by
  have registers (engine : Engine σ τ) (registry : SubscriptionRegistry) :
      related engine { engine with registry } := Scheduling.elsewhere _ _ rfl rfl rfl
  cases input with
  | command command =>
      exact always_handleCommand_of (fun _ _ => always_apply _)
        (fun _ _ _ _ engine _ => registers engine _) (fun _ _ _ engine => registers engine _) releases
        (fun _ _ _ same => writes _ _ _ (congrArg _ same)) fun _ _ same => asks _ _ (congrArg _ same)
  | frame content =>
      exact always_takeFrame reconciles (fun _ _ => Scheduling.elsewhere _ _ rfl rfl rfl)
        (fun engine _ _ => registers engine _) _
  | closed => exact always_apply _
  | receiveFailed error =>
      exact .bind (.outward (outward_setLastError _)) fun _ => always_apply _
  | timer => exact fires (Or.inl rfl)
  | openingOver => exact fires (Or.inr rfl)

omit [Scheduling related] in
/-- Once its input is taken, a step looks at the link and does nothing else. -/
theorem related_step_of_take [IsPreorder _ related]
    (notices : Always related (noticeBrokenLink : EngineM σ τ Unit)) (input : Input)
    (engine : Engine σ τ) :
    related ((take input).run engine).2 ((step input).run engine).2 := by
  refine Always.rest fun _ => .bind .get fun _ => ?_
  split
  · exact notices
  · exact .pure ()

theorem always_step_of_take (taken : Always related (take input : EngineM σ τ Unit)) :
    Always related (step input : EngineM σ τ Unit) :=
  fun engine => trans_of related (taken engine)
    (related_step_of_take always_noticeBrokenLink input engine)

end Steps

/-! ## Relations about the log -/

instance : Mild (Saves : Engine σ τ → Engine σ τ → Prop) where
  refl _ := ⟨rfl, rfl, .refl _⟩
  trans _ _ _ first second :=
    ⟨second.log.trans first.log, second.written.trans first.written,
      first.retains.trans second.retains⟩
  outward _ _ outward :=
    ⟨by rw [outward.same], outward.written, by rw [outward.same]; exact .refl _⟩
  dispatches := dispatches_of_sends fun _ _ sends =>
    .elsewhere (by rw [sends.same]) (by rw [sends.same]) (by rw [sends.same])
  tame _ _ tame := ⟨rfl, rfl, tame.toRetains⟩

instance : Scheduling (Saves : Engine σ τ → Engine σ τ → Prop) where
  elsewhere _ _ := .elsewhere

/-- A preorder that is about the log, the answers to requests to write, and the conversations that
are tracked. -/
class LogRelated (related : Engine σ τ → Engine σ τ → Prop) : Prop extends
    IsPreorder (Engine σ τ) related where
  saves : ∀ before after : Engine σ τ, Saves before after → related before after

variable {related : Engine σ τ → Engine σ τ → Prop} [LogRelated related]

instance : Mild related where
  outward before after outward := LogRelated.saves before after (Telling.outward _ _ outward)
  dispatches envelope := (Outspoken.dispatches envelope).mono LogRelated.saves
  tame engine coordinator tame :=
    LogRelated.saves engine { engine with coordinator } ⟨rfl, rfl, tame.toRetains⟩

instance : Scheduling related where
  elsewhere before after log outputs coordinator :=
    LogRelated.saves before after (.elsewhere log outputs coordinator)

variable [MessageLog σ]

omit [LogRelated related] in
theorem saves_runSync (instant : Instant) (conversationId : String) :
    Always Saves (runSync instant conversationId : EngineM σ τ Unit) :=
  always_runSync (fun _ _ changesOnly => ⟨rfl, rfl, changesOnly.toRetains⟩) instant

section Steps

variable {input : Input}
  (releases : ∀ conversationId, Always related (release conversationId : EngineM σ τ Unit))
  (reconciles : ∀ (engine : Engine σ τ) (record : Message) (window : MatchWindow),
    related engine { engine with log := ((MessageLog.reconcile record window).runOn engine.log).2 })
  (writes : ∀ conversationId contents waiter,
    input = .command (.sendMessage conversationId contents waiter) →
      Always related (take input : EngineM σ τ Unit))

include releases reconciles writes

theorem always_take : Always related (take input : EngineM σ τ Unit) := by
  have syncs (instant : Instant) (conversationId : String) :
      Always related (runSync instant conversationId : EngineM σ τ Unit) :=
    (saves_runSync instant conversationId).mono LogRelated.saves
  refine always_take_of releases reconciles writes ?_ (always_fires syncs)
  rintro conversationId waiter rfl
  exact always_syncNow conversationId waiter

/-- A step reconciles records, releases conversations and writes messages. It does nothing else to
the log and the answers to requests to write, and loses no conversation from the schedules. -/
theorem always_step : Always related (step input : EngineM σ τ Unit) :=
  always_step_of_take (always_take releases reconciles writes)

end Steps

end Engine

end MessageSync
