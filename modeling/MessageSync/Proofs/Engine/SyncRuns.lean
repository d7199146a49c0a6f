import MessageSync.Proofs.Engine.Steps

/-!
# The sync runs of a step

A timer leads to sync runs of the conversations that are due, one after the other. The log is the
same for all of them. A conversation that is due waits for no answer, and the runs before its own
leave its schedule alone, so that every request that a run builds is noted before it is sent. A run
without a request makes nothing wait.
-/

namespace MessageSync

variable {σ τ : Type} [MessageLog σ] [Transport τ]

namespace Engine

/-! ## What a run starts from -/

/-- Only the schedule of one conversation differs. -/
def LeavesOthers (conversationId : String) (before after : Engine σ τ) : Prop :=
  ∀ other, other ≠ conversationId → after.coordinator.get? other = before.coordinator.get? other

instance (conversationId : String) :
    Outspoken (LeavesOthers conversationId : Engine σ τ → Engine σ τ → Prop) where
  refl _ _ _ := rfl
  trans _ _ _ first second other different :=
    (second other different).trans (first other different)
  outward _ _ outward _ _ := by rw [outward.same]
  dispatches := dispatches_of_sends fun _ _ sends _ _ => by rw [sends.same]

/-- The conversation is tracked and waits for no answer. -/
def Waitless (engine : Engine σ τ) (conversationId : String) : Prop :=
  ∃ schedule, engine.coordinator.get? conversationId = some schedule ∧ schedule.inFlight = none

end Engine

namespace SyncRun

open Engine

/-- The sync run starts from the log, for a conversation that waits for no answer. -/
structure StartsFrom (run : SyncRun σ τ) (log : σ) : Prop where
  log : run.engine.log = log
  waitless : run.engine.Waitless run.conversationId

theorem leavesOthers (run : SyncRun σ τ) : LeavesOthers run.conversationId run.engine run.left :=
  always_runSync (fun _ _ changesOnly => changesOnly.others) _ _

end SyncRun

namespace Engine

variable {engine : Engine σ τ} {run : SyncRun σ τ}

theorem startsFrom_of_mem_runsInTurn {instant : Instant} {conversationIds : List String}
    (distinct : conversationIds.Nodup)
    (waitless : ∀ conversationId ∈ conversationIds, engine.Waitless conversationId)
    (mem : run ∈ runsInTurn instant conversationIds engine) : run.StartsFrom engine.log := by
  induction conversationIds generalizing engine with
  | nil => cases mem
  | cons conversationId rest ih =>
      rw [List.nodup_cons] at distinct
      rcases List.mem_cons.mp mem with rfl | later
      · exact ⟨rfl, waitless conversationId List.mem_cons_self⟩
      · -- The first run leaves the log and the schedules of all other conversations as they are.
        have saves : Saves engine ((runSync instant conversationId).run engine).2 :=
          saves_runSync instant conversationId engine
        have leaves := SyncRun.leavesOthers ⟨conversationId, instant, engine⟩
        rw [← saves.log]
        refine ih distinct.2 ?_ later
        intro other otherMem
        have different : other ≠ conversationId := fun same => distinct.1 (same ▸ otherMem)
        rcases waitless other (List.mem_cons_of_mem _ otherMem) with ⟨schedule, found, free⟩
        exact ⟨schedule, (leaves other different).trans found, free⟩

theorem startsFrom_of_mem_timerRuns {firedAt : Instant}
    (sorted : engine.coordinator.conversations.Sorted) (mem : run ∈ timerRuns firedAt engine) :
    run.StartsFrom engine.log := by
  have saves : Saves engine ((endWaits firedAt).run engine).2 := always_endWaits firedAt engine
  rw [← saves.log]
  refine startsFrom_of_mem_runsInTurn (SyncCoordinator.nodup_due (saves.retains.sorted sorted)) ?_ mem
  intro conversationId due
  exact SyncCoordinator.waits_not_of_mem_due (saves.retains.sorted sorted) due

/-- Every sync run of a step starts from the log that the step finds. -/
theorem startsFrom_of_mem_runsOf {input : Input} (sorted : engine.coordinator.conversations.Sorted)
    (mem : run ∈ runsOf input engine) : run.StartsFrom engine.log := by
  cases input with
  | timer =>
      have saves : Saves engine engine.retried := related_retried engine
      simp only [runsOf] at mem
      split at mem
      · cases mem
      · rw [← saves.log]
        exact startsFrom_of_mem_timerRuns (saves.retains.sorted sorted) mem
  | openingOver =>
      simp only [runsOf] at mem
      split at mem
      · cases mem
      · next attempt _ =>
          have saves : Saves engine ((abandonOpening attempt).run engine).2 :=
            always_abandonOpening attempt engine
          split at mem
          · rw [← saves.log]
            exact startsFrom_of_mem_timerRuns (saves.retains.sorted sorted) mem
          · cases mem
  | command | frame | closed | receiveFailed => cases mem

end Engine

/-! ## The request of a run -/

namespace SyncRun

open Engine

/-- The transport is the same. -/
def SendsNothing (before after : Engine σ τ) : Prop :=
  after.transport = before.transport

instance : Telling (SendsNothing : Engine σ τ → Engine σ τ → Prop) where
  refl _ := rfl
  trans _ _ _ first second := Eq.trans second first
  outward _ _ outward := by rw [SendsNothing, outward.same]

/-- The sync run builds the request and notes it. -/
structure Requests (run : SyncRun σ τ) (request : SyncRequest) (noted : Engine σ τ) : Prop where
  connected : run.engine.machine.isConnected = true
  lists : ∃ records, MessageLog.pending run.engine.log run.conversationId = .ok records ∧
    records ≠ [] ∧ request = .ofPending run.conversationId records
  notes : ∃ count, MessageLog.count run.engine.log run.conversationId = .ok count ∧
    noted = { run.engine with
      coordinator := ((run.engine.coordinator.noteCount run.conversationId count run.instant).begin
        run.conversationId request.localIds run.instant).2 }

variable {run : SyncRun σ τ} {log : σ} {request : SyncRequest} {noted : Engine σ τ}

omit [MessageLog σ] [Transport τ] in
theorem StartsFrom.waits_not_of_noteCount (starts : run.StartsFrom log) (count : Nat) :
    ∃ schedule, (run.engine.coordinator.noteCount run.conversationId count run.instant).get?
      run.conversationId = some schedule ∧ schedule.inFlight = none := by
  rcases starts.waitless with ⟨schedule, found, free⟩
  rw [SyncCoordinator.noteCount, SyncCoordinator.get?_change, if_pos rfl, found]
  exact ⟨_, rfl, free⟩

omit [Transport τ] in
theorem Requests.exists_flight (requests : run.Requests request noted)
    (starts : run.StartsFrom log) :
    ∃ schedule flight, noted.coordinator.get? run.conversationId = some schedule ∧
      schedule.inFlight = some flight ∧ flight.localIds = request.localIds.eraseDups := by
  rcases requests.notes with ⟨count, -, rfl⟩
  rcases starts.waits_not_of_noteCount count with ⟨schedule, found, free⟩
  rw [SyncCoordinator.begin_of_waits_not found free, SyncCoordinator.get?_change, if_pos rfl, found]
  exact ⟨_, _, rfl, rfl, rfl⟩

theorem Requests.run_startSync (requests : run.Requests request noted)
    (starts : run.StartsFrom log) :
    (startSync run.conversationId run.instant).run run.engine =
      let sending := (dispatch (.ofRecord SyncRequest.layout run.conversationId .syncRequest
        request)).run noted
      (match sending.1 with
        | .ok _ => .ok ()
        | .error error => .error (.send error.message), sending.2) := by
  rcases requests with ⟨connected, ⟨records, listed, nonempty, rfl⟩, ⟨count, counted, rfl⟩⟩
  rcases starts.waits_not_of_noteCount count with ⟨schedule, found, free⟩
  have begun : ((run.engine.coordinator.noteCount run.conversationId count run.instant).begin
      run.conversationId (SyncRequest.ofPending run.conversationId records).localIds
        run.instant).1 = true := by
    rw [SyncCoordinator.begin_of_waits_not found free]
  cases records with
  | nil => exact absurd rfl nonempty
  | cons first rest =>
      simp only [startSync, run_bind, run_onLog_query, counted, onCoordinator, run_modify, listed,
        run_get, begun, Bool.not_true, Bool.false_eq_true, reduceIte]
      generalize (dispatch _ : EngineM σ τ (Except EngineError Int64)).run _ = sending
      rcases sending with ⟨_ | _, _⟩ <;> rfl

/-- A request that was noted is sent. If that fails, the run has failed. -/
theorem Requests.left_eq (requests : run.Requests request noted) (starts : run.StartsFrom log) :
    run.left =
      let sending := (dispatch (.ofRecord SyncRequest.layout run.conversationId .syncRequest
        request)).run noted
      match sending.1 with
      | .ok _ => sending.2
      | .error error =>
        ((failSync run.conversationId (.send error.message) run.instant).run sending.2).2 := by
  have connected := requests.connected
  simp only [left, runSync, isConnected, run_bind, run_get, run_pure, connected, reduceIte,
    requests.run_startSync starts]
  generalize (dispatch _).run noted = sending
  rcases sending with ⟨_ | _, _⟩ <;> rfl

/-- A run without a request puts something out and changes the schedules, and makes nothing wait. -/
theorem related_left {related : Engine σ τ → Engine σ τ → Prop} [Telling related]
    (schedules : ∀ (engine : Engine σ τ) (coordinator : SyncCoordinator),
      engine.coordinator.Hushed coordinator → related engine { engine with coordinator })
    (silent : ∀ request noted, ¬run.Requests request noted) : related run.engine run.left := by
  rcases run with ⟨conversationId, instant, engine⟩
  by_cases connected : engine.machine.isConnected = true
  · have started : related engine ((startSync conversationId instant).run engine).2 := by
      cases counted : MessageLog.count engine.log conversationId with
      | error error =>
          simp only [startSync, run_bind, run_onLog_query, counted]
          exact refl_of related engine
      | ok count =>
      have notes : related engine { engine with
          coordinator := engine.coordinator.noteCount conversationId count instant } :=
        schedules engine _ (SyncCoordinator.hushed_noteCount count)
      cases listed : MessageLog.pending engine.log conversationId with
      | error error =>
          simp only [startSync, run_bind, run_onLog_query, counted, onCoordinator, run_modify,
            listed]
          exact notes
      | ok records =>
      cases records with
      | nil =>
          simp only [startSync, run_bind, run_onLog_query, counted, onCoordinator, run_modify,
            listed, run_pure]
          have completes : Always related
              (completeSync ⟨conversationId, 0, 0, 0⟩ instant : EngineM σ τ Unit) :=
            always_completeSync_of fun engine live =>
              schedules engine _ (SyncCoordinator.hushed_succeed _ live)
          exact trans_of related notes (completes _)
      | cons first rest =>
          exact absurd ⟨connected, ⟨_, listed, by simp, rfl⟩, ⟨count, counted, rfl⟩⟩ (silent _ _)
    have fails (error : SyncError) : Always related
        (failSync conversationId error instant : EngineM σ τ Unit) :=
      always_failSync_of fun engine => schedules engine _ SyncCoordinator.hushed_fail
    simp only [left, runSync, isConnected, run_bind, run_get, run_pure, connected, reduceIte]
    generalize (startSync conversationId instant : EngineM σ τ _).run engine = ran at started ⊢
    rcases ran with ⟨_ | _, _⟩
    · exact trans_of related started (fails _ _)
    · exact started
  · simp only [left, runSync, isConnected, run_bind, run_get, run_pure, connected]
    exact schedules engine _ (SyncCoordinator.hushed_skip _)

/-- A run without a request does not touch the transport. -/
theorem transport_left (silent : ∀ request noted, ¬run.Requests request noted) :
    run.left.transport = run.engine.transport := by
  have quiet : SendsNothing run.engine run.left := related_left (fun _ _ _ => rfl) silent
  exact quiet

end SyncRun

end MessageSync
