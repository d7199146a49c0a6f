import MessageSync.Proofs.Engine.Runs
import MessageSync.Proofs.Engine.SyncResults
import MessageSync.Proofs.Engine.SyncRuns
import MessageSync.Simulation.Fixtures

/-!
# Answers to sync requests

The answer to a sync request is taken once. The results that count are merged into the log in their
order, up to the first that cannot be merged. The request is finished by that, and an answer that
nobody waits for does nothing. So a record that was submitted is merged at most once for each
request, whatever else the server sends.
-/

namespace MessageSync

namespace MessageLog

variable {σ : Type} [MessageLog σ]

/-- Merges records into a log one after the other. The first that cannot be merged ends it. -/
def reconcileAll (window : MatchWindow) : List Message → LogM σ Unit
  | [] => return ()
  | record :: records => do
    let _ ← reconcile record window
    reconcileAll window records

end MessageLog

namespace Engine

variable {σ τ : Type} {before after engine : Engine σ τ}

/-! ## Merging results -/

/-- Listeners were told of something, and nothing else happened. -/
structure Tells (before after : Engine σ τ) : Prop where
  same : after = { before with outputs := after.outputs }
  told : ∃ told : List (ListenerId × Event),
    after.outputs = before.outputs ++ told.map fun (listener, event) => .told listener event

instance : IsPreorder (Engine σ τ) Tells where
  refl _ := ⟨rfl, [], (List.append_nil _).symm⟩
  trans _ _ _ first second := by
    rcases first.told with ⟨firstTold, firstOutputs⟩
    rcases second.told with ⟨secondTold, secondOutputs⟩
    refine ⟨by rw [second.same, first.same], firstTold ++ secondTold, ?_⟩
    rw [secondOutputs, firstOutputs, List.map_append, List.append_assoc]

theorem tells_tell (event : Event) : Always Tells (tell event : EngineM σ τ Unit) := by
  intro engine
  rw [run_tell]
  exact ⟨rfl, (engine.listeners.called event).map (·, event), by simp⟩

theorem Tells.withLog (tells : Tells before after) (log : σ) :
    Tells { before with log } { after with log } :=
  ⟨by rw [tells.same], tells.told⟩

variable [MessageLog σ]

theorem tells_tellStored (id : String) : Always Tells (tellStored id : EngineM σ τ Unit) := by
  refine .bind (fun _ => refl_of Tells _) fun found => ?_
  split
  · exact tells_tell _
  · exact .pure ()

/-- Merging a record does to the log what reconciling it does, and listeners may be told. -/
theorem run_ingest {record : Message} {merged : Except LogError Outcome} {log : σ}
    (ran : (MessageLog.reconcile record engine.window).runOn engine.log = (merged, log)) :
    ∃ next, (ingest record).run engine = (merged.map fun _ => (), next) ∧
      Tells { engine with log } next := by
  simp only [ingest, run_bind, run_get, run_onLog, ran]
  cases merged with
  | error error => exact ⟨_, rfl, refl_of Tells _⟩
  | ok outcome =>
      simp only
      split
      · exact ⟨_, rfl, tells_tellStored outcome.id _⟩
      · exact ⟨_, rfl, refl_of Tells _⟩

/-- The summary after some results, of which the given ones counted. -/
structure Tallies (before : SyncSummary) (counted : List SyncResult) (results : List SyncResult)
    (after : SyncSummary) : Prop where
  conversationId : after.conversationId = before.conversationId
  synced : after.synced = before.synced + counted.countP (·.status = .synced)
  conflicts : after.conflicts = before.conflicts + counted.countP (·.status = .conflict)
  ignored : after.ignored + counted.length = before.ignored + results.length

/-- What comes of results, of which the given ones count. -/
def TakenAs (before : SyncSummary) (counted results : List SyncResult) :
    Except LogError Unit → Except LogError SyncSummary → Prop
  | .error error, taken => taken = .error error
  | .ok _, taken => ∃ after, taken = .ok after ∧ Tallies before counted results after

theorem TakenAs.ignore {before : SyncSummary} {counted results : List SyncResult}
    {merged : Except LogError Unit} {taken : Except LogError SyncSummary} (result : SyncResult)
    (takenAs : TakenAs { before with ignored := before.ignored + 1 } counted results merged taken) :
    TakenAs before counted (result :: results) merged taken := by
  cases merged with
  | error error => exact takenAs
  | ok done =>
      rcases takenAs with ⟨after, same, tallies⟩
      refine ⟨after, same, tallies.conversationId, tallies.synced, tallies.conflicts, ?_⟩
      have ignored := tallies.ignored
      simp only [List.length_cons] at *
      omega

theorem TakenAs.count {before next : SyncSummary} {result : SyncResult}
    {counted results : List SyncResult} {merged : Except LogError Unit}
    {taken : Except LogError SyncSummary} (tallies : Tallies before [result] [result] next)
    (takenAs : TakenAs next counted results merged taken) :
    TakenAs before (result :: counted) (result :: results) merged taken := by
  cases merged with
  | error error => exact takenAs
  | ok done =>
      rcases takenAs with ⟨after, same, later⟩
      refine ⟨after, same, later.conversationId.trans tallies.conversationId, ?_, ?_, ?_⟩
      · rw [later.synced, tallies.synced, Nat.add_assoc, ← List.countP_append]
        rfl
      · rw [later.conflicts, tallies.conflicts, Nat.add_assoc, ← List.countP_append]
        rfl
      · have ignored := later.ignored
        have first := tallies.ignored
        simp only [List.length_cons, List.length_nil] at *
        omega

/-- The summary with one more result that counts. -/
def noting (summary : SyncSummary) (result : SyncResult) : SyncSummary :=
  match result.status with
  | .synced => { summary with synced := summary.synced + 1 }
  | .conflict => { summary with conflicts := summary.conflicts + 1 }

omit [MessageLog σ] in
theorem tallies_noting (summary : SyncSummary) (result : SyncResult) :
    Tallies summary [result] [result] (noting summary result) := by
  simp only [noting]
  cases status : result.status with
  | synced => exact ⟨rfl, by simp [status], by simp [status], rfl⟩
  | conflict => exact ⟨rfl, by simp [status], by simp [status], rfl⟩

/-- A result that counts is merged before the others are looked at. -/
theorem run_takeResults_cons {submitted applied : List String} {result : SyncResult}
    {results : List SyncResult} {summary : SyncSummary}
    (free : (!submitted.contains result.localId || applied.contains result.localId) = false) :
    (takeResults submitted (result :: results) applied summary).run engine =
      match (ingest result.record).run engine with
      | (.error error, merged) => (.error error, merged)
      | (.ok (), merged) =>
        (takeResults submitted results (result.localId :: applied) (noting summary result)).run
          merged := by
  rcases result with ⟨localId, status, message⟩
  simp only [takeResults, free, Bool.false_eq_true, reduceIte, run_bind, SyncResult.record, noting]
  cases status with
  | synced | conflict =>
      simp only
      generalize (ingest _).run engine = ran
      rcases ran with ⟨_ | _, _⟩ <;> rfl

/-- Taking results is merging the records of those that count, up to the first error. -/
theorem run_takeResults {submitted applied : List String} {earlier results : List SyncResult}
    {summary : SyncSummary} {merged : Except LogError Unit} {log : σ}
    (agree : SyncResult.Agree submitted applied earlier)
    (ran : (MessageLog.reconcileAll engine.window
      ((SyncResult.counting submitted earlier results).map SyncResult.record)).runOn engine.log =
        (merged, log)) :
    TakenAs summary (SyncResult.counting submitted earlier results) results merged
        ((takeResults submitted results applied summary).run engine).1 ∧
      Tells { engine with log } ((takeResults submitted results applied summary).run engine).2 := by
  induction results generalizing engine applied earlier summary with
  | nil =>
      cases ran
      exact ⟨⟨summary, rfl, ⟨rfl, rfl, rfl, rfl⟩⟩, refl_of Tells _⟩
  | cons result results ih =>
      simp only [SyncResult.counting] at ran ⊢
      by_cases counts : result.Counts submitted earlier
      · have free := agree.counts_iff.mp counts
        simp only [counts, reduceIte, List.map_cons, MessageLog.reconcileAll] at ran ⊢
        rw [LogM.runOn_bind] at ran
        rw [run_takeResults_cons free]
        rcases first : (MessageLog.reconcile result.record engine.window).runOn engine.log with
          ⟨_ | outcome, middle⟩
        · rw [first] at ran
          cases ran
          rcases run_ingest first with ⟨next, ingested, tells⟩
          rw [ingested]
          exact ⟨rfl, tells⟩
        · rw [first] at ran
          rcases run_ingest first with ⟨next, ingested, tells⟩
          rw [ingested]
          have nextWindow : next.window = engine.window := by rw [tells.same]
          have nextLog : next.log = middle := by rw [tells.same]
          rw [← nextWindow, ← nextLog] at ran
          rcases ih agree.counted ran with ⟨takenAs, later⟩
          exact ⟨takenAs.count (tallies_noting summary result),
            trans_of Tells (tells.withLog log) later⟩
      · have passed := mt agree.counts_iff.mpr counts
        rw [Bool.not_eq_false] at passed
        simp only [counts, takeResults, passed, reduceIte] at ran ⊢
        rcases ih (agree.passed counts) ran with ⟨takenAs, tells⟩
        exact ⟨takenAs.ignore result, tells⟩

/-! ## Finishing a run -/

/-- What listeners are told of the end of a sync run. -/
def announced (engine : Engine σ τ) : Except SyncError SyncSummary → List Output
  | .error _ => []
  | .ok summary =>
    (engine.listeners.called (.syncComplete summary)).map (.told · (.syncComplete summary))

/-- The sync run of a conversation is over. The conversation waits for no answer, the result is
published, and those who waited for it have it. Nothing else differs. -/
structure Finishes (conversationId : String) (waiters : List Waiter)
    (result : Except SyncError SyncSummary) (before after : Engine σ τ) : Prop where
  elsewhere : after = { before with
    coordinator := after.coordinator
    outputs := after.outputs
    status := { before.status with syncErrors := after.status.syncErrors } }
  policy : after.coordinator.policy = before.coordinator.policy
  others : ∀ other, other ≠ conversationId →
    after.coordinator.get? other = before.coordinator.get? other
  ended : ∃ schedule, after.coordinator.get? conversationId = some schedule ∧
    schedule.inFlight = none ∧ schedule.waiters = []
  error : ∀ error, after.coordinator.lastError? conversationId = some error ↔ result = .error error
  published : ∀ other, after.status.syncErrors.get? other =
    if other = conversationId then
      (after.coordinator.lastError? conversationId).map SyncError.message
    else before.status.syncErrors.get? other
  answered : after.outputs = before.outputs ++ before.announced result ++
    waiters.map fun waiter => .reply waiter (.synced result)

omit [MessageLog σ] in
/-- Taking the request of the run before it is finished makes no difference. -/
theorem Finishes.of_taken {taken : Engine σ τ} {conversationId : String} {waiters : List Waiter}
    {result : Except SyncError SyncSummary} (finishes : Finishes conversationId waiters result taken after)
    (took : taken = { before with
      coordinator := (before.coordinator.takeInFlight conversationId).2 }) :
    Finishes conversationId waiters result before after := by
  subst took
  refine ⟨finishes.elsewhere, finishes.policy, fun other different => ?_, finishes.ended,
    finishes.error, finishes.published, finishes.answered⟩
  rw [finishes.others other different]
  simp only [SyncCoordinator.takeInFlight, SyncCoordinator.get?_change, if_neg different]

section Finishing

variable {conversationId : String} {schedule : ConversationSync}

omit [MessageLog σ] in
theorem finishes_of_change {result : Except SyncError SyncSummary}
    {change : SyncCoordinator → List SyncAnswer × SyncCoordinator}
    (f : ConversationSync → ConversationSync)
    (found : engine.coordinator.get? conversationId = some schedule)
    (changes : change engine.coordinator =
      (schedule.answers result, engine.coordinator.change conversationId f))
    (free : (f schedule).inFlight = none) (dismissed : (f schedule).waiters = [])
    (error : ∀ error, (f schedule).lastError = some error ↔ result = .error error) :
    Finishes conversationId schedule.waiters result engine
      ((do finishSyncs change; publishSyncError conversationId : EngineM σ τ Unit).run
        { engine with outputs := engine.outputs ++ engine.announced result }).2 := by
  have next : (engine.coordinator.change conversationId f).get? conversationId =
      some (f schedule) := by
    rw [SyncCoordinator.get?_change, if_pos rfl, found]
    rfl
  have last : (engine.coordinator.change conversationId f).lastError? conversationId =
      (f schedule).lastError := by
    rw [SyncCoordinator.lastError?, next]
    rfl
  simp only [finishSyncs, publishSyncError, setSyncError, run_bind, run_get, run_modify, changes,
    run_answerSyncs]
  refine ⟨rfl, rfl, fun other different => ?_, ⟨f schedule, next, free, dismissed⟩, ?_, ?_, ?_⟩
  · simp only [SyncCoordinator.get?_change, if_neg different]
  · simpa only [last] using error
  · intro other
    simp only [last]
    cases (f schedule).lastError with
    | none => exact Keyed.get?_erase _ _ _
    | some error => exact Keyed.get?_set _ _ _ _
  · simp only [ConversationSync.answers, List.map_map]
    rfl

omit [MessageLog σ] in
theorem finishes_failSync (found : engine.coordinator.get? conversationId = some schedule)
    (error : SyncError) (instant : Instant) :
    Finishes conversationId schedule.waiters (.error error) engine
      ((failSync conversationId error instant).run engine).2 := by
  have fails : Finishes conversationId schedule.waiters (.error error) engine
      ((failSync conversationId error instant).run
        { engine with outputs := engine.outputs ++ [] }).2 := by
    refine finishes_of_change (·.failed engine.coordinator.policy error instant) found ?_ rfl rfl
      fun other => ?_
    · simp only [SyncCoordinator.fail, found]
    · simp only [ConversationSync.failed, Option.some.injEq, Except.error.injEq]
  simpa only [List.append_nil] using fails

omit [MessageLog σ] in
theorem finishes_completeSync {summary : SyncSummary}
    (named : summary.conversationId = conversationId)
    (found : engine.coordinator.get? conversationId = some schedule) (instant : Instant) :
    Finishes conversationId schedule.waiters (.ok summary) engine
      ((completeSync summary instant).run engine).2 := by
  subst named
  let live := engine.machine.isConnected && engine.registry.isSubscribed summary.conversationId
  have told : (completeSync summary instant).run engine =
      (do finishSyncs (·.succeed summary instant live); publishSyncError summary.conversationId :
        EngineM σ τ Unit).run
        { engine with outputs := engine.outputs ++ engine.announced (.ok summary) } := by
    have pushes : (pushLive summary.conversationId).run engine = (live, engine) := rfl
    rw [completeSync, run_bind, pushes, run_bind, run_tell]
    rfl
  rw [told]
  refine finishes_of_change (·.succeeded engine.coordinator.policy instant live) found ?_ rfl rfl
    fun error => ?_
  · simp only [SyncCoordinator.succeed, found]
  · simp only [ConversationSync.succeeded, reduceCtorEq]

end Finishing

/-! ## An answer -/

/-- The summary of the results of an answer. -/
structure Sums (response : SyncResponse) (submitted : List String) (summary : SyncSummary) :
    Prop where
  conversationId : summary.conversationId = response.conversationId
  every : summary.synced + summary.conflicts + summary.ignored = response.results.length
  merged : summary.synced + summary.conflicts = (response.answered submitted).card
  conflicts : summary.conflicts = ((response.answered submitted).filter response.Conflicts).card

/-- The result of the run, by the outcome of merging the results. -/
def Concludes (response : SyncResponse) (submitted : List String) (merged : Except LogError Unit)
    (result : Except SyncError SyncSummary) : Prop :=
  match merged with
  | .error error => result = .error (.store error.message)
  | .ok _ => ∃ summary, result = .ok summary ∧ Sums response submitted summary

/-- The results of the answer that count were merged in turn, which listeners may have been told of,
and with that the run is over. No record was merged twice. -/
structure Settles (response : SyncResponse) (submitted : List String) (waiters : List Waiter)
    (before after : Engine σ τ) : Prop where
  once : ((SyncResult.counting submitted [] response.results).map SyncResult.localId).Nodup
  settled : ∃ merged log result, ∃ told : List (ListenerId × Event),
    (MessageLog.reconcileAll before.window ((SyncResult.counting submitted [] response.results).map
      SyncResult.record)).runOn before.log = (merged, log) ∧
    Concludes response submitted merged result ∧
    Finishes response.conversationId waiters result { before with
      log
      outputs := before.outputs ++ told.map fun (listener, event) => .told listener event } after

/-- Nothing changed, whatever the order in which the conversations are held. -/
structure Unmoved (before after : Engine σ τ) : Prop where
  elsewhere : after = { before with coordinator := after.coordinator }
  schedules : ∀ conversationId,
    after.coordinator.get? conversationId = before.coordinator.get? conversationId
  same : before.coordinator.conversations.Sorted → after = before

variable {response : SyncResponse}

theorem sums_of_tallies {submitted : List String} {summary : SyncSummary}
    (tallies : Tallies { conversationId := response.conversationId }
      (SyncResult.counting submitted [] response.results) response.results summary) :
    Sums response submitted summary := by
  have every : _ = 0 + response.results.length := tallies.ignored
  have synced : summary.synced = 0 + _ := tallies.synced
  have conflicts : summary.conflicts = 0 + _ := tallies.conflicts
  have counted : _ = (response.answered submitted).card := SyncResponse.length_counting
  have parts := SyncResult.length_eq_add (SyncResult.counting submitted [] response.results)
  rw [SyncResponse.countP_counting_conflict] at conflicts parts
  exact ⟨tallies.conversationId, by omega, by omega, by omega⟩

theorem unmoved_takeSyncResponse
    (free : engine.coordinator.isInFlight response.conversationId = false) :
    Unmoved engine ((takeSyncResponse response).run engine).2 := by
  rcases SyncCoordinator.takeInFlight_of_waits_not free with ⟨none, schedules⟩
  simp only [takeSyncResponse, now, run_bind, run_get, run_pure, run_modify, none]
  refine ⟨rfl, schedules, fun sorted => ?_⟩
  rw [SyncCoordinator.takeInFlight_eq_self sorted free]

theorem settles_takeSyncResponse {schedule : ConversationSync} {flight : InFlight}
    (found : engine.coordinator.get? response.conversationId = some schedule)
    (waits : schedule.inFlight = some flight) :
    Settles response flight.localIds schedule.waiters engine
      ((takeSyncResponse response).run engine).2 := by
  refine ⟨SyncResult.nodup_counting, ?_⟩
  rcases ran : (MessageLog.reconcileAll engine.window ((SyncResult.counting flight.localIds []
    response.results).map SyncResult.record)).runOn engine.log with ⟨merged, log⟩
  -- The results are taken by an engine that has taken the request.
  let taken : Engine σ τ := { engine with
    coordinator := (engine.coordinator.takeInFlight response.conversationId).2 }
  have submitted : (engine.coordinator.takeInFlight response.conversationId).1 =
      some flight.localIds := by
    simp only [SyncCoordinator.takeInFlight, found, Option.bind_some, waits, Option.map_some]
  have took : TakenAs ⟨response.conversationId, 0, 0, 0⟩ _ _ merged _ ∧ Tells { taken with log } _ :=
    run_takeResults SyncResult.agree_nil ran
  simp only [takeSyncResponse, now, run_bind, run_get, run_pure, run_modify, submitted]
  generalize (takeResults flight.localIds response.results [] _).run taken = results at took ⊢
  rcases results with ⟨result, next⟩
  rcases took with ⟨takenAs, same, told, outputs⟩
  simp only at takenAs same outputs ⊢
  have free : next.coordinator.get? response.conversationId =
      some { schedule with inFlight := none } := by
    rw [same]
    simp only [taken, SyncCoordinator.takeInFlight, SyncCoordinator.get?_change, if_true, found]
    rfl
  rw [outputs] at same
  refine ⟨merged, log, ?_⟩
  cases merged with
  | error error =>
      cases takenAs
      exact ⟨_, told, rfl, rfl, (finishes_failSync free _ _).of_taken same⟩
  | ok done =>
      rcases takenAs with ⟨summary, rfl, tallies⟩
      exact ⟨_, told, rfl, ⟨summary, rfl, sums_of_tallies tallies⟩,
        (finishes_completeSync tallies.conversationId free _).of_taken same⟩

/-- An answer leaves its conversation without a request that waits for one. -/
theorem waits_not_takeSyncResponse (engine : Engine σ τ) (response : SyncResponse) :
    ((takeSyncResponse response).run engine).2.coordinator.isInFlight response.conversationId =
      false := by
  by_cases free : engine.coordinator.isInFlight response.conversationId = false
  · rw [← free]
    simp only [SyncCoordinator.isInFlight, (unmoved_takeSyncResponse free).schedules]
  · rw [Bool.not_eq_false, SyncCoordinator.isInFlight, Option.any_eq_true] at free
    rcases free with ⟨schedule, found, waits⟩
    rcases Option.isSome_iff_exists.mp waits with ⟨flight, waits⟩
    rcases (settles_takeSyncResponse found waits).settled with ⟨_, _, _, _, -, -, finishes⟩
    rcases finishes.ended with ⟨next, nextFound, ended, -⟩
    rw [SyncCoordinator.isInFlight, nextFound, Option.any_some, ended, Option.isSome_none]

/-! ## Until the next request -/

variable [Transport τ] {conversationId : String}

/-- The conversation waits for an answer only if it did before. -/
def StaysFree (conversationId : String) (before after : Engine σ τ) : Prop :=
  after.coordinator.isInFlight conversationId = true →
    before.coordinator.isInFlight conversationId = true

omit [MessageLog σ] in
instance : Mild (StaysFree conversationId : Engine σ τ → Engine σ τ → Prop) where
  refl _ := id
  trans _ _ _ first second waits := first (second waits)
  outward _ _ outward waits := by rwa [outward.same] at waits
  dispatches := dispatches_of_sends fun _ _ sends waits => by rwa [sends.same] at waits
  tame _ _ tame := tame.inFlight conversationId

omit [MessageLog σ] in
instance : Scheduling (StaysFree conversationId : Engine σ τ → Engine σ τ → Prop) where
  elsewhere _ _ _ _ coordinator waits := by rwa [coordinator] at waits

/-- An input comes after things changed that are not the engine's own, and none of the sync runs that
it leads to builds a request of the conversation. -/
structure Unrequested (conversationId : String) (before : Engine σ τ) (input : Input)
    (found : Engine σ τ) : Prop where
  drifts : Drifts before found
  silent : ∀ run ∈ runsOf input found, run.conversationId = conversationId →
    ∀ request noted, ¬run.Requests request noted

theorem staysFree_take {input : Input}
    (silent : ∀ run ∈ runsOf input engine, run.conversationId = conversationId →
      ∀ request noted, ¬run.Requests request noted) :
    StaysFree conversationId engine ((take input).run engine).2 := by
  by_cases fires : input = .timer ∨ input = .openingOver
  · refine related_take_of_runs fires fun run mem => ?_
    by_cases same : run.conversationId = conversationId
    · exact run.related_left (fun _ _ hushed => hushed.inFlight conversationId) (silent run mem same)
    · intro waits
      rwa [SyncCoordinator.isInFlight, run.leavesOthers conversationId (Ne.symm same)] at waits
  · have takes : Always (StaysFree conversationId) (take input : EngineM σ τ Unit) := by
      refine always_take_of (fun other => ?_) (fun _ _ _ => id) ?_ ?_ fun timer => absurd timer fires
      · exact always_release fun _ => SyncCoordinator.isInFlight_untrack
      · rintro other contents waiter rfl
        exact .bind (always_sendMessage (fun _ => id) fun _ _ => id) fun _ => fun _ => id
      · rintro other waiter rfl
        exact always_syncNow other waiter
    exact takes engine

theorem staysFree_step {input : Input}
    (silent : ∀ run ∈ runsOf input engine, run.conversationId = conversationId →
      ∀ request noted, ¬run.Requests request noted) :
    StaysFree conversationId engine ((step input).run engine).2 :=
  trans_of (StaysFree conversationId) (staysFree_take silent)
    (related_step_of_take always_noticeBrokenLink input engine)

/-- A conversation that waits for no answer waits for none until a request of it is built. -/
theorem waits_not_of_runs {first : Engine σ τ}
    (free : first.coordinator.isInFlight conversationId = false)
    (runs : Runs (Unrequested conversationId) first engine) :
    engine.coordinator.isInFlight conversationId = false := by
  induction runs with
  | initial => exact free
  | next runs comes free =>
      rw [← Bool.not_eq_true] at free ⊢
      intro waits
      have waited := staysFree_step comes.silent waits
      rw [comes.drifts] at waited
      exact free waited

/-- The frame bears the answer. -/
def Bears (content : Packing.Bytes) (engine : Engine σ τ) (response : SyncResponse) : Prop :=
  ∃ envelope, Envelope.decodeFrame content engine.fallbackConversation = .ok envelope ∧
    envelope.messageType = .syncResponse ∧
    envelope.bodyAs SyncResponse.layout.codec = .ok response

theorem run_take_of_bears {content : Packing.Bytes} (bears : Bears content engine response) :
    ∃ stanzas, (take (.frame content)).run engine =
      (takeSyncResponse response).run { engine with stanzas } := by
  rcases bears with ⟨envelope, decoded, answers, read⟩
  refine ⟨engine.stanzas.observe envelope.stanzaId, ?_⟩
  simp only [take, takeFrame, run_bind, run_get, decoded, run_modify, route, answers, withBody, read]

theorem waits_not_step_of_bears {content : Packing.Bytes} (bears : Bears content engine response) :
    ((step (.frame content)).run engine).2.coordinator.isInFlight response.conversationId = false := by
  rcases run_take_of_bears bears with ⟨stanzas, takes⟩
  have free := waits_not_takeSyncResponse { engine with stanzas } response
  have stays : StaysFree response.conversationId ((take (.frame content)).run engine).2
      ((step (.frame content)).run engine).2 :=
    related_step_of_take always_noticeBrokenLink _ _
  rw [takes] at stays
  rw [← Bool.not_eq_true] at free ⊢
  exact mt stays free

/-- An answer to a sync request is taken once. If its conversation waits for none, nothing changes.
Otherwise the results that count are merged and the run is over, for all who waited for it. After
that, and whenever the conversation waits for no answer, no other answer changes anything before the
next request of the conversation. -/
theorem takeSyncResponse_once (engine : Engine σ τ) (response : SyncResponse) :
    (engine.coordinator.isInFlight response.conversationId = false →
      Unmoved engine ((takeSyncResponse response).run engine).2) ∧
    (∀ schedule flight, engine.coordinator.get? response.conversationId = some schedule →
      schedule.inFlight = some flight →
        Settles response flight.localIds schedule.waiters engine
          ((takeSyncResponse response).run engine).2) ∧
    (∀ content later late, Bears content engine response →
      Runs (Unrequested response.conversationId) ((step (.frame content)).run engine).2 later →
        late.conversationId = response.conversationId →
          Unmoved later ((takeSyncResponse late).run later).2) ∧
    ∀ later late, engine.coordinator.isInFlight response.conversationId = false →
      Runs (Unrequested response.conversationId) engine later →
        late.conversationId = response.conversationId →
          Unmoved later ((takeSyncResponse late).run later).2 := by
  have unmoved {since later : Engine σ τ} {late : SyncResponse}
      (free : since.coordinator.isInFlight response.conversationId = false)
      (runs : Runs (Unrequested response.conversationId) since later)
      (same : late.conversationId = response.conversationId) :
      Unmoved later ((takeSyncResponse late).run later).2 := by
    refine unmoved_takeSyncResponse ?_
    rw [same]
    exact waits_not_of_runs free runs
  exact ⟨unmoved_takeSyncResponse, fun _ _ => settles_takeSyncResponse,
    fun _ _ _ bears => unmoved (waits_not_step_of_bears bears), fun _ _ => unmoved⟩

/-- A log with one record, which was written here and that no server knows of. -/
def oneUnsent : Store :=
  ⟨[Row.ofMessage { Message.canonical "l1" "c1" 1 .user "Hi" default with
      localId := some "l1", serverId := none, syncStatus := .pending }], Store.schemaVersion⟩

/-- The engine once the record was submitted, for a caller who waits for the end of the run. -/
def awaited (first : Engine Store ScriptedTransport) : Engine Store ScriptedTransport :=
  let tracked := (first.coordinator.track "c1" 0).addWaiter "c1" 7
  { first with coordinator := (tracked.2.begin "c1" ["l1"] 0).2 }

/-- An answer with a result for the submitted record, the same again, and one for another record. -/
def threefold : SyncResponse :=
  let stored (localId serverId : String) : SyncResult :=
    ⟨localId, .synced, ⟨serverId, "c1", 2, .user, "Hi", default, default, none⟩, none⟩
  ⟨"c1", [stored "l1" "m1", stored "l1" "m1", stored "l2" "m2"], none⟩

theorem merges_threefold :
    (MessageLog.reconcileAll MatchWindow.standard ((SyncResult.counting ["l1"] []
      threefold.results).map SyncResult.record) |>.runOn oneUnsent).1.toOption = some () := by
  decide +kernel

theorem bears_threefold {engine : Engine Store ScriptedTransport}
    (fallback : engine.fallbackConversation = "") :
    Bears (Envelope.ofRecord SyncResponse.layout "c1" .syncResponse threefold).frame engine
      threefold := by
  have reads : (Envelope.decodeFrame
      (Envelope.ofRecord SyncResponse.layout "c1" .syncResponse threefold).frame "").toOption.map
        (fun envelope => (envelope.messageType,
          (envelope.bodyAs SyncResponse.layout.codec).toOption)) =
        some (.syncResponse, some threefold) := by decide +kernel
  rcases exists_of_toOption_map reads with ⟨envelope, decoded, same⟩
  rw [Prod.mk.injEq] at same
  exact ⟨envelope, fallback ▸ decoded, same.1, except_eq_ok_of_toOption same.2⟩

/-- The record that was submitted is merged once, the repeated and the foreign result are counted as
ignored, and the caller has the summary. The same answer again changes nothing. -/
theorem takeSyncResponse_once_threefold : ∃ first,
    start Settings.standard {} oneUnsent ⟨0, default⟩ = .ok first ∧
    .reply 7 (.synced (.ok ⟨"c1", 1, 0, 2⟩)) ∈
      ((takeSyncResponse threefold).run (awaited first)).2.outputs ∧
    let later := ((step (.frame (Envelope.ofRecord SyncResponse.layout "c1" .syncResponse
      threefold).frame)).run (awaited first)).2
    Unmoved later ((takeSyncResponse threefold).run later).2 := by
  have starts : (start Settings.standard ({} : ScriptedTransport) oneUnsent
      ⟨0, default⟩).toOption.map (fun first => (first.window, first.fallbackConversation)) =
        some (.standard, "") := by decide +kernel
  rcases exists_of_toOption_map starts with ⟨first, started, same⟩
  rw [Prod.mk.injEq] at same
  have submits : ((awaited first).coordinator.get? "c1").map (fun schedule =>
      (schedule.waiters, schedule.inFlight.map InFlight.localIds)) = some ([7], some ["l1"]) := by
    have coordinator : first.coordinator = .empty Settings.standard.sync.policy := by
      rcases eq_of_start started with ⟨window, rfl⟩
      rfl
    simp only [awaited, coordinator]
    decide +kernel
  rcases Option.map_eq_some_iff.mp submits with ⟨schedule, found, waits⟩
  rw [Prod.mk.injEq] at waits
  rcases Option.map_eq_some_iff.mp waits.2 with ⟨flight, flies, submitted⟩
  rcases takeSyncResponse_once (awaited first) threefold with ⟨-, settles, repeats, -⟩
  refine ⟨first, started, ?_, repeats _ _ threefold (bears_threefold same.2) .initial rfl⟩
  have log : (awaited first).log = oneUnsent := (fresh_of_start started).log
  have window : (awaited first).window = .standard := same.1
  rcases (settles schedule flight found flies).settled with
    ⟨merged, after, result, told, ran, concludes, finishes⟩
  rw [submitted, window, log] at ran
  have merges := merges_threefold
  rw [ran] at merges
  have counts : (threefold.answered ["l1"]).card = 1 ∧
      ((threefold.answered ["l1"]).filter threefold.Conflicts).card = 0 := by decide +kernel
  cases merged with
  | error error => cases merges
  | ok done =>
      rcases concludes with ⟨⟨conversationId, synced, conflicts, ignored⟩, rfl, sums⟩
      rw [submitted] at sums
      have named : conversationId = "c1" := sums.conversationId
      have every : synced + conflicts + ignored = 3 := sums.every
      have merged : synced + conflicts = _ := sums.merged
      have clashes : conflicts = _ := sums.conflicts
      rw [counts.1] at merged
      rw [counts.2] at clashes
      obtain ⟨rfl, rfl, rfl⟩ : synced = 1 ∧ conflicts = 0 ∧ ignored = 2 := by omega
      rw [finishes.answered, waits.1, named]
      simp

end Engine

end MessageSync
