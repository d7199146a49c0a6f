import MessageSync.Proofs.Engine.Callers
import MessageSync.Proofs.Engine.Changes
import MessageSync.Proofs.Engine.SyncRuns
import MessageSync.Proofs.Schedule.Wakeups

/-!
# What a timer leaves to do

The engine wakes up for a retry, for a subscribe or a request that has waited too long, and for a
conversation that is due. A timer does all of that, and each part puts its own time past the
present. So if the clock stands still meanwhile, the engine does not wake up again at that instant.
-/

namespace MessageSync

/-! ## Settings -/

/-- What may not be zero is not zero in valid settings. -/
theorem Settings.pos_of_validate {settings : Settings} (valid : settings.validate = .ok ())
    (value : UInt64) (mem : value ∈ settings.positives.map Prod.snd) : 0 < value.toNat := by
  rcases List.mem_map.mp mem with ⟨⟨name, value⟩, listed, rfl⟩
  cases found : settings.positives.find? fun entry => entry.2 == 0 with
  | some entry =>
      rcases entry with ⟨zero, held⟩
      simp only [validate, found] at valid
      split at valid <;> cases valid
  | none =>
      have nonzero : value ≠ 0 := by
        simpa using List.find?_eq_none.mp found (name, value) listed
      exact UInt64.lt_iff_toNat_lt.mp (UInt64.pos_iff_ne_zero.mpr nonzero)

theorem Settings.positive_policy {settings : Settings} (valid : settings.validate = .ok ()) :
    settings.sync.policy.Positive := by
  refine ⟨?_, ?_, ?_, ?_, ?_, ?_⟩
  · exact pos_of_validate valid settings.sync.baseIntervalMs (by simp [positives])
  · exact pos_of_validate valid settings.sync.pushIntervalMs (by simp [positives])
  · exact pos_of_validate valid settings.sync.maxIntervalMs (by simp [positives])
  · exact pos_of_validate valid settings.sync.errorBackoffBaseMs (by simp [positives])
  · exact pos_of_validate valid settings.sync.errorBackoffMaxMs (by simp [positives])
  · exact pos_of_validate valid settings.sync.responseTimeoutMs (by simp [positives])

/-! ## What the engine wakes up for -/

namespace SubscriptionRegistry

variable {registry : SubscriptionRegistry} {instant : Instant}

theorem exists_nextDeadline_le_iff (instant : Instant) :
    (∃ wake, registry.nextDeadline = some wake ∧ wake ≤ instant) ↔
      (registry.expire instant).1 ≠ [] := by
  rw [nextDeadline, SyncCoordinator.exists_min?_le_iff]
  simp [expire, List.partition_eq_filter_filter, Keyed.values]

theorem expire_expire : ((registry.expire instant).2.2.expire instant).1 = [] := by
  simp [expire, List.partition_eq_filter_filter, List.filter_filter]

end SubscriptionRegistry

namespace Engine

variable {σ τ : Type} {engine before after found : Engine σ τ} {instant : Instant}

/-- The engine wakes up when a retry is due, a subscribe has waited too long, a request has, or a
conversation is due, and for nothing else. -/
theorem exists_nextWake_le_iff (engine : Engine σ τ) (instant : Instant) :
    (∃ wake, nextWake engine = some wake ∧ wake ≤ instant) ↔
      engine.retryAt.any (· ≤ instant) = true ∨ (engine.registry.expire instant).1 ≠ [] ∨
        engine.coordinator.timedOut instant ≠ [] ∨ engine.coordinator.due instant ≠ [] := by
  have retries : (∃ wake, engine.retryAt = some wake ∧ wake ≤ instant) ↔
      engine.retryAt.any (· ≤ instant) = true := by
    simp [Option.any_eq_true]
  rw [nextWake, SyncCoordinator.exists_min?_le_iff, ← retries,
    ← SubscriptionRegistry.exists_nextDeadline_le_iff,
    ← SyncCoordinator.exists_nextWakeup_le_iff]
  simp only [List.reduceOption_mem_iff, List.mem_cons, List.not_mem_nil, or_false, or_and_right,
    exists_or, @eq_comm _ (some _)]

/-- Nothing is to be done by the instant. -/
structure Ahead (engine : Engine σ τ) (instant : Instant) : Prop where
  retry : ∀ retryAt, engine.retryAt = some retryAt → instant < retryAt
  subscribes : (engine.registry.expire instant).1 = []
  syncs : ∀ conversationId, engine.coordinator.Ahead conversationId instant

theorem Ahead.lt_nextWake (ahead : engine.Ahead instant)
    (sorted : engine.coordinator.conversations.Sorted) {wake : Instant}
    (wakes : nextWake engine = some wake) : instant < wake := by
  by_contra early
  rcases (exists_nextWake_le_iff engine instant).mp ⟨wake, wakes, Nat.not_lt.mp early⟩ with
    retry | expired | timedOut | due
  · rcases Option.any_eq_true _ _ |>.mp retry with ⟨retryAt, armed, isDue⟩
    exact absurd (ahead.retry retryAt armed) (by simpa using isDue)
  · exact expired ahead.subscribes
  · rcases List.exists_mem_of_ne_nil _ timedOut with ⟨conversationId, mem⟩
    exact ((SyncCoordinator.ahead_iff sorted).mp (ahead.syncs conversationId)).1 mem
  · rcases List.exists_mem_of_ne_nil _ due with ⟨conversationId, mem⟩
    exact ((SyncCoordinator.ahead_iff sorted).mp (ahead.syncs conversationId)).2 mem

/-! ## Engines without zero -/

/-- No delay and no interval of the engine is zero. -/
structure Paced (engine : Engine σ τ) : Prop where
  initial : 0 < engine.machine.backoff.initial
  max : 0 < engine.machine.backoff.max
  schedules : engine.coordinator.Paced

theorem Paced.congr (paced : before.Paced)
    (backoff : after.machine.backoff = before.machine.backoff)
    (schedules : after.coordinator.Paced) : after.Paced :=
  ⟨by rw [backoff]; exact paced.initial, by rw [backoff]; exact paced.max, schedules⟩

theorem Paced.change {input : Input} {asked : List Caller} (paced : before.Paced)
    (change : Change input asked before after) : after.Paced := by
  cases change with
  | apart apart =>
      exact paced.congr (by rw [apart.machine]) (by rw [apart.coordinator]; exact paced.schedules)
  | moved engine told =>
      have moves := ConnectionMachine.moves_handle before.machine told
      exact paced.congr moves.backoff_eq paced.schedules
  | put | begun | finished => exact paced.congr rfl paced.schedules
  | rescheduled reschedules => exact paced.congr rfl (paced.schedules.operated reschedules.operated)
  | concluded concludes =>
      refine paced.congr (by rw [machine_published]; rfl) ?_
      rw [coordinator_published]
      exact paced.schedules.operated concludes.operated

theorem Paced.changes {input : Input} {asked : List Caller} (paced : before.Paced)
    (changes : Changes input asked before after) : after.Paced :=
  changes.keeps (fun _ _ _ change paced => paced.change change) paced

theorem Paced.drift (paced : before.Paced) (drifts : Drifts before after) : after.Paced := by
  rw [drifts]
  exact ⟨paced.initial, paced.max, paced.schedules⟩

theorem paced_of_start {settings : Settings} {transport : τ} {log : σ} {clock : Clock}
    {first : Engine σ τ} (started : start settings transport log clock = .ok first) :
    first.Paced := by
  have valid := validate_of_start started
  rcases eq_of_start started with ⟨window, rfl⟩
  refine ⟨?_, ?_, SyncCoordinator.paced_empty (settings.positive_policy valid)⟩
  · exact Settings.pos_of_validate valid settings.connection.initialDelayMs
      (by simp [Settings.positives])
  · exact Settings.pos_of_validate valid settings.connection.maxDelayMs
      (by simp [Settings.positives])

/-! ## The ends of sync runs -/

theorem coordinator_failSync (conversationId : String) (error : SyncError) :
    ((failSync conversationId error instant).run engine).2.coordinator =
      (engine.coordinator.fail conversationId error instant).2 := by
  simp only [failSync, finishSyncs, run_bind, run_get, run_modify, run_answerSyncs]
  rfl

theorem coordinator_completeSync (summary : SyncSummary) : ∃ live,
    ((completeSync summary instant).run engine).2.coordinator =
      (engine.coordinator.succeed summary instant live).2 := by
  refine ⟨engine.machine.isConnected && engine.registry.isSubscribed summary.conversationId, ?_⟩
  simp only [completeSync, pushLive, finishSyncs, run_bind, run_get, run_pure, run_modify, run_tell,
    run_answerSyncs]
  rfl

variable [Transport τ]

/-! ## The retry -/

/-- The clock stands at the instant, and no retry is due. -/
structure Patient (instant : Instant) (engine : Engine σ τ) : Prop where
  clock : engine.clock.now = instant
  initial : 0 < engine.machine.backoff.initial
  max : 0 < engine.machine.backoff.max
  retry : ∀ retryAt, engine.retryAt = some retryAt → instant < retryAt

/-- No retry becomes due while the clock stands at the instant. -/
def StaysPatient (instant : Instant) (before after : Engine σ τ) : Prop :=
  before.Patient instant → after.Patient instant

omit [Transport τ] in
theorem Patient.congr (patient : before.Patient instant) (clock : after.clock = before.clock)
    (machine : after.machine = before.machine) (retryAt : after.retryAt = before.retryAt) :
    after.Patient instant :=
  ⟨by rw [clock, patient.clock], by rw [machine]; exact patient.initial,
    by rw [machine]; exact patient.max, by rw [retryAt]; exact patient.retry⟩

instance : Mild (StaysPatient instant : Engine σ τ → Engine σ τ → Prop) where
  refl _ := id
  trans _ _ _ first second patient := second (first patient)
  outward _ _ outward patient :=
    patient.congr (by rw [outward.same]) (by rw [outward.same]) (by rw [outward.same])
  dispatches := dispatches_of_sends fun _ _ sends patient =>
    patient.congr (by rw [sends.same]) (by rw [sends.same]) (by rw [sends.same])
  tame _ _ _ patient := patient.congr rfl rfl rfl

theorem patient_perform {effect : ConnectionEffect}
    (waits : ∀ delay, effect = .scheduleRetry delay → 0 < delay) :
    Always (StaysPatient instant) (perform effect : EngineM σ τ Unit) := by
  cases effect with
  | openTransport => exact .pure ()
  | closeTransport => exact fun _ patient => patient.congr rfl rfl rfl
  | scheduleRetry delay =>
      intro engine patient
      refine ⟨patient.clock, patient.initial, patient.max, ?_⟩
      rintro retryAt armed
      rw [run_scheduleRetry] at armed
      cases armed
      rw [patient.clock]
      exact Nat.lt_add_of_pos_right (waits delay rfl)
  | cancelRetry => exact fun _ patient => ⟨patient.clock, patient.initial, patient.max, nofun⟩
  | handshake => exact always_sendHandshake
  | resubscribe => exact .bind .get fun _ => .forM fun _ _ => always_sendSubscribe _
  | abandonPending =>
      intro engine patient
      rw [same_abandonPending]
      exact patient.congr rfl rfl rfl
  | syncAll =>
      exact .bind always_now fun _ =>
        always_onCoordinator fun _ => SyncCoordinator.hushed_triggerAll

theorem patient_handle (input : ConnectionInput) :
    Always (StaysPatient instant) (handle input : EngineM σ τ Bool) := by
  intro engine patient
  have moves := ConnectionMachine.moves_handle engine.machine input
  rw [run_handle rfl]
  have moved : (engine.moved (engine.machine.handle input).1).Patient instant := by
    refine ⟨patient.clock, ?_, ?_, patient.retry⟩
    · exact moves.backoff_eq ▸ patient.initial
    · exact moves.backoff_eq ▸ patient.max
  refine Always.forM (fun effect mem => patient_perform ?_) _ moved
  rintro delay rfl
  rw [moves.delay_eq mem]
  exact Backoff.delay_pos patient.initial patient.max _

instance : Connecting (StaysPatient instant : Engine σ τ → Engine σ τ → Prop) where
  setLastError _ := .outward (outward_setLastError _)
  transport _ _ patient := patient.congr rfl rfl rfl
  opening _ _ patient := patient.congr rfl rfl rfl
  handles := patient_handle

/-- A retry that is due is made, and if it fails the next one comes later. -/
theorem Paced.patient_retried (paced : engine.Paced) :
    engine.retried.Patient engine.clock.now := by
  simp only [retried]
  split
  · have stays : StaysPatient engine.clock.now { engine with retryAt := none } _ :=
      always_apply .retryDue _
    exact stays ⟨rfl, paced.initial, paced.max, by simp⟩
  · next notDue =>
      refine ⟨rfl, paced.initial, paced.max, ?_⟩
      intro retryAt armed
      simpa [armed] using notDue

end Engine

/-! ## Sync runs -/

variable {σ τ : Type} [MessageLog σ] [Transport τ]

namespace SyncRun

open Engine

variable {run : SyncRun σ τ} {log : σ} {request : SyncRequest} {noted : Engine σ τ}

/-- A run that sends a request waits for the answer, or has failed. -/
theorem Requests.ahead_left (requests : run.Requests request noted) (starts : run.StartsFrom log)
    (paced : run.engine.coordinator.Paced) :
    run.left.coordinator.Ahead run.conversationId run.instant := by
  have left := requests.left_eq starts
  rcases requests.notes with ⟨count, -, rfl⟩
  rcases starts.waits_not_of_noteCount count with ⟨schedule, held, free⟩
  have counted := paced.apply (.noteCount run.conversationId count run.instant)
  have begun := counted.apply (.begin run.conversationId request.localIds run.instant)
  have sends := sends_dispatch (.ofRecord SyncRequest.layout run.conversationId .syncRequest
    request) { run.engine with
      coordinator := ((run.engine.coordinator.noteCount run.conversationId count run.instant).begin
        run.conversationId request.localIds run.instant).2 }
  rw [left]
  generalize (dispatch _ : EngineM σ τ (Except EngineError Int64)).run _ = sending at sends ⊢
  rcases sending with ⟨error | stanza, after⟩
  · have same : after.coordinator = _ := congrArg Engine.coordinator sends.same
    simp only [coordinator_failSync, same]
    exact SyncCoordinator.ahead_fail begun
  · have same : after.coordinator = _ := congrArg Engine.coordinator sends.same
    simp only [same]
    exact SyncCoordinator.ahead_begin counted.policy held free _

/-- Whatever a sync run comes to, the next one of its conversation is later. -/
theorem ahead_left (run : SyncRun σ τ) (starts : run.StartsFrom log)
    (paced : run.engine.coordinator.Paced) :
    run.left.coordinator.Ahead run.conversationId run.instant := by
  by_cases requests : ∃ request noted, run.Requests request noted
  · rcases requests with ⟨request, noted, requests⟩
    exact requests.ahead_left starts paced
  rcases run with ⟨conversationId, instant, engine⟩
  by_cases connected : engine.machine.isConnected = true
  · simp only [left, runSync, isConnected, run_bind, run_get, run_pure, connected, reduceIte]
    cases counted : MessageLog.count engine.log conversationId with
    | error error =>
        simp only [startSync, run_bind, run_onLog_query, counted, run_pure, coordinator_failSync]
        exact SyncCoordinator.ahead_fail paced
    | ok count =>
    have noted := paced.apply (.noteCount conversationId count instant)
    cases listed : MessageLog.pending engine.log conversationId with
    | error error =>
        simp only [startSync, run_bind, run_onLog_query, counted, onCoordinator, run_modify, listed,
          run_pure, coordinator_failSync]
        exact SyncCoordinator.ahead_fail noted
    | ok records =>
    cases records with
    | nil =>
        simp only [startSync, run_bind, run_onLog_query, counted, onCoordinator, run_modify, listed,
          run_pure]
        rcases coordinator_completeSync ⟨conversationId, 0, 0, 0⟩ with ⟨live, same⟩
        rw [same]
        exact SyncCoordinator.ahead_succeed noted.policy _ live
    | cons first rest =>
        exact absurd ⟨_, _, connected, ⟨_, listed, by simp, rfl⟩, ⟨count, counted, rfl⟩⟩ requests
  · rcases starts.waitless with ⟨schedule, held, free⟩
    simp only [left, runSync, isConnected, run_bind, run_get, run_pure, connected]
    exact SyncCoordinator.ahead_skip paced.policy held free _

end SyncRun

namespace Engine

variable {engine : Engine σ τ} {instant : Instant}

theorem Paced.runSync (paced : engine.Paced) (conversationId : String) :
    Paced ((runSync instant conversationId).run engine).2 := by
  have changes : Changes .timer [] engine _ := changes_runSync instant conversationId engine
  exact paced.changes changes

/-- After sync runs of some conversations, nothing is to be done about them, and no more about the
others than before. -/
theorem ahead_runsInTurn {conversationIds : List String} (paced : engine.Paced)
    (distinct : conversationIds.Nodup)
    (waitless : ∀ conversationId ∈ conversationIds, engine.Waitless conversationId)
    (others : ∀ conversationId ∉ conversationIds,
      engine.coordinator.Ahead conversationId instant) (conversationId : String) :
    ((conversationIds.forM (Engine.runSync instant)).run engine).2.coordinator.Ahead conversationId
      instant := by
  induction conversationIds generalizing engine with
  | nil => exact others conversationId List.not_mem_nil
  | cons first rest later =>
      rw [List.nodup_cons] at distinct
      have starts : SyncRun.StartsFrom ⟨first, instant, engine⟩ engine.log :=
        ⟨rfl, waitless first List.mem_cons_self⟩
      have ahead := SyncRun.ahead_left ⟨first, instant, engine⟩ starts paced.schedules
      have leaves := SyncRun.leavesOthers ⟨first, instant, engine⟩
      rw [run_forM_cons]
      refine later (paced.runSync first) distinct.2 ?_ ?_
      · intro other mem
        rcases waitless other (List.mem_cons_of_mem _ mem) with ⟨schedule, found, free⟩
        have different : other ≠ first := fun same => distinct.1 (same ▸ mem)
        exact ⟨schedule, (leaves other different).trans found, free⟩
      · intro other apart
        by_cases same : other = first
        · exact same ▸ ahead
        · exact (others other (by simp [same, apart])).congr (leaves other same)

/-! ## What a timer ends -/

omit [MessageLog σ] [Transport τ] in
theorem coordinator_forM_failSync (conversationIds : List String) (error : SyncError) :
    ((conversationIds.forM fun conversationId =>
      failSync conversationId error instant).run engine).2.coordinator =
        (engine.coordinator.failAll conversationIds error instant).2 := by
  induction conversationIds generalizing engine with
  | nil => rfl
  | cons first rest later =>
      rw [run_forM_cons, later, coordinator_failSync, SyncCoordinator.failAll_cons]

/-- The registry is the same. -/
def KeepsRegistry (before after : Engine σ τ) : Prop :=
  after.registry = before.registry

omit [MessageLog σ] in
instance : Mild (KeepsRegistry : Engine σ τ → Engine σ τ → Prop) where
  refl _ := rfl
  trans _ _ _ first second := Eq.trans second first
  outward _ _ outward := by rw [KeepsRegistry, outward.same]
  dispatches := dispatches_of_sends fun _ _ sends => by rw [KeepsRegistry, sends.same]
  tame _ _ _ := rfl

omit [MessageLog σ] in
theorem run_endWaits (engine : Engine σ τ) (instant : Instant) :
    ((endWaits instant).run engine).2.registry = (engine.registry.expire instant).2.2 ∧
      ((endWaits instant).run engine).2.coordinator =
        (engine.coordinator.failAll (engine.coordinator.timedOut instant)
          (.timeout (.ofMillis engine.coordinator.policy.responseTimeout)) instant).2 := by
  simp only [endWaits, run_bind, run_onRegistry, run_get]
  refine ⟨?_, coordinator_forM_failSync _ _⟩
  have fails (conversationIds : List String) (error : SyncError) : Always KeepsRegistry
      (conversationIds.forM fun conversationId => failSync conversationId error instant :
        EngineM σ τ Unit) := .forM fun _ _ => always_failSync _ _ _
  exact fails _ _ (engine.registered _ _)

/-- When a timer has done what it is for, nothing is to be done any more. -/
theorem ahead_finishTimer (paced : engine.Paced) (patient : engine.Patient instant) :
    Ahead ((finishTimer instant).run engine).2 instant ∧
      Patient instant ((finishTimer instant).run engine).2 := by
  have staysPatient : Always (StaysPatient instant) (finishTimer instant : EngineM σ τ Unit) :=
    always_finishTimer (always_onRegistry fun _ patient => patient.congr rfl rfl rfl)
      fun _ _ => always_runSync (fun _ _ _ patient => patient.congr rfl rfl rfl) _
  have waits : Always (StaysPatient instant) (endWaits instant : EngineM σ τ Unit) :=
    .bind (always_onRegistry fun _ patient => patient.congr rfl rfl rfl) fun _ =>
      .bind .get fun _ => .forM fun _ _ => always_failSync _ _ _
  have ends := run_endWaits engine instant
  have ended : Changes .timer [] engine _ := changes_endWaits instant engine
  have pacedEnded : Paced ((endWaits instant).run engine).2 := paced.changes ended
  have patientAfter := staysPatient engine patient
  refine ⟨⟨patientAfter.retry, ?_, ?_⟩, patientAfter⟩
  · have keeps : Always KeepsRegistry (runDue : EngineM σ τ Unit) :=
      .bind always_now fun _ => .bind .get fun _ => .forM fun _ _ =>
        always_runSync (fun _ _ _ => rfl) _
    rw [run_finishTimer, keeps _, ends.1]
    exact SubscriptionRegistry.expire_expire
  · intro conversationId
    have sorted := pacedEnded.schedules.sorted
    rw [run_finishTimer, runDue, run_bind, run_now, run_bind, run_get,
      (waits engine patient).clock]
    refine ahead_runsInTurn pacedEnded (SyncCoordinator.nodup_due sorted) ?_ ?_ conversationId
    · exact fun _ mem => SyncCoordinator.waits_not_of_mem_due sorted mem
    · rw [ends.2]
      exact fun _ => SyncCoordinator.ahead_of_timedOut_failed paced.schedules

omit [MessageLog σ] in
/-- A connection that is found broken is given up, and the next attempt comes later. -/
theorem ahead_noticeBrokenLink (paced : engine.Paced) (patient : engine.Patient instant)
    (ahead : engine.Ahead instant) : Ahead (noticeBrokenLink.run engine).2 instant := by
  by_cases broken :
      (engine.machine.isConnected && !Transport.isConnected engine.transport) = true
  · have connected : engine.machine.isConnected = true := (Bool.and_eq_true_iff.mp broken).1
    have stays : StaysPatient instant engine ((apply .closed).run engine).2 :=
      always_apply .closed engine
    have patientAfter : Patient instant ((apply .closed).run engine).2 := stays patient
    have left : (noticeBrokenLink.run engine).2 = ((apply .closed).run engine).2 := by
      simp only [noticeBrokenLink, isConnected, linkUp, run_bind, run_get, run_pure, broken,
        reduceIte]
    rw [left]
    refine ⟨patientAfter.retry, ?_, fun conversationId => ?_⟩
    · rw [(lost_closed connected).registry]
      rfl
    · rw [apply_of_handle (ConnectionMachine.handle_closed_of_connected connected) rfl]
      simp only [run_forM_cons, run_forM_nil, run_scheduleRetry]
      rw [same_abandonPending]
      obtain rfl := patient.clock
      exact SyncCoordinator.ahead_abandonInFlight paced.schedules (ahead.syncs conversationId)
  · have left : (noticeBrokenLink.run engine).2 = engine := by
      simp only [noticeBrokenLink, isConnected, linkUp, run_bind, run_get, run_pure, broken]
      rfl
    rw [left]
    exact ahead

/-- When a timer was taken, and the attempt to connect that it may have led to has its answer,
nothing is to be done any more. -/
theorem ahead_onTimer (paced : engine.Paced) (answered : (onTimer.run engine).2.opening = none) :
    Ahead (onTimer.run engine).2 engine.clock.now ∧
      Patient engine.clock.now (onTimer.run engine).2 := by
  have retries : Changes .timer [] engine engine.retried := changes_retried engine
  have pacedRetried : engine.retried.Paced := paced.changes retries
  rw [run_onTimer_eq_retried, goOnWithTimer, run_bind, run_get] at answered ⊢
  cases opening : engine.retried.opening with
  | some attempt =>
      rw [opening] at answered
      cases answered
  | none => exact ahead_finishTimer pacedRetried paced.patient_retried

/-- Otherwise the attempt notes the timer. -/
theorem eq_onTimer_of_waits (waits : (onTimer.run engine).2.opening ≠ none) :
    ∃ attempt : Opening, attempt.timerAt = some engine.clock.now ∧
      (onTimer.run engine).2 = { engine.retried with opening := some attempt } := by
  rw [run_onTimer_eq_retried, goOnWithTimer, run_bind, run_get] at waits ⊢
  cases opening : engine.retried.opening with
  | some attempt => exact ⟨{ attempt with timerAt := some engine.clock.now }, rfl, rfl⟩
  | none =>
      simp only [opening] at waits
      have calm : Calm engine.retried ((finishTimer engine.clock.now).run engine.retried).2 :=
        calm_finishTimer engine.clock.now engine.retried
      exact absurd (calm.opening.trans opening) waits

/-- When the attempt to connect that a timer led to is over, the timer is gone on with. -/
theorem ahead_onOpeningOver {attempt : Opening} (paced : engine.Paced)
    (patient : engine.Patient instant) (opening : engine.opening = some attempt)
    (fired : attempt.timerAt = some instant) :
    Ahead (onOpeningOver.run engine).2 instant ∧ Patient instant (onOpeningOver.run engine).2 := by
  have abandons : Changes .openingOver [] engine _ := always_abandonOpening attempt engine
  have stays : StaysPatient instant engine ((abandonOpening attempt).run engine).2 :=
    always_abandonOpening attempt engine
  have timed : ((abandonOpening attempt).run engine).1 = some instant := fired
  rw [onOpeningOver, run_bind, run_get]
  simp only [opening]
  rw [run_bind, timed]
  exact ahead_finishTimer (paced.changes abandons) (stays patient)

/-! ## Runs -/

variable {comes : Engine σ τ → Input → Engine σ τ → Prop} {first last : Engine σ τ} {input : Input}
  {settings : Settings} {transport : τ} {log : σ} {clock : Clock}

/-- A timer that comes to the found engine is done with an input that comes to the last one: with
the timer itself, or else with the end of the attempt to connect that it led to. -/
inductive TimerEnds (comes : Engine σ τ → Input → Engine σ τ → Prop) (found : Engine σ τ) :
    Engine σ τ → Input → Prop
  | atOnce (answered : ((take .timer).run found).2.opening = none) :
      TimerEnds comes found found .timer
  | later {last : Engine σ τ} (waits : ((take .timer).run found).2.opening ≠ none)
      (arrival : comes ((step .timer).run found).2 .openingOver last) :
      TimerEnds comes found last .openingOver

/-- When a timer is done with and the clock stood still, nothing is to be done any more. -/
theorem ahead_of_timerEnds (paced : found.Paced)
    (drifts : ∀ before input found, comes before input found → Drifts before found)
    (ends : TimerEnds comes found last input) (still : last.clock.now = found.clock.now) :
    last.Paced ∧ Ahead ((take input).run last).2 found.clock.now ∧
      Patient found.clock.now ((take input).run last).2 := by
  cases ends with
  | atOnce answered => exact ⟨paced, ahead_onTimer paced answered⟩
  | later waits arrival =>
      have pacedLeft : Paced ((step .timer).run found).2 :=
        paced.changes (changes_step .timer found)
      have drift := drifts _ _ _ arrival
      have pacedLast : last.Paced := pacedLeft.drift drift
      rcases eq_onTimer_of_waits waits with ⟨attempt, fired, taken⟩
      have left : ((step .timer).run found).2 = { found.retried with opening := some attempt } := by
        rw [run_step]
        change (if (onTimer.run found).2.opening.isNone then _ else (onTimer.run found).2) = _
        rw [taken]
        rfl
      have patient : last.Patient found.clock.now := by
        rw [left] at drift
        have retried := paced.patient_retried
        exact ⟨still, by rw [drift]; exact retried.initial, by rw [drift]; exact retried.max,
          by rw [drift]; exact retried.retry⟩
      have opening : last.opening = some attempt := by rw [drift, left]
      exact ⟨pacedLast, ahead_onOpeningOver pacedLast patient opening fired⟩

theorem paced_of_runs (started : start settings transport log clock = .ok first)
    (drifts : ∀ before input found, comes before input found → Drifts before found)
    (runs : Runs comes first engine) : engine.Paced :=
  runs.keeps (paced_of_start started) fun _ input _ paced arrival =>
    (paced.drift (drifts _ _ _ arrival)).changes (changes_step input _)

/-- If the clock stands still until a timer is done with, the engine is to wake up later, or not at
all: before the look at the link that ends the step, and after it. It is to wake up at an instant or
before it exactly if there is something to do at that instant. -/
theorem lt_nextWake_of_timer (started : start settings transport log clock = .ok first)
    (drifts : ∀ before input found, comes before input found → Drifts before found)
    (runs : Runs comes first engine) (arrival : comes engine .timer found)
    (ends : TimerEnds comes found last input) (still : last.clock.now = found.clock.now) :
    (∀ wake, nextWake ((take input).run last).2 = some wake → found.clock.now < wake) ∧
      (∀ wake, nextWake ((step input).run last).2 = some wake → found.clock.now < wake) ∧
      ∀ (engine : Engine σ τ) (instant : Instant),
        (∃ wake, nextWake engine = some wake ∧ wake ≤ instant) ↔
          engine.retryAt.any (· ≤ instant) = true ∨ (engine.registry.expire instant).1 ≠ [] ∨
            engine.coordinator.timedOut instant ≠ [] ∨ engine.coordinator.due instant ≠ [] := by
  have paced : found.Paced := (paced_of_runs started drifts runs).drift (drifts _ _ _ arrival)
  rcases ahead_of_timerEnds paced drifts ends still with ⟨pacedLast, ahead, patient⟩
  have pacedTaken : Paced ((take input).run last).2 := pacedLast.changes (changes_take input last)
  have pacedLeft : Paced ((step input).run last).2 := pacedLast.changes (changes_step input last)
  refine ⟨fun wake => ahead.lt_nextWake pacedTaken.schedules.sorted, fun wake => ?_,
    exists_nextWake_le_iff⟩
  have aheadLeft : Ahead ((step input).run last).2 found.clock.now := by
    rw [run_step]
    split
    · exact ahead_noticeBrokenLink pacedTaken patient ahead
    · exact ahead
  exact aheadLeft.lt_nextWake pacedLeft.schedules.sorted

/-- An engine that finds no server, of which a sync was asked for. Later its retry is due and so is
the conversation. -/
theorem lt_nextWake_of_timer_deserted : ∃ first found : Engine Store ScriptedTransport,
    deserted = .ok first ∧ found.clock.now = 2000 ∧ nextWake found = some 1000 ∧
    nextWake ((step .timer).run found).2 = some 4000 ∧
    ∀ wake, nextWake ((take .timer).run found).2 = some wake → 2000 < wake := by
  let tried (first : Engine Store ScriptedTransport) := ((step (.command .connect)).run first).2
  let asked (first : Engine Store ScriptedTransport) :=
    ((step (.command (.syncNow "c1" 7))).run (tried first)).2
  let later (first : Engine Store ScriptedTransport) : Engine Store ScriptedTransport :=
    { asked first with clock := ⟨2000, default⟩ }
  have left : deserted.toOption.map (fun first =>
      ([(tried first).opening.isNone, (asked first).opening.isNone,
        ((take .timer).run (later first)).2.opening.isNone],
        nextWake (later first), nextWake ((step .timer).run (later first)).2)) =
      some ([true, true, true], some 1000, some 4000) := by decide +kernel
  rcases exists_of_toOption_map left with ⟨first, started, same⟩
  simp only [Prod.mk.injEq, List.cons.injEq, and_true] at same
  rcases same with ⟨⟨triedOpening, askedOpening, answered⟩, wakes, wakesAfter⟩
  have fresh := fresh_of_start started
  have connects : Arrives first (.command .connect) first := ⟨rfl, by simp [fresh.opening]⟩
  have asks : Arrives (tried first) (.command (.syncNow "c1" 7)) (tried first) :=
    ⟨rfl, by simpa [Option.isSome_iff_ne_none] using triedOpening⟩
  have fires : Arrives (asked first) .timer (later first) :=
    ⟨rfl, by simpa [Option.isSome_iff_ne_none] using askedOpening⟩
  have runs : Runs Arrives first (asked first) := .next (.next .initial connects) asks
  have ends : TimerEnds Arrives (later first) (later first) .timer :=
    .atOnce (Option.isNone_iff_eq_none.mp answered)
  have after := lt_nextWake_of_timer started (fun _ _ _ arrival => arrival.drifts) runs fires ends
    rfl
  exact ⟨first, later first, started, rfl, wakes, wakesAfter, after.1⟩

end Engine

end MessageSync
