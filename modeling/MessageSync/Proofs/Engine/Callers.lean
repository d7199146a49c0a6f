import MessageSync.Proofs.Engine.Outbox
import MessageSync.Proofs.Engine.Rest

/-!
# Callers that wait for a sync

A caller that asks for a sync waits for the next run of the conversation to finish. When the
connection goes away, the runs whose requests wait for an answer are finished, and so are their
callers. A run that has not begun is not finished by that, nor by the timer that would have begun
it: it is put off. So there is nobody who waits while there is no connection, exactly if no caller's
run is still to begin whenever the connection goes away.
-/

namespace MessageSync

namespace Engine

variable {σ τ : Type} [Transport τ] {before after engine found : Engine σ τ}

/-! ## Without a connection -/

/-- No conversation has its first caller. -/
def Dismisses (before after : Engine σ τ) : Prop :=
  before.coordinator.Dismisses after.coordinator

instance : Scheduling (Dismisses : Engine σ τ → Engine σ τ → Prop) where
  refl _ _ := id
  trans _ _ _ first second conversationId awaited := first _ (second conversationId awaited)
  outward _ _ outward _ awaited := by rwa [outward.same] at awaited
  dispatches := dispatches_of_sends fun _ _ sends _ awaited => by rwa [sends.same] at awaited
  hushed _ _ hushed := hushed.dismisses
  elsewhere _ _ _ _ coordinator _ awaited := by rwa [coordinator] at awaited

/-- Conversations stay in the order of their ids. -/
def KeepsOrder (before after : Engine σ τ) : Prop :=
  before.coordinator.conversations.Sorted → after.coordinator.conversations.Sorted

instance : LogRelated (KeepsOrder : Engine σ τ → Engine σ τ → Prop) where
  refl _ := id
  trans _ _ _ first second sorted := second (first sorted)
  saves _ _ saves := saves.retains.sorted

section Steps

variable [MessageLog σ]

theorem keepsOrder_take (input : Input) :
    Always KeepsOrder (take input : EngineM σ τ Unit) := by
  refine always_take (fun conversationId => ?_) (fun _ _ _ => id) ?_
  · exact always_release fun engine => SyncCoordinator.sorted_untrack
  · rintro conversationId contents waiter rfl
    exact .bind (always_sendMessage (fun _ => id) fun _ _ => id) fun _ => fun _ => id

/-- While there is no connection, a step makes nobody wait. -/
theorem dismisses_step (input : Input) (apart : engine.machine.isConnected = false) :
    Dismisses engine ((step input).run engine).2 := by
  have syncs (instant : Instant) (conversationId : String) :
      Always Dismisses (runSync instant conversationId : EngineM σ τ Unit) :=
    always_runSync (fun _ _ changesOnly => changesOnly.dismisses) instant
  have taken : Dismisses engine ((take input).run engine).2 := by
    by_cases asks : ∃ conversationId waiter, input = .command (.syncNow conversationId waiter)
    · rcases asks with ⟨conversationId, waiter, rfl⟩
      exact always_syncNow_of_not_connected conversationId waiter apart
    · have takes : Always Dismisses (take input : EngineM σ τ Unit) := by
        refine always_take_of (fun conversationId => ?_) (fun _ _ _ _ => id) ?_ ?_ (always_fires syncs)
        · exact always_release fun engine => SyncCoordinator.dismisses_untrack
        · rintro conversationId contents waiter rfl
          exact .bind (always_sendMessage (fun _ _ => id) fun _ _ _ => id)
            fun _ => fun _ _ => id
        · exact fun conversationId waiter same => absurd ⟨conversationId, waiter, same⟩ asks
      exact takes engine
  exact trans_of Dismisses taken (related_step_of_take always_noticeBrokenLink input engine)

end Steps

/-! ## When the connection goes away -/

/-- The connection is gone, and what waited for an answer was given up. -/
structure Lost (before after : Engine σ τ) : Prop where
  apart : after.machine.isConnected = false
  registry : after.registry = (before.registry.abandonPending .connectionLost).2
  gaveUp : ∃ instant, after.coordinator =
    (before.coordinator.abandonInFlight .notConnected instant).2.2

omit [Transport τ] in
/-- Whoever waits then, waits for a run that had not begun. -/
theorem Lost.awaited_iff (lost : Lost before after)
    (sorted : before.coordinator.conversations.Sorted) (conversationId : String) :
    after.coordinator.Awaited conversationId ↔ before.coordinator.Unstarted conversationId := by
  rcases lost.gaveUp with ⟨instant, coordinator⟩
  rw [coordinator]
  exact SyncCoordinator.awaited_abandonInFlight sorted

theorem lost_disconnectRequested (connected : engine.machine.isConnected = true) :
    Lost engine ((apply .disconnectRequested).run engine).2 := by
  rcases ConnectionMachine.handle_disconnectRequested_of_connected connected with
    ⟨next, handled, apart⟩
  rw [apply_of_handle handled rfl]
  simp only [run_forM_cons, run_forM_nil, run_cancelRetry, run_closeTransport]
  rw [same_abandonPending]
  exact ⟨apart, rfl, _, rfl⟩

theorem lost_closed (connected : engine.machine.isConnected = true) :
    Lost engine ((apply .closed).run engine).2 := by
  rw [apply_of_handle (ConnectionMachine.handle_closed_of_connected connected) rfl]
  simp only [run_forM_cons, run_forM_nil, run_scheduleRetry]
  rw [same_abandonPending]
  exact ⟨rfl, rfl, _, rfl⟩

theorem noticeBrokenLink_of_not_connected (apart : engine.machine.isConnected = false) :
    (noticeBrokenLink.run engine).2 = engine := by
  simp only [noticeBrokenLink, isConnected, linkUp, run_bind, run_get, run_pure, apart,
    Bool.false_and, Bool.false_eq_true, reduceIte]

theorem noticeBrokenLink_of_connected (connected : engine.machine.isConnected = true) :
    (noticeBrokenLink.run engine).2 = engine ∨ Lost engine (noticeBrokenLink.run engine).2 := by
  simp only [noticeBrokenLink, isConnected, linkUp, run_bind, run_get, run_pure]
  by_cases broken : (engine.machine.isConnected && !Transport.isConnected engine.transport) = true
  · simp only [broken, reduceIte]
    exact Or.inr (lost_closed connected)
  · simp only [broken, Bool.false_eq_true, reduceIte]
    exact Or.inl rfl

section Taking

variable [MessageLog σ]

omit [MessageLog σ] in
theorem machine_apply (connected : engine.machine.isConnected = true) {input : ConnectionInput}
    (stays : input ≠ .disconnectRequested ∧ input ≠ .closed) :
    ((apply input).run engine).2.machine = engine.machine := by
  rw [apply_of_handle (ConnectionMachine.handle_of_connected connected stays) rfl]
  rfl

theorem machine_goOnWithTimer (instant : Instant) :
    ((goOnWithTimer instant).run engine).2.machine = engine.machine := by
  simp only [goOnWithTimer, run_bind, run_get]
  split
  · rfl
  · exact (calm_finishTimer instant engine).machine

theorem machine_onTimer (connected : engine.machine.isConnected = true) :
    (onTimer.run engine).2.machine = engine.machine := by
  rw [run_onTimer]
  split
  · rw [machine_goOnWithTimer]
    have due : ({ engine with retryAt := none } : Engine σ τ).machine.isConnected = true := connected
    exact machine_apply due (by simp)
  · exact machine_goOnWithTimer _

omit [MessageLog σ] in
theorem machine_abandonOpening (connected : engine.machine.isConnected = true)
    (opening : Opening) : ((abandonOpening opening).run engine).2.machine = engine.machine := by
  let closed : Engine σ τ :=
    { engine with opening := none, transport := Transport.disconnect engine.transport }
  have refused (reason : String) :
      ((handle .openFailed).run ((setLastError (some reason)).run closed).2).2.machine =
        engine.machine := by
    have handled : ((setLastError (some reason)).run closed).2.machine.handle .openFailed =
        (engine.machine, []) :=
      ConnectionMachine.handle_of_connected connected (by simp)
    rw [run_handle handled]
    rfl
  exact refused _

theorem machine_onOpeningOver (connected : engine.machine.isConnected = true) :
    (onOpeningOver.run engine).2.machine = engine.machine := by
  simp only [onOpeningOver, run_bind, run_get]
  split
  · rfl
  · next opening _ =>
      have abandoned := machine_abandonOpening connected opening
      rw [run_bind]
      split
      · exact (calm_finishTimer _ _).machine.trans abandoned
      · exact abandoned

/-- The input says that the connection ends. -/
def Ends (input : Input) : Prop :=
  (∃ waiter, input = .command (.disconnect waiter)) ∨ input = .closed ∨
    ∃ error, input = .receiveFailed error

/-- The engine when its connection goes away, if it does: before an input that says so is taken, and
after any other one. -/
def goingAway (input : Input) (found : Engine σ τ) : Engine σ τ :=
  match input with
  | .command (.disconnect _) | .closed | .receiveFailed _ => found
  | _ => ((take input).run found).2

theorem goingAway_of_ends {input : Input} (ends : Ends input) : goingAway input found = found := by
  rcases ends with ⟨waiter, rfl⟩ | rfl | ⟨error, rfl⟩ <;> rfl

theorem goingAway_of_stays {input : Input} (stays : ¬Ends input) :
    goingAway input found = ((take input).run found).2 := by
  simp only [goingAway]
  split
  · exact absurd (Or.inl ⟨_, rfl⟩) stays
  · exact absurd (Or.inr (Or.inl rfl)) stays
  · exact absurd (Or.inr (Or.inr ⟨_, rfl⟩)) stays
  · rfl

theorem lost_take (connected : found.machine.isConnected = true) {input : Input}
    (ends : Ends input) : Lost found ((take input).run found).2 := by
  rcases ends with ⟨waiter, rfl⟩ | rfl | ⟨error, rfl⟩
  · have lost := lost_disconnectRequested connected
    exact ⟨lost.apart, lost.registry, lost.gaveUp⟩
  · exact lost_closed connected
  · -- Only the published error differs when the link is found broken.
    let told := ((setLastError (some error.message)).run found).2
    have lost : Lost told ((apply .closed).run told).2 := lost_closed connected
    exact ⟨lost.apart, lost.registry, lost.gaveUp⟩

theorem machine_take (connected : found.machine.isConnected = true) {input : Input}
    (stays : ¬Ends input) : ((take input).run found).2.machine = found.machine := by
  cases input with
  | command command =>
      cases command with
      | connect | networkOnline => exact machine_apply connected (by simp)
      | disconnect waiter => exact absurd (Or.inl ⟨waiter, rfl⟩) stays
      | subscribe conversationId waiter => exact (calm_subscribe conversationId waiter found).machine
      | unsubscribe conversationId waiter => exact (calm_unsubscribe conversationId found).machine
      | send envelope waiter =>
          have sends : Steady found ((dispatch envelope).run found).2 :=
            Outspoken.dispatches envelope found
          exact sends.machine
      | sendMessage conversationId contents waiter =>
          exact (calm_sendMessage conversationId contents found).machine
      | syncNow conversationId waiter =>
          have calm : Calm found ((syncNow conversationId waiter).run found).2 :=
            always_syncNow conversationId waiter found
          exact calm.machine
      | isSubscribed | messages => rfl
  | frame content => exact (steady_takeFrame content found).machine
  | closed => exact absurd (Or.inr (Or.inl rfl)) stays
  | receiveFailed error => exact absurd (Or.inr (Or.inr ⟨error, rfl⟩)) stays
  | timer => exact machine_onTimer connected
  | openingOver => exact machine_onOpeningOver connected

/-- An input that is taken leaves a connection as it is, or says that it goes away. -/
theorem take_of_connected (connected : found.machine.isConnected = true) (input : Input) :
    ((take input).run found).2 = goingAway input found ∧
        ((take input).run found).2.machine = found.machine ∨
      Lost (goingAway input found) ((take input).run found).2 := by
  by_cases ends : Ends input
  · rw [goingAway_of_ends ends]
    exact Or.inr (lost_take connected ends)
  · exact Or.inl ⟨(goingAway_of_stays ends).symm, machine_take connected ends⟩

/-- A step leaves a connection, or the connection has gone away with the requests that waited. -/
theorem step_of_connected (connected : found.machine.isConnected = true) (input : Input) :
    ((step input).run found).2.machine.isConnected = true ∨
      Lost (goingAway input found) ((step input).run found).2 := by
  rw [run_step]
  rcases take_of_connected connected input with ⟨same, machine⟩ | lost
  · have connected : ((take input).run found).2.machine.isConnected = true := by
      rw [machine, connected]
    rw [← same]
    split
    · rcases noticeBrokenLink_of_connected connected with unbroken | lost
      · rw [unbroken]
        exact Or.inl connected
      · exact Or.inr lost
    · exact Or.inl connected
  · right
    split
    · rw [noticeBrokenLink_of_not_connected lost.apart]
      exact lost
    · exact lost

end Taking

/-! ## Runs -/

variable [MessageLog σ]

theorem sorted_goingAway {input : Input} (sorted : found.coordinator.conversations.Sorted) :
    (goingAway input found).coordinator.conversations.Sorted := by
  simp only [goingAway]
  split
  · exact sorted
  · exact sorted
  · exact sorted
  · exact keepsOrder_take _ _ sorted

/-- The conversations are in the order of their ids, and nobody waits for a sync while there is no
connection. -/
structure Answered (engine : Engine σ τ) : Prop where
  sorted : engine.coordinator.conversations.Sorted
  answered : engine.machine.isConnected = false →
    ∀ conversationId, ¬engine.coordinator.Awaited conversationId

/-- The step takes the connection away. -/
def Loses (input : Input) (found : Engine σ τ) : Prop :=
  found.machine.isConnected = true ∧ ((step input).run found).2.machine.isConnected = false

theorem Loses.lost {input : Input} (loses : Loses input found) :
    Lost (goingAway input found) ((step input).run found).2 := by
  rcases step_of_connected loses.1 input with connected | lost
  · cases loses.2.symm.trans connected
  · exact lost

theorem sorted_step (input : Input) (sorted : found.coordinator.conversations.Sorted) :
    ((step input).run found).2.coordinator.conversations.Sorted :=
  always_step_of_take (keepsOrder_take input) found sorted

theorem Answered.step (answered : found.Answered) {input : Input}
    (begun : Loses input found →
      ∀ conversationId, ¬(goingAway input found).coordinator.Unstarted conversationId) :
    Answered ((step input).run found).2 := by
  refine ⟨sorted_step input answered.sorted, ?_⟩
  intro apart conversationId awaited
  by_cases connected : found.machine.isConnected = true
  · have loses : Loses input found := ⟨connected, apart⟩
    exact begun loses conversationId
      ((loses.lost.awaited_iff (sorted_goingAway answered.sorted) conversationId).mp awaited)
  · rw [Bool.not_eq_true] at connected
    exact answered.answered connected conversationId (dismisses_step input connected _ awaited)

omit [Transport τ] [MessageLog σ] in
/-- Between two inputs, the schedules and the state of the connection stay. -/
theorem Answered.drift (answered : before.Answered) (drifts : Drifts before found) :
    found.Answered := by
  rw [drifts]
  exact ⟨answered.sorted, answered.answered⟩

variable {comes : Engine σ τ → Input → Engine σ τ → Prop} {first : Engine σ τ}

theorem sorted_of_runs
    (drifts : ∀ before input found, comes before input found → Drifts before found)
    (initially : first.coordinator.conversations.Sorted) (runs : Runs comes first engine) :
    engine.coordinator.conversations.Sorted := by
  induction runs with
  | initial => exact initially
  | next runs comes sorted =>
      refine sorted_step _ ?_
      rw [drifts _ _ _ comes]
      exact sorted

/-- Nobody waits for a sync while there is no connection, exactly if no caller's run is still to
begin whenever the connection goes away. -/
theorem not_awaited_iff_not_unstarted {settings : Settings} {transport : τ} {log : σ} {clock : Clock}
    (started : start settings transport log clock = .ok first)
    (drifts : ∀ before input found, comes before input found → Drifts before found) :
    (∀ engine, Runs comes first engine → engine.machine.isConnected = false →
        ∀ conversationId, ¬engine.coordinator.Awaited conversationId) ↔
      ∀ engine input found, Runs comes first engine → comes engine input found →
        Loses input found →
        ∀ conversationId, ¬(goingAway input found).coordinator.Unstarted conversationId := by
  have fresh := fresh_of_start started
  have initially : first.Answered := by
    refine ⟨by rw [fresh.schedules]; exact Keyed.sorted_empty, ?_⟩
    rintro - conversationId ⟨schedule, found, -⟩
    rw [SyncCoordinator.get?, fresh.schedules] at found
    cases found
  constructor
  · intro answered engine input found runs comes loses conversationId unstarted
    have engineSorted := sorted_of_runs drifts initially.sorted runs
    have sorted : found.coordinator.conversations.Sorted := by
      rw [drifts _ _ _ comes]
      exact engineSorted
    have awaited := (loses.lost.awaited_iff (sorted_goingAway sorted) conversationId).mpr unstarted
    exact answered _ (.next runs comes) loses.2 conversationId awaited
  · intro begun engine runs
    have answered : engine.Answered := by
      induction runs with
      | initial => exact initially
      | next runs comes answered =>
          exact (answered.drift (drifts _ _ _ comes)).step (begun _ _ _ runs comes)
    exact answered.answered

/-- The engine after a connection was opened, a caller asked for a sync, and the connection was
ended. -/
def forsaken (first : Engine Store ScriptedTransport) : Engine Store ScriptedTransport :=
  ((step (.command (.disconnect 2))).run
    ((step (.command (.syncNow "c1" 1))).run ((step (.command .connect)).run first).2).2).2

theorem runs_forsaken : ∃ first, unconnected = .ok first ∧ Runs ComesLinked first (forsaken first) ∧
    (forsaken first).machine.isConnected = false ∧ (forsaken first).coordinator.Awaited "c1" := by
  have left : unconnected.toOption.map (fun first =>
      let linked := ((step (.command .connect)).run first).2
      let asked := ((step (.command (.syncNow "c1" 1))).run linked).2
      (linked.opening.isNone, asked.opening.isNone, (forsaken first).machine.isConnected,
        ((forsaken first).coordinator.get? "c1").map ConversationSync.waiters)) =
          some (true, true, false, some [1]) := by decide +kernel
  rcases exists_of_toOption_map left with ⟨first, started, same⟩
  simp only [Prod.mk.injEq] at same
  rcases same with ⟨linkedOpening, askedOpening, apart, waiters⟩
  have fresh := fresh_of_start started
  have connects : ComesLinked first (.command .connect) first :=
    ⟨⟨rfl, by simp [fresh.opening]⟩, id⟩
  have asks : ComesLinked _ (.command (.syncNow "c1" 1)) ((step (.command .connect)).run first).2 :=
    ⟨⟨rfl, by simp [Option.isNone_iff_eq_none.mp linkedOpening]⟩, id⟩
  have ends : ComesLinked _ (.command (.disconnect 2)) ((step (.command (.syncNow "c1" 1))).run
      ((step (.command .connect)).run first).2).2 :=
    ⟨⟨rfl, by simp [Option.isNone_iff_eq_none.mp askedOpening]⟩, id⟩
  refine ⟨first, started, .next (.next (.next .initial connects) asks) ends, apart, ?_⟩
  rcases Option.map_eq_some_iff.mp waiters with ⟨schedule, found, waits⟩
  exact ⟨schedule, found, by simp [waits]⟩

theorem not_awaited_iff_not_unstarted_forsaken : ∃ first, unconnected = .ok first ∧
    ∃ engine input found, Runs ComesLinked first engine ∧ ComesLinked engine input found ∧
      Loses input found ∧
      ∃ conversationId, (goingAway input found).coordinator.Unstarted conversationId := by
  rcases runs_forsaken with ⟨first, started, runs, apart, awaited⟩
  refine ⟨first, started, ?_⟩
  have settled := not_awaited_iff_not_unstarted started
    fun before input found (comes : ComesLinked before input found) => comes.drifts
  by_contra begun
  push Not at begun
  exact settled.mpr begun (forsaken first) runs apart "c1" awaited

/-- A caller whose run has not begun when the connection is ended still waits afterwards. -/
theorem awaited_without_connection :
    ¬∀ first engine : Engine Store ScriptedTransport, unconnected = .ok first →
      Runs ComesLinked first engine → engine.machine.isConnected = false →
        ∀ conversationId, ¬engine.coordinator.Awaited conversationId := by
  intro answered
  rcases runs_forsaken with ⟨first, started, runs, apart, awaited⟩
  exact answered first (forsaken first) started runs apart "c1" awaited

end Engine

end MessageSync
