import MessageSync.Proofs.Engine.Changes
import MessageSync.Proofs.Engine.Subscriptions

/-!
# Who is answered

The engine owes an answer to each caller that waits in the registry or in a schedule. Every kind of
change keeps the books: a caller that comes is owed an answer or has it at once, and a caller is taken
off exactly by an answer. Stopping the engine answers all who are left, so that in the end each caller
has been answered once.

Those who wait for the same subscribe are taken off together, with one answer for all of them.
-/

namespace MessageSync

namespace Engine

variable {σ τ : Type} {engine before middle after found : Engine σ τ} {input : Input}
  {asked more : List Caller} {conversationId : String} {waiter : Waiter}
  {pending : PendingSubscribe}

/-! ## The books -/

/-- The callers that are owed an answer. -/
def owed (engine : Engine σ τ) : List Caller :=
  engine.registry.waiting.map .subscriber ++ engine.coordinator.waiting.map .syncer

/-- What was put out between two states of the engine. -/
def since (before after : Engine σ τ) : List Output :=
  after.outputs.drop before.outputs.length

/-- The conversations of the registry and of the coordinator are in order. -/
structure Ordered (engine : Engine σ τ) : Prop where
  pending : engine.registry.pending.Sorted
  schedules : engine.coordinator.conversations.Sorted

/-- Nothing that was put out is taken back. The callers that came and those who were owed an answer
are those who were answered and those who are owed one. -/
structure Balances (asked : List Caller) (before after : Engine σ τ) : Prop where
  grows : before.outputs <+: after.outputs
  ordered : before.Ordered → after.Ordered
  balance : before.Ordered → (asked ++ before.owed).Perm
    ((since before after).filterMap Output.answered? ++ after.owed)

theorem since_of_append {outputs : List Output} (put : after.outputs = before.outputs ++ outputs) :
    since before after = outputs := by
  rw [since, put, List.drop_left]

theorem since_trans (first : before.outputs <+: middle.outputs)
    (second : middle.outputs <+: after.outputs) :
    since before after = since before middle ++ since middle after := by
  rcases first with ⟨some, first⟩
  rcases second with ⟨others, second⟩
  rw [since_of_append first.symm, since_of_append second.symm]
  refine since_of_append ?_
  rw [← second, ← first, List.append_assoc]

theorem Balances.of_append {outputs : List Output}
    (put : after.outputs = before.outputs ++ outputs)
    (ordered : before.Ordered → after.Ordered)
    (balance : before.Ordered →
      (asked ++ before.owed).Perm (outputs.filterMap Output.answered? ++ after.owed)) :
    Balances asked before after :=
  ⟨⟨outputs, put.symm⟩, ordered, by rwa [since_of_append put]⟩

theorem Balances.refl (engine : Engine σ τ) : Balances [] engine engine :=
  .of_append (List.append_nil _).symm id fun _ => .refl _

theorem Balances.trans (first : Balances asked before middle)
    (second : Balances more middle after) : Balances (asked ++ more) before after := by
  refine ⟨first.grows.trans second.grows, second.ordered ∘ first.ordered, fun ordered => ?_⟩
  have owedThen := first.balance ordered
  have owedNow := second.balance (first.ordered ordered)
  rw [since_trans first.grows second.grows, List.filterMap_append]
  calc asked ++ more ++ before.owed
    _ |>.Perm (more ++ (asked ++ before.owed)) := by
        rw [List.append_assoc]
        exact List.perm_append_comm_assoc _ _ _
    _ |>.Perm (more ++ (_ ++ middle.owed)) := owedThen.append_left _
    _ |>.Perm (_ ++ (more ++ middle.owed)) := List.perm_append_comm_assoc _ _ _
    _ |>.Perm (_ ++ (_ ++ after.owed)) := owedNow.append_left _
    _ |>.Perm (_ ++ _ ++ after.owed) := .of_eq (List.append_assoc _ _ _).symm

theorem answered?_subscribeAnswers (answers : List SubscribeAnswer) :
    (answers.map SubscribeAnswer.output).filterMap Output.answered? =
      (answers.map SubscribeAnswer.waiter).map .subscriber := by
  rw [List.filterMap_map, List.map_map, ← List.filterMap_eq_map]
  rfl

theorem answered?_syncAnswers (answers : List SyncAnswer) :
    (answers.map SyncAnswer.output).filterMap Output.answered? =
      (answers.map SyncAnswer.waiter).map .syncer := by
  rw [List.filterMap_map, List.map_map, ← List.filterMap_eq_map]
  rfl

theorem Change.balances (change : Change input asked before after) :
    Balances asked before after := by
  cases change with
  | apart apart =>
      refine .of_append (apart.outputs.trans (List.append_nil _).symm) (fun ordered => ?_) fun _ => ?_
      · exact ⟨apart.registry ▸ ordered.pending, apart.coordinator ▸ ordered.schedules⟩
      · rw [owed, owed, apart.registry, apart.coordinator]
        exact .refl _
  | moved =>
      exact .of_append (List.append_nil _).symm (fun ordered => ⟨ordered.pending, ordered.schedules⟩)
        fun _ => .refl _
  | put _ output =>
      refine .of_append rfl (fun ordered => ⟨ordered.pending, ordered.schedules⟩) fun _ => ?_
      cases answered : output.answered? <;> simp [answered] <;> exact .refl _
  | @begun _ conversationId waiter instant =>
      refine .of_append (List.append_nil _).symm (fun ordered =>
        ⟨SubscriptionRegistry.sorted_begin ordered.pending, ordered.schedules⟩) fun ordered => ?_
      have comes := (SubscriptionRegistry.waiting_begin ordered.pending conversationId waiter
        instant).map Caller.subscriber
      exact (comes.append_right _).symm
  | finished finishes =>
      refine .of_append rfl (fun ordered =>
        ⟨(finishes ordered.pending).1, ordered.schedules⟩) fun ordered => ?_
      have leave := (finishes.waiting ordered.pending).map Caller.subscriber
      rw [List.map_append] at leave
      rw [answered?_subscribeAnswers]
      exact (leave.append_right _).trans (.of_eq (List.append_assoc _ _ _))
  | rescheduled reschedules =>
      refine .of_append (List.append_nil _).symm (fun ordered =>
        ⟨ordered.pending, (reschedules.waiting ordered.schedules).1⟩) fun ordered => ?_
      have come := (reschedules.waiting ordered.schedules).2.map Caller.syncer
      rw [List.map_append] at come
      exact (List.perm_append_comm_assoc _ _ _).trans (come.append_left _)
  | @concluded _ conversationIds answers coordinator concludes =>
      refine .of_append (outputs_published _) (fun ordered => ?_) fun ordered => ?_
      · refine ⟨?_, ?_⟩
        · rw [registry_published]
          exact ordered.pending
        · rw [coordinator_published]
          exact (concludes.waiting ordered.schedules).1
      · have leave := (concludes.waiting ordered.schedules).2.map Caller.syncer
        rw [List.map_append] at leave
        rw [answered?_syncAnswers, owed, owed, registry_published, coordinator_published]
        exact (leave.append_left _).trans (List.perm_append_comm_assoc _ _ _)

theorem Changes.balances (changes : Changes input asked before after) :
    Balances asked before after := by
  induction changes with
  | none engine => exact .refl engine
  | next changes change balances => exact balances.trans change.balances

/-! ## Those who wait together -/

/-- The callers were given one and the same answer. -/
def Alike (waiters : List Waiter) (outputs : List Output) : Prop :=
  ∃ result, (waiters.map fun waiter => Output.reply waiter (.subscribed result)).Sublist outputs

theorem Alike.mono {waiters : List Waiter} {outputs others : List Output}
    (alike : Alike waiters outputs) (sublist : outputs.Sublist others) : Alike waiters others := by
  rcases alike with ⟨result, answered⟩
  exact ⟨result, answered.trans sublist⟩

theorem Alike.fewer {waiters fewer : List Waiter} {outputs : List Output}
    (alike : Alike waiters outputs) (sublist : fewer.Sublist waiters) : Alike fewer outputs := by
  rcases alike with ⟨result, answered⟩
  exact ⟨result, (sublist.map _).trans answered⟩

/-- Unless the input is a subscribe of the same conversation, the callers that wait for a subscribe
still wait together, or have one and the same answer. -/
theorem Change.together (change : Change input asked before after)
    (others : ∀ waiter, input ≠ .command (.subscribe conversationId waiter))
    (ordered : before.Ordered)
    (found : before.registry.pending.get? conversationId = some pending) :
    after.registry.pending.get? conversationId = some pending ∨
      Alike pending.waiters (since before after) := by
  cases change with
  | apart apart => exact Or.inl (apart.registry ▸ found)
  | moved | put | rescheduled => exact Or.inl found
  | @begun _ other waiter instant asks =>
      left
      rw [← found]
      refine SubscriptionRegistry.get?_begin_of_ne ?_
      rintro rfl
      exact others waiter asks
  | @finished _ answers registry finishes =>
      rcases finishes.together ordered.pending found with kept | ⟨result, answered⟩
      · exact Or.inl kept
      · refine Or.inr ⟨result, ?_⟩
        have put : since before (before.registered registry answers) =
            answers.map SubscribeAnswer.output := since_of_append rfl
        have among := answered.map SubscribeAnswer.output
        rw [put]
        rwa [PendingSubscribe.finish, List.map_map] at among
  | concluded concludes =>
      left
      rw [registry_published]
      exact found

theorem Changes.together (changes : Changes input asked before after)
    (others : ∀ waiter, input ≠ .command (.subscribe conversationId waiter))
    (ordered : before.Ordered)
    (found : before.registry.pending.get? conversationId = some pending) :
    after.registry.pending.get? conversationId = some pending ∨
      Alike pending.waiters (since before after) := by
  induction changes with
  | none engine => exact Or.inl found
  | next changes change together =>
      have puts := change.balances.grows
      rw [since_trans changes.balances.grows puts]
      rcases together ordered found with waits | answered
      · rcases change.together others (changes.balances.ordered ordered) waits with waits | answered
        · exact Or.inl waits
        · exact Or.inr (answered.mono (List.sublist_append_right _ _))
      · exact Or.inr (answered.mono (List.sublist_append_left _ _))

/-! ## Joining -/

section Joining

variable [Transport τ]

theorem transport_noticeBrokenLink :
    (noticeBrokenLink.run engine).2.transport = engine.transport := by
  by_cases connected : engine.machine.isConnected = true
  · simp only [noticeBrokenLink, isConnected, linkUp, run_bind, run_get, run_pure, connected]
    by_cases broken : Transport.isConnected engine.transport = true
    · simp only [broken, Bool.not_true, Bool.and_false, Bool.false_eq_true, reduceIte, run_pure]
    · simp only [broken, Bool.not_false, Bool.and_self, reduceIte]
      rw [apply_of_handle (ConnectionMachine.handle_closed_of_connected connected) rfl]
      simp only [run_forM_cons, run_forM_nil, run_scheduleRetry]
      rw [same_abandonPending]
      rfl
  · rw [noticeBrokenLink_of_not_connected (Bool.not_eq_true _ ▸ connected)]

/-- Who subscribes to a conversation of which a subscribe is pending joins that one. -/
theorem run_subscribe_of_pending (orderly : found.Orderly)
    (waits : found.registry.pending.get? conversationId = some pending) :
    ((subscribe conversationId waiter).run found).2 = { found with
      coordinator := found.coordinator.track conversationId found.clock.now
      registry := { found.registry with
        pending := found.registry.pending.set conversationId
          { pending with waiters := pending.waiters ++ [waiter] } } } := by
  have connected : found.machine.isConnected = true := by
    rw [← Bool.not_eq_false]
    intro apart
    rw [orderly.idle apart] at waits
    cases waits
  have named : conversationId ≠ "" := by
    rintro rfl
    have unnamed := orderly.sound.pending
    rw [Keyed.contains, waits] at unnamed
    cases unnamed
  simp only [subscribe, named, if_false, isConnected, now, onCoordinator, run_bind, run_get,
    run_pure, run_modify, connected, Bool.not_true, Bool.false_eq_true, run_onRegistry,
    SubscriptionRegistry.begin_of_pending waits, registered, List.map_nil, List.append_nil]

theorem together_noticeBrokenLink (ordered : engine.Ordered)
    (waits : engine.registry.pending.get? conversationId = some pending) :
    (noticeBrokenLink.run engine).2.registry.pending.get? conversationId = some pending ∨
      (noticeBrokenLink.run engine).2.registry.pending.get? conversationId = none ∧
        Alike pending.waiters (since engine (noticeBrokenLink.run engine).2) := by
  have changes : Changes .closed [] engine (noticeBrokenLink.run engine).2 :=
    always_noticeBrokenLink engine
  have together := changes.together (by simp) ordered waits
  by_cases connected : engine.machine.isConnected = true
  · rcases noticeBrokenLink_of_connected connected with same | lost
    · exact Or.inl (by rw [same, waits])
    · have gone : (noticeBrokenLink.run engine).2.registry.pending.get? conversationId = none := by
        rw [lost.registry]
        rfl
      exact Or.inr ⟨gone, together.resolve_left (by simp [gone])⟩
  · rw [noticeBrokenLink_of_not_connected (Bool.not_eq_true _ ▸ connected)]
    exact Or.inl waits

variable [MessageLog σ]

/-- A caller that joins a pending subscribe makes the engine send nothing. It waits with the others,
and no longer than they do, unless the link is found broken at once. -/
theorem joins_step (orderly : found.Orderly) (ordered : found.Ordered)
    (waits : found.registry.pending.get? conversationId = some pending) (waiter : Waiter) :
    let joined : PendingSubscribe := { pending with waiters := pending.waiters ++ [waiter] }
    let left := ((step (.command (.subscribe conversationId waiter))).run found).2
    left.transport = found.transport ∧
      (left.registry.pending.get? conversationId = some joined ∨
        left.registry.pending.get? conversationId = none ∧
          Alike joined.waiters (since found left)) := by
  intro joined left
  let joins : Engine σ τ := ((take (.command (.subscribe conversationId waiter))).run found).2
  have same : joins = { found with
      coordinator := found.coordinator.track conversationId found.clock.now
      registry := { found.registry with
        pending := found.registry.pending.set conversationId joined } } :=
    run_subscribe_of_pending orderly waits
  have orderedThen : joins.Ordered := (changes_take _ found).balances.ordered ordered
  have transport : joins.transport = found.transport := by rw [same]
  have outputs : joins.outputs = found.outputs := by rw [same]
  have waitsThen : joins.registry.pending.get? conversationId = some joined := by
    rw [same]
    exact (Keyed.get?_set _ _ _ _).trans (if_pos rfl)
  have looks : left = if joins.opening.isNone then (noticeBrokenLink.run joins).2 else joins :=
    run_step found _
  by_cases answered : joins.opening.isNone = true
  · rw [looks, if_pos answered, transport_noticeBrokenLink]
    refine ⟨transport, ?_⟩
    have together := together_noticeBrokenLink orderedThen waitsThen
    rwa [since, outputs] at together
  · rw [looks, if_neg answered]
    exact ⟨transport, Or.inl waitsThen⟩

end Joining

/-! ## Runs -/

/-- The callers wait together for a subscribe of the conversation, until its deadline. -/
def WaitTogether (conversationId : String) (deadline : Instant) (waiters : List Waiter)
    (engine : Engine σ τ) : Prop :=
  ∃ pending, engine.registry.pending.get? conversationId = some pending ∧
    pending.deadline = deadline ∧ waiters.Sublist pending.waiters

section Runs

variable [MessageLog σ] [Transport τ]

/-- What a step puts out. -/
def Taken.said (taken : Taken σ τ) : List Output :=
  since taken.found taken.left

/-- What stopping the engine puts out. -/
def lastWords (engine : Engine σ τ) : List Output :=
  since engine (teardown.run engine).2

theorem waitTogether_step {deadline : Instant} {waiters : List Waiter} (orderly : found.Orderly)
    (ordered : found.Ordered) (wait : found.WaitTogether conversationId deadline waiters)
    (input : Input) :
    ((step input).run found).2.WaitTogether conversationId deadline waiters ∨
      Alike waiters (since found ((step input).run found).2) := by
  rcases wait with ⟨pending, waits, rfl, among⟩
  by_cases joins : ∃ waiter, input = .command (.subscribe conversationId waiter)
  · rcases joins with ⟨waiter, rfl⟩
    have more := among.trans (List.sublist_append_left pending.waiters [waiter])
    rcases (joins_step orderly ordered waits waiter).2 with waits | ⟨-, answered⟩
    · exact Or.inl ⟨_, waits, rfl, more⟩
    · exact Or.inr (answered.fewer more)
  · have others : ∀ waiter, input ≠ .command (.subscribe conversationId waiter) :=
      fun waiter same => joins ⟨waiter, same⟩
    rcases (changes_step input found).together others ordered waits with waits | answered
    · exact Or.inl ⟨pending, waits, rfl, among⟩
    · exact Or.inr (answered.fewer among)

omit [MessageLog σ] [Transport τ] in
theorem Ordered.drift (ordered : before.Ordered) (drifts : Drifts before found) : found.Ordered := by
  rw [drifts]
  exact ⟨ordered.pending, ordered.schedules⟩

theorem Ordered.step (ordered : found.Ordered) (input : Input) :
    Ordered ((step input).run found).2 :=
  (changes_step input found).balances.ordered ordered

omit [MessageLog σ] [Transport τ] in
theorem owed_of_drifts (drifts : Drifts before found) : found.owed = before.owed := by
  rw [owed, owed, drifts]

omit [MessageLog σ] [Transport τ] in
theorem ordered_of_start {settings : Settings} {transport : τ} {log : σ} {clock : Clock}
    (started : start settings transport log clock = .ok engine) :
    engine.Ordered ∧ engine.owed = [] := by
  rcases eq_of_start started with ⟨window, rfl⟩
  exact ⟨⟨Keyed.sorted_empty, Keyed.sorted_empty⟩, rfl⟩

variable {comes : Engine σ τ → Input → Engine σ τ → Prop} {first : Engine σ τ}
  {past : List (Taken σ τ)}
  (drifts : ∀ before input found, comes before input found → Drifts before found)

include drifts

/-- After a run, those who came are those who were answered and those who are owed an answer. -/
theorem balance_of_took (ordered : first.Ordered) (took : Took comes first engine past) :
    engine.Ordered ∧ (past.flatMap (·.input.callers) ++ first.owed).Perm
      ((past.flatMap Taken.said).filterMap Output.answered? ++ engine.owed) := by
  induction took with
  | initial => exact ⟨ordered, .refl _⟩
  | @next engine found input past took arrival balance =>
      rcases balance with ⟨orderedThen, balance⟩
      have drifted := drifts _ _ _ arrival
      have books := (changes_step input found).balances
      have stepped := books.balance (orderedThen.drift drifted)
      rw [owed_of_drifts drifted] at stepped
      refine ⟨(orderedThen.drift drifted).step input, ?_⟩
      -- Whoever was owed an answer after the run so far is on both accounts, and drops out.
      simp only [List.flatMap_append, List.flatMap_singleton, List.filterMap_append]
      calc past.flatMap (·.input.callers) ++ input.callers ++ first.owed
        _ |>.Perm (input.callers ++ (past.flatMap (·.input.callers) ++ first.owed)) := by
            rw [List.append_assoc]
            exact List.perm_append_comm_assoc _ _ _
        _ |>.Perm (input.callers ++ (_ ++ engine.owed)) := balance.append_left _
        _ |>.Perm (_ ++ (input.callers ++ engine.owed)) := List.perm_append_comm_assoc _ _ _
        _ |>.Perm (_ ++ (_ ++ ((step input).run found).2.owed)) := stepped.append_left _
        _ |>.Perm (_ ++ _ ++ ((step input).run found).2.owed) := .of_eq (List.append_assoc _ _ _).symm

theorem waitTogether_of_took {deadline : Instant} {waiters : List Waiter}
    (orderly : first.Orderly) (ordered : first.Ordered)
    (wait : first.WaitTogether conversationId deadline waiters)
    (took : Took comes first engine past) :
    engine.WaitTogether conversationId deadline waiters ∨ Alike waiters (past.flatMap Taken.said) := by
  induction took with
  | initial => exact Or.inl wait
  | @next engine found input past took arrival together =>
      rw [List.flatMap_append, List.flatMap_singleton]
      -- If they still wait together, this step keeps them together or ends their wait.
      rcases together with wait | answered
      · have drifted := drifts _ _ _ arrival
        have orderlyThen : engine.Orderly := took.runs.keeps orderly
          fun before input found orderly arrival => (orderly.drift (drifts _ _ _ arrival)).step input
        have orderedThen := (balance_of_took drifts ordered took).1
        have wait : found.WaitTogether conversationId deadline waiters := by
          rw [drifted]
          exact wait
        rcases waitTogether_step (orderlyThen.drift drifted) (orderedThen.drift drifted) wait input
          with wait | answered
        · exact Or.inl wait
        · exact Or.inr (answered.mono (List.sublist_append_right _ _))
      · exact Or.inr (answered.mono (List.sublist_append_left _ _))

/-! ## The end -/

omit drifts

omit [MessageLog σ] in
theorem lastWords_eq (engine : Engine σ τ) : lastWords engine =
    (engine.registry.abandonPending .engineStopped).1.map SubscribeAnswer.output ++
      (engine.coordinator.rejectWaiters .engineStopped).1.map SyncAnswer.output := by
  refine since_of_append ?_
  simp only [teardown, finishSyncs, disconnectTransport, run_bind, run_get, run_modify,
    run_onRegistry, run_answerSyncs, registered, List.append_assoc]
  rfl

omit [MessageLog σ] in
/-- Stopping the engine answers exactly those who are owed an answer. -/
theorem answered_lastWords (ordered : engine.Ordered) :
    ((lastWords engine).filterMap Output.answered?).Perm engine.owed := by
  have leave := (SubscriptionRegistry.finishes_abandonPending engine.registry
    .engineStopped).waiting ordered.pending
  have nobody : (engine.registry.abandonPending .engineStopped).2.waiting = [] := rfl
  rw [nobody, List.append_nil] at leave
  rw [lastWords_eq, List.filterMap_append, answered?_subscribeAnswers, answered?_syncAnswers,
    SyncCoordinator.rejectWaiters_answers, owed]
  exact (leave.map Caller.subscriber).symm.append_right _

omit [MessageLog σ] in
theorem alike_lastWords {deadline : Instant} {waiters : List Waiter} (ordered : engine.Ordered)
    (wait : engine.WaitTogether conversationId deadline waiters) :
    Alike waiters (lastWords engine) := by
  rcases wait with ⟨pending, waits, -, among⟩
  have together := (SubscriptionRegistry.finishes_abandonPending engine.registry
    .engineStopped).together ordered.pending waits
  rcases together with waits | ⟨result, answered⟩
  · cases waits
  · have answers := answered.map SubscribeAnswer.output
    rw [PendingSubscribe.finish, List.map_map] at answers
    rw [lastWords_eq]
    exact Alike.fewer ⟨result, answers.trans (List.sublist_append_left _ _)⟩ among

/-- Whoever subscribes or asks for a sync is answered exactly once, at the latest when the engine is
stopped. Those who join a pending subscribe make the engine send nothing, wait no longer than its
deadline, and have the same answer as the others. -/
theorem answered_exactly_once {settings : Settings} {transport : τ} {log : σ} {clock : Clock}
    (started : start settings transport log clock = .ok first)
    (drifts : ∀ before input found, comes before input found → Drifts before found)
    (took : Took comes first engine past) :
    ((past.flatMap Taken.said ++ lastWords engine).filterMap Output.answered?).Perm
        (past.flatMap (·.input.callers)) ∧
      ∀ (earlier later : List (Taken σ τ)) (joins : Taken σ τ) (conversationId : String)
        (waiter : Waiter) (pending : PendingSubscribe), past = earlier ++ joins :: later →
        joins.input = .command (.subscribe conversationId waiter) →
        joins.found.registry.pending.get? conversationId = some pending →
          joins.left.transport = joins.found.transport ∧
          (joins.left.registry.pending.get? conversationId = none ∨
            joins.left.registry.pending.get? conversationId =
              some { pending with waiters := pending.waiters ++ [waiter] }) ∧
          Alike (pending.waiters ++ [waiter])
            (joins.said ++ later.flatMap Taken.said ++ lastWords engine) := by
  rcases ordered_of_start started with ⟨ordered, nobody⟩
  rcases balance_of_took drifts ordered took with ⟨orderedLast, balance⟩
  refine ⟨?_, ?_⟩
  · rw [nobody, List.append_nil] at balance
    rw [List.filterMap_append]
    exact ((answered_lastWords orderedLast).append_left _).trans balance.symm
  · rintro earlier later ⟨found, input⟩ conversationId waiter pending rfl rfl waits
    -- What comes after the subscribe is a run of its own, from the engine that the subscribe left.
    rw [List.append_cons] at took
    rcases took.split with ⟨_, joined, rest⟩
    rcases joined.last with ⟨before, took, arrival, rfl⟩
    have drifted := drifts _ _ _ arrival
    have orderly := (orderly_of_runs started drifts took.runs).drift drifted
    have ordered := (balance_of_took drifts ordered took).1.drift drifted
    rcases joins_step orderly ordered waits waiter with ⟨transport, wait | ⟨gone, answered⟩⟩
    · refine ⟨transport, Or.inr wait, ?_⟩
      rcases waitTogether_of_took drifts (orderly.step _) (ordered.step _)
        ⟨_, wait, rfl, .refl _⟩ rest with wait | answered
      · exact (alike_lastWords orderedLast wait).mono (List.sublist_append_right _ _)
      · refine answered.mono ?_
        rw [List.append_assoc]
        exact (List.sublist_append_left _ _).trans (List.sublist_append_right _ _)
    · refine ⟨transport, Or.inl gone, answered.mono ?_⟩
      rw [List.append_assoc]
      exact List.sublist_append_left _ _

end Runs

def oneWaits (first : Engine Store ScriptedTransport) : Engine Store ScriptedTransport :=
  ((step (.command (.subscribe "c1" 1))).run ((step (.command .connect)).run first).2).2

def twoWait (first : Engine Store ScriptedTransport) : Engine Store ScriptedTransport :=
  ((step (.command (.subscribe "c1" 2))).run (oneWaits first)).2

theorem answered_exactly_once_twoWait : ∃ first past, unconnected = .ok first ∧
    Took Arrives first (twoWait first) past ∧
    past.flatMap (·.input.callers) = [.subscriber 1, .subscriber 2] ∧
    ((past.flatMap Taken.said ++ lastWords (twoWait first)).filterMap Output.answered?).Perm
      [.subscriber 1, .subscriber 2] ∧
    (twoWait first).transport = (oneWaits first).transport ∧
    Alike [1, 2] (since (oneWaits first) (twoWait first) ++ lastWords (twoWait first)) := by
  have left : unconnected.toOption.map (fun first =>
      (((step (.command .connect)).run first).2.opening.isSome, (oneWaits first).opening.isSome,
        ((oneWaits first).registry.pending.get? "c1").map PendingSubscribe.waiters)) =
      some (false, false, some [1]) := by decide +kernel
  rcases exists_of_toOption_map left with ⟨first, started, same⟩
  simp only [Prod.mk.injEq] at same
  rcases same with ⟨linked, asked, waiters⟩
  rcases Option.map_eq_some_iff.mp waiters with ⟨pending, waits, alone⟩
  have fresh := fresh_of_start started
  have connects : Arrives first (.command .connect) first := ⟨rfl, by simp [fresh.opening]⟩
  have subscribes : Arrives _ (.command (.subscribe "c1" 1))
      ((step (.command .connect)).run first).2 := ⟨rfl, by simp [linked]⟩
  have joins : Arrives (oneWaits first) (.command (.subscribe "c1" 2)) (oneWaits first) :=
    ⟨rfl, by simp [asked]⟩
  have took := Took.next (.next (.next .initial connects) subscribes) joins
  rcases answered_exactly_once started (fun _ _ _ arrival => arrival.drifts) took with
    ⟨once, together⟩
  rcases together _ [] ⟨_, _⟩ "c1" 2 pending rfl rfl waits with ⟨silent, -, alike⟩
  rw [alone] at alike
  rw [List.flatMap_nil, List.append_nil] at alike
  exact ⟨first, _, started, took, rfl, once, silent, alike⟩

end Engine

end MessageSync
