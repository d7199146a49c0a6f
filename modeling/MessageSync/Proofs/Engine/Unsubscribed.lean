import MessageSync.Proofs.Engine.Changes
import MessageSync.Proofs.Engine.Subscriptions
import MessageSync.Proofs.Engine.SyncResponses

/-!
# What is unsubscribed stays so

An unsubscribe takes a conversation out of the registry, and only a subscribe brings it back: an
acknowledgement does not, however late it comes, nor does a connection that is lost or opened.

If nothing of the conversation waits to be sent, and the log can say so, the conversation is not
tracked any more either. Then only the commands that take it up make it sync again, what the server
says of it is ignored, and no error is published of it.
-/

namespace MessageSync

namespace SubscriptionRegistry

/-- What the registry does not have of the conversation, it does not get. -/
def StaysWithout (conversationId : String) (before after : SubscriptionRegistry) : Prop :=
  before.Lacks conversationId → after.Lacks conversationId

instance (conversationId : String) :
    IsPreorder SubscriptionRegistry (StaysWithout conversationId) where
  refl _ := id
  trans _ _ _ first second := second ∘ first

end SubscriptionRegistry

namespace Engine

variable {σ τ : Type} {engine before after found : Engine σ τ} {input : Input}
  {conversationId : String} {waiter : Waiter} {asked : List Caller}

/-! ## The registry -/

section Registry

variable [Transport τ] [MessageLog σ]

open SubscriptionRegistry

omit [MessageLog σ] in
theorem staysWithout_abandonPending (registry : SubscriptionRegistry) :
    StaysWithout conversationId registry (registry.abandonPending .connectionLost).2 :=
  fun lacks => lacks.abandonPending .connectionLost

/-- Without a subscribe of it, the registry does not get a conversation. -/
theorem lacks_step (others : ∀ waiter, input ≠ .command (.subscribe conversationId waiter))
    (lacks : found.registry.Lacks conversationId) :
    ((step input).run found).2.registry.Lacks conversationId := by
  have allows : Allows (Registers (StaysWithout conversationId)) input found := by
    refine allows_registers (fun _ => staysWithout_abandonPending) ?_
      (fun _ _ _ _ lacks => lacks.unsubscribe) (fun _ _ _ _ _ _ _ _ _ lacks => lacks.acknowledge)
      fun _ _ lacks => lacks.expire
    rintro other waiter rfl - registry instant lacks
    exact lacks.begin fun same => others waiter (same ▸ rfl)
  exact registers_step allows.registers_take staysWithout_abandonPending lacks

/-- Whatever is unsubscribed, the registry does not have. -/
theorem lacks_step_unsubscribe :
    ((step (.command (.unsubscribe conversationId waiter))).run found).2.registry.Lacks
      conversationId := by
  have releases : Always (Registers (StaysWithout conversationId))
      (release conversationId : EngineM σ τ Unit) := always_release fun _ => registers_of_eq rfl
  -- The registry forgets it first, and nothing that comes after brings it back.
  have forgets : Registers (StaysWithout conversationId)
      { found with registry := (found.registry.unsubscribe conversationId).2.2 }
      ((unsubscribe conversationId).run found).2 :=
    trans_of _ (Telling.outward _ _ (outward_onRegistry (·.unsubscribe conversationId) found))
      (related_unsubscribe releases)
  have taken : ((unsubscribe conversationId).run found).2.registry.Lacks conversationId :=
    forgets lacks_unsubscribe
  have notices : Always (Registers (StaysWithout conversationId))
      (noticeBrokenLink : EngineM σ τ Unit) :=
    always_notice allowsMoves_registers fun engine => staysWithout_abandonPending engine.registry
  exact related_step_of_take notices _ _ taken

end Registry

/-! ## The schedules -/

theorem not_takesUp_of_event (event : ∀ command, input ≠ .command command) :
    ¬input.TakesUp conversationId := by
  rintro ⟨⟩ <;> exact event _ rfl

/-- The conversation is not tracked, and no error is published of it. -/
structure Unheeded (conversationId : String) (engine : Engine σ τ) : Prop where
  untracked : engine.coordinator.isTracked conversationId = false
  noError : engine.status.syncErrors.get? conversationId = none

theorem Unheeded.change (unheeded : before.Unheeded conversationId)
    (others : ¬input.TakesUp conversationId) (change : Change input asked before after) :
    after.Unheeded conversationId := by
  cases change with
  | apart apart =>
      refine ⟨?_, ?_⟩
      · rw [apart.coordinator, unheeded.untracked]
      · rw [apart.syncErrors, unheeded.noError]
  | moved | put | begun | finished => exact ⟨unheeded.untracked, unheeded.noError⟩
  | rescheduled reschedules =>
      refine ⟨?_, unheeded.noError⟩
      rw [← Bool.not_eq_true]
      intro tracked
      rcases reschedules.tracked conversationId tracked with before | taken
      · cases before.symm.trans unheeded.untracked
      · exact others taken
  | @concluded _ conversationIds answers coordinator concludes =>
      have untracked : coordinator.isTracked conversationId = false := by
        rw [← Bool.not_eq_true]
        intro tracked
        cases (concludes.tracked conversationId tracked).symm.trans unheeded.untracked
      refine ⟨(congrArg (·.isTracked conversationId) (coordinator_published _)).trans untracked, ?_⟩
      rw [get?_published]
      split
      · exact congrArg (Option.map _) (SyncCoordinator.lastError?_of_untracked untracked)
      · exact unheeded.noError

theorem Changes.unheeded (changes : Changes input asked before after)
    (others : ¬input.TakesUp conversationId) (unheeded : before.Unheeded conversationId) :
    after.Unheeded conversationId :=
  changes.keeps (fun _ _ _ change unheeded => unheeded.change others change) unheeded

section Steps

variable [MessageLog σ] [Transport τ]

omit [Transport τ] in
theorem unheeded_release (free : engine.coordinator.isInFlight conversationId = false)
    (sent : MessageLog.pending engine.log conversationId = .ok []) :
    ((release conversationId).run engine).2.Unheeded conversationId := by
  simp only [release, run_bind, run_get, free, Bool.false_eq_true, reduceIte, run_onLog_query, sent,
    finishSyncs, run_modify, run_answerSyncs, setSyncError]
  exact ⟨SyncCoordinator.isTracked_untrack_self, (Keyed.get?_erase _ _ _).trans (if_pos rfl)⟩

/-- An unsubscribe that changed something releases the conversation, with the schedules and the log
as they were. -/
theorem exists_run_release (changed : ((unsubscribe conversationId).run found).1 = true) :
    ∃ told : Engine σ τ, told.coordinator = found.coordinator ∧ told.log = found.log ∧
      ((unsubscribe conversationId).run found).2 = ((release conversationId).run told).2 := by
  let forgot := found.registered (found.registry.unsubscribe conversationId).2.2
    (found.registry.unsubscribe conversationId).2.1
  simp only [unsubscribe, run_bind, run_onRegistry] at changed ⊢
  by_cases changes : (found.registry.unsubscribe conversationId).1 = true
  · simp only [changes, reduceIte]
    by_cases connected : found.machine.isConnected = true
    · let notice :=
        Envelope.ofRecord Unsubscribe.layout conversationId .unsubscribe ⟨conversationId⟩
      have sends : Sends forgot ((dispatch notice).run forgot).2 := sends_dispatch notice forgot
      refine ⟨((dispatch notice).run forgot).2, ?_, ?_, ?_⟩
      · rw [sends.same]; rfl
      · rw [sends.same]; rfl
      · simp only [isConnected, run_bind, run_get, run_pure, registered, connected, reduceIte]
        rfl
    · refine ⟨forgot, rfl, rfl, ?_⟩
      simp only [isConnected, run_bind, run_get, run_pure, registered, connected,
        Bool.false_eq_true, reduceIte]
      rfl
  · simp [changes] at changed

theorem unheeded_step_unsubscribe
    (changed : ((unsubscribe conversationId).run found).1 = true)
    (free : found.coordinator.isInFlight conversationId = false)
    (sent : MessageLog.pending found.log conversationId = .ok []) :
    ((step (.command (.unsubscribe conversationId waiter))).run found).2.Unheeded
      conversationId := by
  rcases exists_run_release changed with ⟨told, coordinator, log, releases⟩
  have released : ((release conversationId).run told).2.Unheeded conversationId :=
    unheeded_release (coordinator ▸ free) (log ▸ sent)
  rw [← releases] at released
  have taken : ((take (.command (.unsubscribe conversationId waiter))).run found).2.Unheeded
      conversationId := ⟨released.untracked, released.noError⟩
  have notices : Always (Changes .closed []) (noticeBrokenLink : EngineM σ τ Unit) :=
    always_noticeBrokenLink
  have looks : Changes .closed [] _ _ :=
    related_step_of_take notices (.command (.unsubscribe conversationId waiter)) found
  exact looks.unheeded (not_takesUp_of_event (by simp)) taken

theorem unheeded_step (others : ¬input.TakesUp conversationId)
    (unheeded : found.Unheeded conversationId) :
    ((step input).run found).2.Unheeded conversationId :=
  (changes_step input found).unheeded others unheeded

/-! ## Sync runs -/

theorem mem_of_mem_runsInTurn {instant : Instant} {conversationIds : List String}
    {run : SyncRun σ τ} (mem : run ∈ runsInTurn instant conversationIds engine) :
    run.conversationId ∈ conversationIds := by
  induction conversationIds generalizing engine with
  | nil => cases mem
  | cons conversationId rest later =>
      rcases List.mem_cons.mp mem with rfl | mem
      · exact List.mem_cons_self
      · exact List.mem_cons_of_mem _ (later mem)

theorem Unheeded.ne_of_mem_timerRuns {firedAt : Instant} {run : SyncRun σ τ}
    (unheeded : engine.Unheeded conversationId) (mem : run ∈ timerRuns firedAt engine) :
    run.conversationId ≠ conversationId := by
  rintro rfl
  -- What has waited too long is ended first, and only then is it seen what is due.
  have ends : Changes .timer [] engine ((endWaits firedAt).run engine).2 :=
    changes_endWaits firedAt engine
  have untracked := (ends.unheeded (not_takesUp_of_event (by simp)) unheeded).untracked
  rw [SyncCoordinator.isTracked, ← Bool.not_eq_true, Keyed.contains_iff] at untracked
  have due := mem_of_mem_runsInTurn mem
  rw [SyncCoordinator.due, Keyed.keysThat] at due
  exact untracked ((List.filter_sublist.map Prod.fst).subset due)

theorem Unheeded.ne_of_mem_runsOf {run : SyncRun σ τ} (unheeded : found.Unheeded conversationId)
    (mem : run ∈ runsOf input found) : run.conversationId ≠ conversationId := by
  cases input with
  | timer =>
      have retries : Changes .timer [] found found.retried := changes_retried found
      have went : found.retried.Unheeded conversationId :=
        retries.unheeded (not_takesUp_of_event (by simp)) unheeded
      simp only [runsOf] at mem
      split at mem
      · cases mem
      · exact went.ne_of_mem_timerRuns mem
  | openingOver =>
      simp only [runsOf] at mem
      split at mem
      · cases mem
      · next opening _ =>
          have abandons : Changes .openingOver [] found ((abandonOpening opening).run found).2 :=
            always_abandonOpening opening found
          split at mem
          · have ended := abandons.unheeded (not_takesUp_of_event (by simp)) unheeded
            exact ended.ne_of_mem_timerRuns mem
          · cases mem
  | command | frame | closed | receiveFailed => cases mem

/-! ## What the server says -/

/-- The frame bears a notice that the conversation is to be synced. -/
def Notifies (content : Packing.Bytes) (engine : Engine σ τ) (conversationId : String) : Prop :=
  ∃ envelope available,
    Envelope.decodeFrame content engine.fallbackConversation = .ok envelope ∧
      envelope.messageType = .syncAvailable ∧
      envelope.bodyAs SyncAvailable.layout.codec = .ok available ∧
      available.conversationId = conversationId

omit [Transport τ] in
theorem Unheeded.ignores_notice {content : Packing.Bytes}
    (unheeded : found.Unheeded conversationId) (notifies : Notifies content found conversationId) :
    ((takeFrame content).run found).2 = heard (.frame content) found := by
  rcases notifies with ⟨envelope, available, decoded, isNotice, read, rfl⟩
  rw [run_takeFrame_of_decoded decoded, heard_of_decoded decoded]
  simp only [route, isNotice, withBody, read, run_bind, run_get, unheeded.untracked,
    Bool.false_eq_true, reduceIte]
  rfl

omit [Transport τ] in
theorem Unheeded.ignores_response {content : Packing.Bytes} {response : SyncResponse}
    (unheeded : found.Unheeded response.conversationId) (bears : Bears content found response) :
    ((takeFrame content).run found).2 = heard (.frame content) found := by
  rcases bears with ⟨envelope, decoded, answers, read⟩
  have missing := SyncCoordinator.untracked_iff.mp unheeded.untracked
  rw [run_takeFrame_of_decoded decoded, heard_of_decoded decoded]
  simp only [route, answers, withBody, read, takeSyncResponse, now, run_bind, run_get, run_pure,
    run_modify, SyncCoordinator.takeInFlight, missing, SyncCoordinator.change_of_missing missing]
  rfl

end Steps

/-! ## Runs -/

section Runs

variable [MessageLog σ] [Transport τ]

/-- Whoever asks in this step is told that the conversation is not subscribed. -/
def Taken.Denies (taken : Taken σ τ) (conversationId : String) : Prop :=
  ∀ asker, taken.input = .command (.isSubscribed conversationId asker) →
    ((take taken.input).run taken.found).2 = { taken.found with
      outputs := taken.found.outputs ++ [.reply asker (.flag (.ok false))] }

/-- The step does nothing about the conversation: none of its sync runs is of it, and if the server
gives notice of it or answers a request of it, the step only notes that a frame came. -/
structure Taken.Ignores (taken : Taken σ τ) (conversationId : String) : Prop where
  runs : ∀ run ∈ runsOf taken.input taken.found, run.conversationId ≠ conversationId
  notices : ∀ content, taken.input = .frame content →
    Notifies content taken.found conversationId →
      ((take taken.input).run taken.found).2 = heard taken.input taken.found
  responses : ∀ content response, taken.input = .frame content →
    Bears content taken.found response → response.conversationId = conversationId →
      ((take taken.input).run taken.found).2 = heard taken.input taken.found

theorem Taken.denies {taken : Taken σ τ} (lacks : taken.found.registry.Lacks conversationId) :
    taken.Denies conversationId := by
  rcases taken with ⟨found, input⟩
  rintro asker rfl
  have answer : found.registry.isSubscribed conversationId = false := lacks.not_isSubscribed
  simp only [take, handleCommand, run_bind, run_get, answer]
  rfl

theorem Taken.ignores {taken : Taken σ τ} (unheeded : taken.found.Unheeded conversationId) :
    taken.Ignores conversationId where
  runs run mem := unheeded.ne_of_mem_runsOf mem
  notices := by
    rcases taken with ⟨found, input⟩
    rintro content rfl notifies
    exact unheeded.ignores_notice notifies
  responses := by
    rcases taken with ⟨found, input⟩
    rintro content response rfl bears rfl
    exact unheeded.ignores_response bears

variable {comes : Engine σ τ → Input → Engine σ τ → Prop} {past : List (Taken σ τ)}

/-- After an unsubscribe, the conversation is not subscribed and not kept for the next connection, in
any run in which nobody subscribes to it. If the unsubscribe changed something, no request of the
conversation waited for its answer, and the log could say that no record waited to be sent, the engine
does nothing more about it in any run in which no command takes it up. -/
theorem unsubscribed_of_took
    (drifts : ∀ before input found, comes before input found → Drifts before found)
    (took : Took comes ((step (.command (.unsubscribe conversationId waiter))).run found).2
      engine past)
    (others : ∀ taken ∈ past, ∀ other, taken.input ≠ .command (.subscribe conversationId other)) :
    engine.registry.isSubscribed conversationId = false ∧
      conversationId ∉ engine.registry.retained ∧
      (∀ taken ∈ past, taken.Denies conversationId) ∧
      (((unsubscribe conversationId).run found).1 = true →
        found.coordinator.isInFlight conversationId = false →
        MessageLog.pending found.log conversationId = .ok [] →
        (∀ taken ∈ past, ¬taken.input.TakesUp conversationId) →
          engine.Unheeded conversationId ∧ ∀ taken ∈ past, taken.Ignores conversationId) := by
  rcases took.keeps (·.registry.Lacks conversationId) lacks_step_unsubscribe
    (fun _ _ _ arrival lacks => by rw [drifts _ _ _ arrival]; exact lacks)
    (fun taken mem => lacks_step (others taken mem)) with ⟨lacks, lacked⟩
  refine ⟨lacks.not_isSubscribed, lacks.not_mem_retained, fun taken mem =>
    Taken.denies (lacked taken mem), fun changed free sent left => ?_⟩
  rcases took.keeps (·.Unheeded conversationId) (unheeded_step_unsubscribe changed free sent)
    (fun _ _ _ arrival unheeded => by
      rw [drifts _ _ _ arrival]
      exact ⟨unheeded.untracked, unheeded.noError⟩)
    (fun taken mem => unheeded_step (left taken mem)) with ⟨unheeded, ignored⟩
  exact ⟨unheeded, fun taken mem => Taken.ignores (ignored taken mem)⟩

end Runs

section Examples

variable [MessageLog σ]

def asking (first : Engine σ ScriptedTransport) : Engine σ ScriptedTransport :=
  ((step (.command (.subscribe "c1" 1))).run ((step (.command .connect)).run first).2).2

def renouncing (first : Engine σ ScriptedTransport) : Engine σ ScriptedTransport :=
  ((step (.command (.unsubscribe "c1" 2))).run (asking first)).2

end Examples

def acknowledgement : Input :=
  .frame (Envelope.ofRecord SubscribeAck.layout "c1" .subscribeAck ⟨"c1", true, none, none⟩).frame

/-- The acknowledgement comes when the conversation was already unsubscribed. -/
theorem unsubscribed_of_took_lateAck : ∃ first, unconnected = .ok first ∧
    ((unsubscribe "c1").run (asking first)).1 = true ∧
    (asking first).coordinator.isTracked "c1" = true ∧
    ((step acknowledgement).run (renouncing first)).2.registry.isSubscribed "c1" = false ∧
    "c1" ∉ ((step acknowledgement).run (renouncing first)).2.registry.retained ∧
    ((step acknowledgement).run (renouncing first)).2.Unheeded "c1" := by
  have left : unconnected.toOption.map (fun first =>
      ([((unsubscribe "c1").run (asking first)).1, (asking first).coordinator.isTracked "c1",
        (asking first).coordinator.isInFlight "c1", (renouncing first).opening.isSome],
        (MessageLog.pending (asking first).log "c1").toOption)) =
      some ([true, true, false, false], some []) := by
    decide +kernel
  rcases exists_of_toOption_map left with ⟨first, started, same⟩
  simp only [Prod.mk.injEq, List.cons.injEq, and_true] at same
  rcases same with ⟨⟨changed, tracked, free, opening⟩, sent⟩
  have comes : Arrives (renouncing first) acknowledgement (renouncing first) :=
    ⟨.refl _, by simp [opening, acknowledgement]⟩
  have took := Took.next .initial comes
  rcases unsubscribed_of_took (fun _ _ _ arrival => arrival.drifts) took
    (by simp [acknowledgement]) with ⟨denied, dropped, -, quiet⟩
  have idle : ∀ taken ∈ [] ++ [(⟨renouncing first, acknowledgement⟩ : Taken _ _)],
      ¬taken.input.TakesUp "c1" := by
    rintro taken mem takesUp
    obtain rfl : taken = ⟨renouncing first, acknowledgement⟩ := by simpa using mem
    cases takesUp
  have unheeded := (quiet changed free (except_eq_ok_of_toOption sent) idle).1
  exact ⟨first, started, changed, tracked, denied, dropped, unheeded⟩

/-- If the log cannot say what waits to be sent, the conversation stays scheduled. Then it is synced
again although nothing of it waits, and that this fails is published. -/
theorem synced_after_unsubscribe : ∃ first next,
    start Settings.standard {} (FaultyStore.mk Store.empty ["get_pending"]) ⟨0, default⟩ =
      .ok first ∧
    ((unsubscribe "c1").run (asking first)).1 = true ∧
    (asking first).coordinator.isInFlight "c1" = false ∧
    (asking first).log.store = Store.empty ∧
    Arrives (renouncing first) .timer next ∧
    (runsOf .timer next).map SyncRun.conversationId = ["c1"] ∧
    ((step .timer).run next).2.status.syncErrors.get? "c1" =
      some "store error: injected get_pending failure" := by
  let later (first : Engine FaultyStore ScriptedTransport) : Engine FaultyStore ScriptedTransport :=
    { renouncing first with clock := ⟨5000, default⟩ }
  have left : (start Settings.standard {} (FaultyStore.mk Store.empty ["get_pending"])
      ⟨0, default⟩).toOption.map (fun first =>
        ([((unsubscribe "c1").run (asking first)).1, (asking first).coordinator.isInFlight "c1",
          (renouncing first).opening.isSome], (asking first).log.store,
          (runsOf .timer (later first)).map SyncRun.conversationId,
          ((step .timer).run (later first)).2.status.syncErrors.get? "c1")) =
      some ([true, false, false], Store.empty, ["c1"],
        some "store error: injected get_pending failure") := by
    decide +kernel
  rcases exists_of_toOption_map left with ⟨first, started, same⟩
  simp only [Prod.mk.injEq, List.cons.injEq, and_true] at same
  rcases same with ⟨⟨changed, free, opening⟩, empty, runs, syncError⟩
  exact ⟨first, later first, started, changed, free, empty, ⟨rfl, by simp [opening]⟩, runs,
    syncError⟩

end Engine

end MessageSync
