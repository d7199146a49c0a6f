import Mathlib.Data.List.Induction
import MessageSync.Proofs.Schedule.Coordinator

/-!
# Histories of the coordinator

An operation on the coordinator concerns one conversation, or all of them. One that concerns a
single conversation leaves the schedules of the others as they are, whatever came before.
-/

namespace MessageSync

namespace SyncCoordinator

/-- What is done to a coordinator. -/
inductive Operation where
  | track (conversationId : String) (now : Instant)
  | untrack (conversationId : String)
  | trigger (conversationId : String) (now : Instant)
  | triggerAll (now : Instant)
  | addWaiter (conversationId : String) (waiter : Nat)
  | noteActivity (conversationId : String) (now : Instant)
  | noteCount (conversationId : String) (count : Nat) (now : Instant)
  | begin (conversationId : String) (localIds : List String) (now : Instant)
  | takeInFlight (conversationId : String)
  | skip (conversationId : String) (now : Instant) (pushLive : Bool)
  | succeed (summary : SyncSummary) (now : Instant) (pushLive : Bool)
  | fail (conversationId : String) (error : SyncError) (now : Instant)
  | abandonInFlight (error : SyncError) (now : Instant)
  | rejectWaiters (error : SyncError)

/-- The conversation that an operation concerns, unless it concerns all. -/
def Operation.addressee : Operation → Option String
  | .track conversationId _ | .untrack conversationId | .trigger conversationId _
  | .addWaiter conversationId _ | .noteActivity conversationId _ | .noteCount conversationId _ _
  | .begin conversationId _ _ | .takeInFlight conversationId | .skip conversationId _ _
  | .fail conversationId _ _ => some conversationId
  | .succeed summary _ _ => some summary.conversationId
  | .triggerAll _ | .abandonInFlight _ _ | .rejectWaiters _ => none

/-- The coordinator after an operation. What the operation returns is left out. -/
def apply (coordinator : SyncCoordinator) : Operation → SyncCoordinator
  | .track conversationId now => coordinator.track conversationId now
  | .untrack conversationId => (coordinator.untrack conversationId).2
  | .trigger conversationId now => coordinator.trigger conversationId now
  | .triggerAll now => coordinator.triggerAll now
  | .addWaiter conversationId waiter => (coordinator.addWaiter conversationId waiter).2
  | .noteActivity conversationId now => coordinator.noteActivity conversationId now
  | .noteCount conversationId count now => coordinator.noteCount conversationId count now
  | .begin conversationId localIds now => (coordinator.begin conversationId localIds now).2
  | .takeInFlight conversationId => (coordinator.takeInFlight conversationId).2
  | .skip conversationId now pushLive => coordinator.skip conversationId now pushLive
  | .succeed summary now pushLive => (coordinator.succeed summary now pushLive).2
  | .fail conversationId error now => (coordinator.fail conversationId error now).2
  | .abandonInFlight error now => (coordinator.abandonInFlight error now).2.2
  | .rejectWaiters error => (coordinator.rejectWaiters error).2

/-- The coordinator that a history of operations leads to. -/
def reached (policy : SyncPolicy) (operations : List Operation) : SyncCoordinator :=
  operations.foldl apply (empty policy)

/-- Operations lead from one coordinator to the other. -/
def Operated (before after : SyncCoordinator) : Prop :=
  ∃ operations : List Operation, after = operations.foldl apply before

variable {coordinator before middle after : SyncCoordinator} {conversationId other : String}
  {error : SyncError} {now : Instant} {policy : SyncPolicy} {operations : List Operation}
  {operation : Operation}

/-! ## One operation -/

theorem policy_fail :
    (coordinator.fail conversationId error now).2.policy = coordinator.policy := by
  simp only [fail]
  split <;> rfl

theorem get?_fail (other : String) :
    (coordinator.fail conversationId error now).2.get? other =
      if other = conversationId then
        (coordinator.get? conversationId).map (·.failed coordinator.policy error now)
      else coordinator.get? other := by
  simp only [fail]
  cases found : coordinator.get? conversationId with
  | some schedule => simp only [get?_change, found]
  | none =>
      by_cases same : other = conversationId
      · simp [same, found]
      · simp [same]

theorem policy_failAll (conversationIds : List String) :
    (coordinator.failAll conversationIds error now).2.policy = coordinator.policy := by
  induction conversationIds generalizing coordinator with
  | nil => rfl
  | cons first conversationIds same => rw [failAll_cons, same, policy_fail]

/-- Of several conversations, each fails once. -/
theorem get?_failAll_of_mem {conversationIds : List String} (distinct : conversationIds.Nodup)
    (mem : conversationId ∈ conversationIds) :
    (coordinator.failAll conversationIds error now).2.get? conversationId =
      (coordinator.get? conversationId).map (·.failed coordinator.policy error now) := by
  induction conversationIds generalizing coordinator with
  | nil => cases mem
  | cons first conversationIds fails =>
      rw [List.nodup_cons] at distinct
      rw [failAll_cons]
      rcases List.mem_cons.mp mem with rfl | mem
      · rw [get?_failAll_of_not_mem distinct.1, get?_fail, if_pos rfl]
      · have different : conversationId ≠ first := fun same => distinct.1 (same ▸ mem)
        rw [fails distinct.2 mem, get?_fail, if_neg different, policy_fail]

/-- The runs that fail when all requests are given up are those whose requests wait. -/
theorem get?_abandonInFlight (sorted : coordinator.conversations.Sorted) :
    (coordinator.abandonInFlight error now).2.2.get? conversationId =
      if coordinator.isInFlight conversationId = true then
        (coordinator.get? conversationId).map (·.failed coordinator.policy error now)
      else coordinator.get? conversationId := by
  have waits : conversationId ∈
      (coordinator.conversations.keysThat fun schedule => schedule.inFlight.isSome) ↔
        coordinator.isInFlight conversationId = true := by
    rw [isInFlight, Option.any_eq_true]
    exact sorted.mem_keysThat_iff
  split
  · next inFlight => exact get?_failAll_of_mem (sorted.nodup_keysThat _) (waits.mpr inFlight)
  · next free => exact get?_failAll_of_not_mem (mt waits.mp free)

theorem policy_apply (operation : Operation) :
    (coordinator.apply operation).policy = coordinator.policy := by
  have tracks (conversationId : String) (now : Instant) :
      (coordinator.track conversationId now).policy = coordinator.policy := by
    simp only [track]
    split <;> rfl
  cases operation with
  | track conversationId now => exact tracks conversationId now
  | trigger conversationId now => exact tracks conversationId now
  | untrack | succeed =>
      simp only [apply, untrack, succeed]
      split <;> rfl
  | addWaiter =>
      simp only [apply, addWaiter]
      split <;> rfl
  | begin =>
      simp only [apply, begin]
      split
      · rfl
      · split <;> rfl
  | fail => exact policy_fail
  | abandonInFlight => exact policy_failAll _
  | triggerAll | noteActivity | noteCount | takeInFlight | skip | rejectWaiters => rfl

theorem sorted_apply (sorted : coordinator.conversations.Sorted) (operation : Operation) :
    (coordinator.apply operation).conversations.Sorted := by
  cases operation with
  | track => exact sorted_track sorted
  | untrack => exact sorted_untrack sorted
  | trigger => exact hushed_trigger.sorted sorted
  | triggerAll => exact hushed_triggerAll.sorted sorted
  | addWaiter _ waiter => exact (tame_addWaiter waiter).sorted sorted
  | begin _ localIds => exact (changesOnly_begin localIds).sorted sorted
  | succeed summary _ pushLive => exact (hushed_succeed summary pushLive).sorted sorted
  | fail => exact hushed_fail.sorted sorted
  | abandonInFlight => exact hushed_abandonInFlight.sorted sorted
  | rejectWaiters error => exact (retains_rejectWaiters error).sorted sorted
  | noteActivity | noteCount | takeInFlight | skip => exact sorted.change _ _

/-- An operation on another conversation leaves a schedule as it is. -/
theorem get?_apply_of_addressed (addressed : operation.addressee = some other)
    (different : conversationId ≠ other) :
    (coordinator.apply operation).get? conversationId = coordinator.get? conversationId := by
  have changes (f : ConversationSync → ConversationSync) :
      (coordinator.change other f).get? conversationId = coordinator.get? conversationId := by
    rw [get?_change, if_neg different]
  have tracks (now : Instant) :
      (coordinator.track other now).get? conversationId = coordinator.get? conversationId := by
    rw [get?_track, if_neg different]
  cases operation with
  | track =>
      cases addressed
      exact tracks _
  | untrack =>
      cases addressed
      simp only [apply, untrack]
      split
      · simp only [get?, Keyed.get?_erase, if_neg different]
      · rfl
  | trigger =>
      cases addressed
      simp only [apply, trigger, get?_change, if_neg different, tracks]
  | addWaiter =>
      cases addressed
      simp only [apply, addWaiter]
      split
      · exact changes _
      · rfl
  | begin =>
      cases addressed
      exact (changesOnly_begin _).others _ different
  | succeed =>
      cases addressed
      exact (changesOnly_succeed _ _).others _ different
  | fail =>
      cases addressed
      exact changesOnly_fail.others _ different
  | noteActivity | noteCount | takeInFlight | skip =>
      cases addressed
      exact changes _
  | triggerAll | abandonInFlight | rejectWaiters => cases addressed

/-! ## Histories -/

theorem reached_append_singleton :
    reached policy (operations ++ [operation]) = (reached policy operations).apply operation := by
  simp [reached]

theorem Operated.refl (coordinator : SyncCoordinator) : Operated coordinator coordinator :=
  ⟨[], rfl⟩

theorem Operated.of_apply (coordinator : SyncCoordinator) (operation : Operation) :
    Operated coordinator (coordinator.apply operation) :=
  ⟨[operation], rfl⟩

theorem Operated.trans (first : Operated before middle) (second : Operated middle after) :
    Operated before after := by
  rcases first with ⟨operations, rfl⟩
  rcases second with ⟨more, rfl⟩
  exact ⟨operations ++ more, List.foldl_append.symm⟩

/-- What every operation keeps holds after operations. -/
theorem Operated.keeps {holds : SyncCoordinator → Prop} (operated : Operated before after)
    (kept : ∀ coordinator operation, holds coordinator → holds (coordinator.apply operation))
    (initially : holds before) : holds after := by
  rcases operated with ⟨operations, rfl⟩
  induction operations generalizing before with
  | nil => exact initially
  | cons operation operations later => exact later (kept before operation initially)

theorem policy_reached (policy : SyncPolicy) (operations : List Operation) :
    (reached policy operations).policy = policy := by
  induction operations using List.reverseRecOn with
  | nil => rfl
  | append_singleton operations operation same =>
      rw [reached_append_singleton, policy_apply, same]

theorem sorted_reached (policy : SyncPolicy) (operations : List Operation) :
    (reached policy operations).conversations.Sorted := by
  induction operations using List.reverseRecOn with
  | nil => exact Keyed.sorted_empty
  | append_singleton operations operation sorted =>
      rw [reached_append_singleton]
      exact sorted_apply sorted operation

end SyncCoordinator

end MessageSync
