import MessageSync.Proofs.Schedule.Operations
import MessageSync.Proofs.Schedule.Waiting

/-!
# Delays after failed runs

The delay after a failed run is not the one that is stored for the next: that one doubles, up to a
bound, and starts again with a success or when the conversation is taken up anew. So after any
history the delay is told by the number of failures since then, and what is done to other
conversations does not matter for it.
-/

namespace MessageSync

namespace SyncCoordinator

/-! ## The count of failures -/

/-- When a run of the conversation fails, if one does. -/
def failure (coordinator : SyncCoordinator) (conversationId : String) :
    Operation → Option Instant
  | .fail failing _ now =>
    if failing = conversationId ∧ coordinator.isTracked conversationId then some now else none
  | .abandonInFlight _ now => if coordinator.isInFlight conversationId then some now else none
  | _ => none

/-- A run of the conversation succeeds. -/
def Operation.succeeds (conversationId : String) : Operation → Bool
  | .succeed summary _ _ => summary.conversationId = conversationId
  | _ => false

/-- The conversation is taken up anew. -/
def takesUp (coordinator : SyncCoordinator) (conversationId : String) (operation : Operation) :
    Bool :=
  !coordinator.isTracked conversationId && (coordinator.apply operation).isTracked conversationId

/-- The count of failures after an operation. -/
def recount (coordinator : SyncCoordinator) (conversationId : String) (count : Nat)
    (operation : Operation) : Nat :=
  if coordinator.takesUp conversationId operation || operation.succeeds conversationId then 0
  else if (coordinator.failure conversationId operation).isSome then count + 1
  else count

/-- The count of failures after further operations. -/
def failuresFrom (coordinator : SyncCoordinator) (conversationId : String) (count : Nat) :
    List Operation → Nat
  | [] => count
  | operation :: operations =>
    (coordinator.apply operation).failuresFrom conversationId
      (coordinator.recount conversationId count operation) operations

/-- How often runs of the conversation failed since it was taken up or one last succeeded. -/
def failures (policy : SyncPolicy) (operations : List Operation) (conversationId : String) : Nat :=
  (empty policy).failuresFrom conversationId 0 operations

variable {coordinator : SyncCoordinator} {conversationId : String} {policy : SyncPolicy}
  {operations : List Operation} {operation : Operation} {schedule : ConversationSync}
  {now : Instant}

theorem failuresFrom_append_singleton (count : Nat) :
    coordinator.failuresFrom conversationId count (operations ++ [operation]) =
      (operations.foldl apply coordinator).recount conversationId
        (coordinator.failuresFrom conversationId count operations) operation := by
  induction operations generalizing coordinator count with
  | nil => rfl
  | cons first operations counted => exact counted _

theorem failures_append_singleton : failures policy (operations ++ [operation]) conversationId =
    (reached policy operations).recount conversationId
      (failures policy operations conversationId) operation :=
  failuresFrom_append_singleton 0

/-! ## What an operation makes of a schedule -/

/-- What an operation makes of the schedule of a conversation. -/
inductive Alters (coordinator : SyncCoordinator) (conversationId : String)
    (operation : Operation) : Option ConversationSync → Prop
  | drops : Alters coordinator conversationId operation none
  | starts {after : ConversationSync} (missing : coordinator.get? conversationId = none)
      (initial : after.errorBackoff = coordinator.policy.errorBackoffBase) :
      Alters coordinator conversationId operation (some after)
  | keeps {before after : ConversationSync} (found : coordinator.get? conversationId = some before)
      (same : after.errorBackoff = before.errorBackoff)
      (steady : coordinator.failure conversationId operation = none)
      (open_ : operation.succeeds conversationId = false) :
      Alters coordinator conversationId operation (some after)
  | succeeds {before : ConversationSync} {now : Instant} {pushLive : Bool}
      (found : coordinator.get? conversationId = some before)
      (succeeds : operation.succeeds conversationId = true) :
      Alters coordinator conversationId operation
        (some (before.succeeded coordinator.policy now pushLive))
  | fails {before : ConversationSync} {error : SyncError} {now : Instant}
      (found : coordinator.get? conversationId = some before)
      (fails : coordinator.failure conversationId operation = some now)
      (open_ : operation.succeeds conversationId = false) :
      Alters coordinator conversationId operation
        (some (before.failed coordinator.policy error now))

theorem alters_of_eq
    (same : (coordinator.apply operation).get? conversationId = coordinator.get? conversationId)
    (steady : coordinator.failure conversationId operation = none)
    (open_ : operation.succeeds conversationId = false) :
    coordinator.Alters conversationId operation
      ((coordinator.apply operation).get? conversationId) := by
  rw [same]
  cases found : coordinator.get? conversationId with
  | none => exact .drops
  | some schedule => exact .keeps found rfl steady open_

theorem alters_map {f : ConversationSync → ConversationSync}
    (kept : ∀ schedule, (f schedule).errorBackoff = schedule.errorBackoff)
    (steady : coordinator.failure conversationId operation = none)
    (open_ : operation.succeeds conversationId = false) :
    coordinator.Alters conversationId operation ((coordinator.get? conversationId).map f) := by
  cases found : coordinator.get? conversationId with
  | none => exact .drops
  | some schedule => exact .keeps found (kept schedule) steady open_

theorem alters_of_addressed {other : String} (addressed : operation.addressee = some other)
    (different : conversationId ≠ other) :
    coordinator.Alters conversationId operation
      ((coordinator.apply operation).get? conversationId) := by
  refine alters_of_eq (get?_apply_of_addressed addressed different) ?_ ?_
  · cases operation with
    | fail =>
        cases addressed
        simp [failure, different.symm]
    | abandonInFlight => cases addressed
    | track | untrack | trigger | triggerAll | addWaiter | noteActivity | noteCount | begin
    | takeInFlight | skip | succeed | rejectWaiters => rfl
  · cases operation with
    | succeed =>
        cases addressed
        simp [Operation.succeeds, different.symm]
    | track | untrack | trigger | triggerAll | addWaiter | noteActivity | noteCount | begin
    | takeInFlight | skip | fail | abandonInFlight | rejectWaiters => rfl

theorem alters_apply (sorted : coordinator.conversations.Sorted) (conversationId : String)
    (operation : Operation) :
    coordinator.Alters conversationId operation
      ((coordinator.apply operation).get? conversationId) := by
  -- What concerns another conversation is told apart first; each case below is of this one.
  by_cases apart : ∃ other, operation.addressee = some other ∧ conversationId ≠ other
  · rcases apart with ⟨other, addressed, different⟩
    exact alters_of_addressed addressed different
  have mine : ∀ other, operation.addressee = some other → conversationId = other := by
    intro other addressed
    by_contra different
    exact apart ⟨other, addressed, different⟩
  cases operation with
  | track other now =>
      obtain rfl := mine other rfl
      rw [apply, get?_track, if_pos rfl]
      cases found : coordinator.get? conversationId with
      | none => exact .starts found rfl
      | some schedule => exact .keeps found rfl rfl rfl
  | untrack other =>
      obtain rfl := mine other rfl
      rw [apply, untracked_iff.mp isTracked_untrack_self]
      exact .drops
  | trigger other now =>
      obtain rfl := mine other rfl
      rw [apply, trigger, get?_change, if_pos rfl, get?_track, if_pos rfl]
      cases found : coordinator.get? conversationId with
      | none => exact .starts found rfl
      | some schedule => exact .keeps found rfl rfl rfl
  | triggerAll now =>
      rw [apply, get?_triggerAll]
      exact alters_map (fun _ => rfl) rfl rfl
  | addWaiter other waiter =>
      obtain rfl := mine other rfl
      cases tracked : coordinator.isTracked conversationId with
      | true =>
          simp only [apply, addWaiter, tracked, if_true, get?_change]
          exact alters_map (fun _ => rfl) rfl rfl
      | false => exact alters_of_eq (by simp [apply, addWaiter, tracked]) rfl rfl
  | noteActivity other | noteCount other | takeInFlight other | skip other =>
      obtain rfl := mine other rfl
      simp only [apply, noteActivity, noteCount, takeInFlight, skip, get?_change, if_true]
      exact alters_map (fun _ => rfl) rfl rfl
  | begin other localIds now =>
      obtain rfl := mine other rfl
      cases found : coordinator.get? conversationId with
      | none => exact alters_of_eq (by simp only [apply, SyncCoordinator.begin, found]) rfl rfl
      | some schedule =>
          cases flight : schedule.inFlight with
          | none =>
              rw [apply, begin_of_waits_not found flight, get?_change, if_pos rfl]
              exact alters_map (fun _ => rfl) rfl rfl
          | some waits =>
              refine alters_of_eq ?_ rfl rfl
              simp [apply, SyncCoordinator.begin, found, flight]
  | succeed summary now pushLive =>
      obtain rfl := mine summary.conversationId rfl
      simp only [apply, succeed]
      cases found : coordinator.get? summary.conversationId with
      | none =>
          simp only [found]
          exact .drops
      | some schedule =>
          simp only [get?_change, if_true, found, Option.map_some]
          exact .succeeds found (by simp [Operation.succeeds])
  | fail other error now =>
      obtain rfl := mine other rfl
      rw [apply, get?_fail, if_pos rfl]
      cases found : coordinator.get? conversationId with
      | none => exact .drops
      | some schedule =>
          have tracked : coordinator.isTracked conversationId = true :=
            isTracked_iff.mpr ⟨schedule, found⟩
          exact .fails found (by simp [failure, tracked]) rfl
  | abandonInFlight error now =>
      rw [apply, get?_abandonInFlight sorted]
      split
      · next inFlight =>
          cases found : coordinator.get? conversationId with
          | none => exact .drops
          | some schedule => exact .fails found (by simp [failure, inFlight]) rfl
      · next free =>
          cases found : coordinator.get? conversationId with
          | none => exact .drops
          | some schedule => exact .keeps found rfl (by simp [failure, free]) rfl
  | rejectWaiters error =>
      have rejected : (coordinator.rejectWaiters error).2.get? conversationId =
          (coordinator.get? conversationId).map ({ · with waiters := [] }) :=
        Keyed.get?_mapValues conversationId _
      rw [apply, rejected]
      exact alters_map (fun _ => rfl) rfl rfl

/-! ## The delay after a failure -/

theorem takesUp_of_tracked (found : coordinator.get? conversationId = some schedule)
    (operation : Operation) : coordinator.takesUp conversationId operation = false := by
  have tracked : coordinator.isTracked conversationId = true :=
    isTracked_iff.mpr ⟨schedule, found⟩
  rw [takesUp, tracked]
  rfl

/-- The delay that is stored after so many failures. -/
def storedDelay (policy : SyncPolicy) (count : Nat) : Millis :=
  min (policy.errorBackoffBase * 2 ^ count) policy.errorBackoffMax

theorem storedDelay_zero (ordered : policy.errorBackoffBase ≤ policy.errorBackoffMax) :
    storedDelay policy 0 = policy.errorBackoffBase := by
  rw [storedDelay, Nat.pow_zero, Nat.mul_one, Nat.min_eq_left ordered]

theorem storedDelay_succ (policy : SyncPolicy) (count : Nat) :
    storedDelay policy (count + 1) = min (storedDelay policy count * 2) policy.errorBackoffMax := by
  have capped (delay bound : Nat) : min (delay * 2) bound = min (min delay bound * 2) bound := by
    omega
  simp only [storedDelay, Nat.pow_succ, ← Nat.mul_assoc]
  exact capped _ _

/-- What is true of the first delay, and of the next one when a run fails, stays true of the delay
that is stored and of the count of failures. -/
theorem stored_apply (Stored : Nat → Millis → Prop) (count : Nat)
    (sorted : coordinator.conversations.Sorted)
    (first : Stored 0 coordinator.policy.errorBackoffBase)
    (next : ∀ count delay, Stored count delay →
      Stored (count + 1) (min (delay * 2) coordinator.policy.errorBackoffMax))
    (stored : ∀ before, coordinator.get? conversationId = some before →
      Stored count before.errorBackoff)
    (operation : Operation) {after : ConversationSync}
    (held : (coordinator.apply operation).get? conversationId = some after) :
    Stored (coordinator.recount conversationId count operation) after.errorBackoff := by
  have alters := alters_apply sorted conversationId operation
  have tracked : (coordinator.apply operation).isTracked conversationId = true :=
    isTracked_iff.mpr ⟨after, held⟩
  rw [held] at alters
  rw [recount]
  cases alters with
  | starts missing initial =>
      have takesUp : coordinator.takesUp conversationId operation = true := by
        rw [SyncCoordinator.takesUp, untracked_iff.mpr missing, tracked]
        rfl
      simpa only [takesUp, Bool.true_or, if_true, initial] using first
  | keeps found same steady open_ =>
      simpa only [takesUp_of_tracked found, steady, open_, same, Bool.or_self, Bool.false_eq_true,
        if_false, Option.isSome_none] using stored _ found
  | succeeds found succeeds =>
      simpa only [succeeds, Bool.or_true, if_true, ConversationSync.succeeded] using first
  | fails found fails open_ =>
      simpa only [takesUp_of_tracked found, fails, open_, Bool.or_self, Bool.false_eq_true,
        if_false, Option.isSome_some, if_true, ConversationSync.failed]
        using next _ _ (stored _ found)

/-- The same after any history. -/
theorem stored_reached (Stored : Nat → Millis → Prop) (first : Stored 0 policy.errorBackoffBase)
    (next : ∀ count delay, Stored count delay →
      Stored (count + 1) (min (delay * 2) policy.errorBackoffMax))
    (operations : List Operation)
    (found : (reached policy operations).get? conversationId = some schedule) :
    Stored (failures policy operations conversationId) schedule.errorBackoff := by
  induction operations using List.reverseRecOn generalizing schedule with
  | nil => cases found
  | append_singleton operations operation stored =>
      have same := policy_reached policy operations
      rw [reached_append_singleton] at found
      rw [failures_append_singleton]
      exact stored_apply Stored _ (sorted_reached policy operations) (by rwa [same])
        (by rwa [same]) (fun before held => stored held) operation found

/-- After any history, the delay that is stored is told by the number of failures. -/
theorem errorBackoff_reached (ordered : policy.errorBackoffBase ≤ policy.errorBackoffMax)
    (operations : List Operation)
    (found : (reached policy operations).get? conversationId = some schedule) :
    schedule.errorBackoff = storedDelay policy (failures policy operations conversationId) := by
  refine stored_reached (fun count delay => delay = storedDelay policy count)
    (storedDelay_zero ordered).symm ?_ operations found
  rintro count delay rfl
  exact (storedDelay_succ policy count).symm

/-! ## When a conversation is due again -/

/-- A failure puts off the next run by the delay that is stored. -/
theorem get?_apply_of_failure (sorted : coordinator.conversations.Sorted)
    (failed : coordinator.failure conversationId operation = some now) :
    ∃ before error, coordinator.get? conversationId = some before ∧
      (coordinator.apply operation).get? conversationId =
        some (before.failed coordinator.policy error now) := by
  cases operation with
  | fail failing error instant =>
      simp only [failure, Option.ite_none_right_eq_some, Option.some.injEq] at failed
      rcases failed with ⟨⟨rfl, tracked⟩, rfl⟩
      rcases isTracked_iff.mp tracked with ⟨before, found⟩
      exact ⟨before, error, found, by rw [apply, get?_fail, if_pos rfl, found, Option.map_some]⟩
  | abandonInFlight error instant =>
      simp only [failure, Option.ite_none_right_eq_some, Option.some.injEq] at failed
      rcases failed with ⟨inFlight, rfl⟩
      have waits := inFlight
      rw [isInFlight, Option.any_eq_true] at waits
      rcases waits with ⟨before, found, -⟩
      refine ⟨before, error, found, ?_⟩
      rw [apply, get?_abandonInFlight sorted, if_pos inFlight, found, Option.map_some]
  | track | untrack | trigger | triggerAll | addWaiter | noteActivity | noteCount | begin
  | takeInFlight | skip | succeed | rejectWaiters => cases failed

/-- After any history, a failure makes the conversation due again after the first delay doubled as
often as it has failed before, up to the bound; what is done to another conversation does nothing
to its schedule. -/
theorem due_after_failure (policy : SyncPolicy)
    (ordered : policy.errorBackoffBase ≤ policy.errorBackoffMax) (operations : List Operation)
    (operation : Operation) (conversationId : String) :
    let after := (reached policy operations).apply operation
    (∀ now, (reached policy operations).failure conversationId operation = some now →
      let delay := min (policy.errorBackoffBase * 2 ^ failures policy operations conversationId)
        policy.errorBackoffMax
      (∃ schedule, after.get? conversationId = some schedule ∧ schedule.inFlight = none ∧
        schedule.nextDue = now + delay) ∧
      ∀ instant, conversationId ∈ after.due instant ↔ now + delay ≤ instant) ∧
    ∀ other, operation.addressee = some other → conversationId ≠ other →
      after.get? conversationId = (reached policy operations).get? conversationId := by
  have sorted := sorted_reached policy operations
  refine ⟨fun now failed => ?_, fun other => get?_apply_of_addressed⟩
  rcases get?_apply_of_failure sorted failed with ⟨before, error, found, failed⟩
  have nextDue : (before.failed (reached policy operations).policy error now).nextDue =
      now + storedDelay policy (failures policy operations conversationId) := by
    rw [ConversationSync.failed, errorBackoff_reached ordered operations found]
  refine ⟨⟨_, failed, rfl, nextDue⟩, fun instant => ?_⟩
  rw [mem_due_iff (sorted_apply sorted operation), failed]
  have free : (before.failed (reached policy operations).policy error now).inFlight = none := rfl
  simp only [Option.some.injEq, exists_eq_left', ConversationSync.isDue, nextDue, free,
    Option.isNone_none, Bool.true_and, decide_eq_true_iff, storedDelay]

/-- The second failure comes after two seconds, and the next run four seconds later. -/
theorem due_after_failure_second :
    let operations := [.trigger "general" 0, .fail "general" .notConnected 0]
    let operation := .fail "general" .notConnected 2000
    SyncPolicy.standard.errorBackoffBase ≤ SyncPolicy.standard.errorBackoffMax ∧
      (reached .standard operations).failure "general" operation = some 2000 ∧
      ∀ instant, "general" ∈ ((reached .standard operations).apply operation).due instant ↔
        6000 ≤ instant := by
  intro operations operation
  have ordered : SyncPolicy.standard.errorBackoffBase ≤ SyncPolicy.standard.errorBackoffMax := by
    decide
  have failed : (reached .standard operations).failure "general" operation = some 2000 := by
    decide +kernel
  have delay : 2000 + min (SyncPolicy.standard.errorBackoffBase *
      2 ^ failures .standard operations "general") SyncPolicy.standard.errorBackoffMax = 6000 := by
    decide +kernel
  have due := ((due_after_failure .standard ordered operations operation "general").1 2000 failed).2
  simp only [delay] at due
  exact ⟨ordered, failed, due⟩

end SyncCoordinator

end MessageSync
