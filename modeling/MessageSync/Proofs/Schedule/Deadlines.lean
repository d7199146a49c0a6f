import MessageSync.Proofs.Schedule.Failures
import MessageSync.Proofs.Schedule.Intervals

/-!
# Deadlines that can be held

A deadline is an instant and a span after it. Instants are held in numbers of limited width, so
there is a last one, and a span that leads past it has no deadline. But if the times of a policy are
numbers of milliseconds of 64 bits, so is every delay that any history stores, and all that the
coordinator reckons with has a deadline, until the end of time is that near itself.
-/

namespace MessageSync

/-- The instant is so early that as many milliseconds may pass after it as 64 bits count. -/
def Early (now : Nat) : Prop :=
  now + (Span.ofMillis (2 ^ 64)).nanos ≤ Span.lastInstant

namespace Span

variable {span : Span} {millis : Millis}

/-- There is a deadline the span after every early instant. -/
def HasDeadlines (span : Span) : Prop :=
  ∀ now, Early now → span.deadline? now = some (now + span.nanos)

theorem hasDeadlines_of_le (short : span.nanos ≤ (ofMillis (2 ^ 64)).nanos) : span.HasDeadlines :=
  fun now early => if_pos ((Nat.add_le_add_left short now).trans early)

theorem nanos_le_of_fits (fits : millis < 2 ^ 64) :
    (ofMillis millis).nanos ≤ (ofMillis (2 ^ 64)).nanos :=
  Nat.mul_le_mul_right _ fits.le

theorem isHeld_of_fits (fits : millis < 2 ^ 64) : (ofMillis millis).IsHeld :=
  (nanos_le_of_fits fits).trans (by decide)

theorem hasDeadlines_of_fits (fits : millis < 2 ^ 64) : (ofMillis millis).HasDeadlines :=
  hasDeadlines_of_le (nanos_le_of_fits fits)

/-- A delay that grows up to a bound is the same, computed in numbers of limited width. -/
theorem shorter_times_ofMillis (delay factor bound : Nat) (fits : bound < 2 ^ 64) :
    ((ofMillis delay).times factor).shorter (ofMillis bound) =
      ofMillis (min (delay * factor) bound) := by
  rw [SyncPolicy.shorter_times _ _ (isHeld_of_fits fits)]
  simp only [ofMillis]
  rw [Nat.mul_right_comm, Nat.mul_min_mul_right]

end Span

/-- All times of the policy are numbers of milliseconds of 64 bits. -/
structure SyncPolicy.Fits (policy : SyncPolicy) : Prop where
  baseInterval : policy.baseInterval < 2 ^ 64
  pushInterval : policy.pushInterval < 2 ^ 64
  maxInterval : policy.maxInterval < 2 ^ 64
  errorBackoffBase : policy.errorBackoffBase < 2 ^ 64
  errorBackoffMax : policy.errorBackoffMax < 2 ^ 64
  responseTimeout : policy.responseTimeout < 2 ^ 64

/-- The interval without a push is computed, and is as short as the times of the policy. -/
theorem SyncPolicy.Fits.exists_interval? {policy : SyncPolicy} (fits : policy.Fits)
    (threshold : 1 ≤ policy.idleThreshold) {idle : Span} (held : idle.IsHeld) :
    ∃ interval, policy.interval? idle = some interval ∧
      interval.nanos ≤ (Span.ofMillis (2 ^ 64)).nanos := by
  refine ⟨_, interval?_eq threshold (Span.isHeld_of_fits fits.maxInterval) held, ?_⟩
  rcases policy.inNanos.interval_le_or_active idle.nanos with le | ⟨-, base⟩
  · exact le.trans (Span.nanos_le_of_fits fits.maxInterval)
  · exact base.trans_le (Span.nanos_le_of_fits fits.baseInterval)

namespace SyncCoordinator

variable {coordinator before after : SyncCoordinator}

/-- All times of the policy, and all delays that are stored, are numbers of milliseconds of 64
bits. -/
structure Fits (coordinator : SyncCoordinator) : Prop where
  policy : coordinator.policy.Fits
  threshold : 1 ≤ coordinator.policy.idleThreshold
  delays : ∀ conversationId schedule, coordinator.get? conversationId = some schedule →
    schedule.errorBackoff < 2 ^ 64
  sorted : coordinator.conversations.Sorted

theorem fits_empty {policy : SyncPolicy} (fits : policy.Fits)
    (threshold : 1 ≤ policy.idleThreshold) : (empty policy).Fits :=
  ⟨fits, threshold, nofun, Keyed.sorted_empty⟩

theorem Fits.apply (fits : coordinator.Fits) (operation : Operation) :
    (coordinator.apply operation).Fits := by
  have same := coordinator.policy_apply operation
  refine ⟨by rw [same]; exact fits.policy, by rw [same]; exact fits.threshold, ?_,
    sorted_apply fits.sorted operation⟩
  intro conversationId after found
  refine stored_apply (fun _ delay => delay < 2 ^ 64) 0 fits.sorted fits.policy.errorBackoffBase ?_
    (fits.delays conversationId) operation found
  intro count delay _
  exact (Nat.min_le_right _ _).trans_lt fits.policy.errorBackoffMax

theorem Fits.operated (fits : before.Fits) (operated : Operated before after) : after.Fits :=
  operated.keeps (fun _ operation fits => fits.apply operation) fits

/-- All that the coordinator reckons with has deadlines, and is computed in numbers of limited
width. -/
structure Reckons (coordinator : SyncCoordinator) : Prop where
  takesUp : (Span.ofMillis coordinator.policy.baseInterval).HasDeadlines
  requests : (Span.ofMillis coordinator.policy.responseTimeout).HasDeadlines
  pushed : (Span.ofMillis coordinator.policy.pushInterval).HasDeadlines
  /-- A run succeeds or is put off without a push, whatever the idle time is. -/
  renews (idle : Span) : idle.IsHeld →
    ∃ interval, coordinator.policy.interval? idle = some interval ∧ interval.HasDeadlines
  fails (conversationId : String) (schedule : ConversationSync) :
    coordinator.get? conversationId = some schedule →
      (Span.ofMillis schedule.errorBackoff).HasDeadlines
  doubles (conversationId : String) (schedule : ConversationSync) (error : SyncError)
    (now : Instant) : coordinator.get? conversationId = some schedule →
    ((Span.ofMillis schedule.errorBackoff).times 2).shorter
        (Span.ofMillis coordinator.policy.errorBackoffMax) =
      Span.ofMillis (schedule.failed coordinator.policy error now).errorBackoff

theorem Fits.reckons (fits : coordinator.Fits) : coordinator.Reckons where
  takesUp := Span.hasDeadlines_of_fits fits.policy.baseInterval
  requests := Span.hasDeadlines_of_fits fits.policy.responseTimeout
  pushed := Span.hasDeadlines_of_fits fits.policy.pushInterval
  renews idle held := by
    rcases fits.policy.exists_interval? fits.threshold held with ⟨interval, computed, short⟩
    exact ⟨interval, computed, Span.hasDeadlines_of_le short⟩
  fails conversationId _ found := Span.hasDeadlines_of_fits (fits.delays _ _ found)
  doubles _ schedule _ _ _ :=
    Span.shorter_times_ofMillis schedule.errorBackoff 2 _ fits.policy.errorBackoffMax

end SyncCoordinator

end MessageSync
