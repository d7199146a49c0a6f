import MessageSync.Proofs.Link.Histories
import MessageSync.Proofs.Schedule.Failures

/-!
# When the coordinator wakes up

The coordinator is to wake up exactly when a request has waited too long or a conversation is due.
Whatever is done about such a conversation puts its time past the present, as long as no interval
and no delay is zero; and no operation makes one zero.
-/

namespace MessageSync

/-- No interval is zero. -/
structure SyncPolicy.Positive (policy : SyncPolicy) : Prop where
  baseInterval : 0 < policy.baseInterval
  pushInterval : 0 < policy.pushInterval
  maxInterval : 0 < policy.maxInterval
  errorBackoffBase : 0 < policy.errorBackoffBase
  errorBackoffMax : 0 < policy.errorBackoffMax
  responseTimeout : 0 < policy.responseTimeout

theorem SyncPolicy.Positive.interval_pos {policy : SyncPolicy} (positive : policy.Positive)
    (idle : Millis) (pushLive : Bool) : 0 < policy.interval idle pushLive := by
  simp only [interval]
  split
  · exact positive.pushInterval
  · split
    · exact positive.baseInterval
    · exact Nat.lt_min.mpr
        ⟨Nat.mul_pos positive.baseInterval (doubling_pos _), positive.maxInterval⟩

namespace SyncCoordinator

variable {coordinator before after : SyncCoordinator} {conversationId : String}
  {schedule : ConversationSync} {instant : Instant} {error : SyncError}

/-! ## What the coordinator wakes up for -/

theorem exists_min?_le_iff {instants : List Instant} :
    (∃ earliest, instants.min? = some earliest ∧ earliest ≤ instant) ↔
      ∃ other ∈ instants, other ≤ instant := by
  constructor
  · rintro ⟨earliest, least, le⟩
    exact ⟨earliest, (List.min?_eq_some_iff.mp least).1, le⟩
  · rintro ⟨other, mem, le⟩
    rcases exists_min?_le mem with ⟨earliest, least, earliest_le⟩
    exact ⟨earliest, least, earliest_le.trans le⟩

theorem wakeup_le_iff (schedule : ConversationSync) (instant : Instant) :
    schedule.wakeup ≤ instant ↔
      schedule.hasTimedOut instant = true ∨ schedule.isDue instant = true := by
  rw [ConversationSync.wakeup, ConversationSync.hasTimedOut, ConversationSync.isDue]
  cases schedule.inFlight <;> simp

theorem keysThat_ne_nil_iff {α : Type} {map : Keyed α} {test : α → Bool} :
    map.keysThat test ≠ [] ↔ ∃ value ∈ map.values, test value = true := by
  simp only [Keyed.keysThat, ne_eq, List.map_eq_nil_iff, List.filter_eq_nil_iff, not_forall,
    not_not, Keyed.values, List.mem_map]
  constructor
  · rintro ⟨entry, mem, passes⟩
    exact ⟨entry.2, ⟨entry, mem, rfl⟩, passes⟩
  · rintro ⟨value, ⟨entry, mem, rfl⟩, passes⟩
    exact ⟨entry, mem, passes⟩

/-- The coordinator wakes up for requests that have waited too long and for conversations that are
due, and for nothing else. -/
theorem exists_nextWakeup_le_iff (instant : Instant) :
    (∃ wake, coordinator.nextWakeup = some wake ∧ wake ≤ instant) ↔
      coordinator.timedOut instant ≠ [] ∨ coordinator.due instant ≠ [] := by
  rw [nextWakeup, exists_min?_le_iff, timedOut, due, keysThat_ne_nil_iff, keysThat_ne_nil_iff]
  simp only [List.mem_map, exists_exists_and_eq_and, wakeup_le_iff, and_or_left, exists_or]

/-! ## Schedules without zero -/

/-- The policy has no zero, and no delay that is stored is zero. -/
structure Paced (coordinator : SyncCoordinator) : Prop where
  policy : coordinator.policy.Positive
  delays : ∀ conversationId schedule, coordinator.get? conversationId = some schedule →
    0 < schedule.errorBackoff
  sorted : coordinator.conversations.Sorted

theorem paced_empty {policy : SyncPolicy} (positive : policy.Positive) : (empty policy).Paced :=
  ⟨positive, nofun, Keyed.sorted_empty⟩

theorem Paced.apply (paced : coordinator.Paced) (operation : Operation) :
    (coordinator.apply operation).Paced := by
  refine ⟨by rw [policy_apply]; exact paced.policy, ?_, sorted_apply paced.sorted operation⟩
  intro conversationId after found
  refine stored_apply (fun _ delay => 0 < delay) 0 paced.sorted paced.policy.errorBackoffBase ?_
    (paced.delays conversationId) operation found
  intro count delay positive
  exact Nat.lt_min.mpr ⟨Nat.mul_pos positive (by decide), paced.policy.errorBackoffMax⟩

theorem Paced.operated (paced : before.Paced) (operated : Operated before after) : after.Paced :=
  operated.keeps (fun _ operation paced => paced.apply operation) paced

/-! ## Past the present -/

/-- Nothing is to happen about the conversation by the instant. -/
def Ahead (coordinator : SyncCoordinator) (conversationId : String) (instant : Instant) : Prop :=
  ∀ schedule, coordinator.get? conversationId = some schedule → instant < schedule.wakeup

theorem ahead_iff (sorted : coordinator.conversations.Sorted) :
    coordinator.Ahead conversationId instant ↔
      conversationId ∉ coordinator.timedOut instant ∧ conversationId ∉ coordinator.due instant := by
  have wakes (schedule : ConversationSync) : instant < schedule.wakeup ↔
      schedule.hasTimedOut instant ≠ true ∧ schedule.isDue instant ≠ true := by
    rw [← not_or, ← wakeup_le_iff, Nat.not_le]
  rw [mem_timedOut_iff sorted, mem_due_iff sorted]
  simp only [not_exists, not_and, Ahead, wakes, ← forall_and]

theorem Ahead.congr (ahead : before.Ahead conversationId instant)
    (same : after.get? conversationId = before.get? conversationId) :
    after.Ahead conversationId instant := by
  intro schedule found
  exact ahead schedule (same ▸ found)

theorem ahead_of_failed {error : SyncError} (paced : before.Paced)
    (failed : after.get? conversationId =
      (before.get? conversationId).map (·.failed before.policy error instant)) :
    after.Ahead conversationId instant := by
  intro schedule found
  rcases Option.map_eq_some_iff.mp (failed.symm.trans found) with ⟨held, isHeld, rfl⟩
  exact Nat.lt_add_of_pos_right (paced.delays _ _ isHeld)

theorem ahead_fail (paced : coordinator.Paced) :
    (coordinator.fail conversationId error instant).2.Ahead conversationId instant :=
  ahead_of_failed paced ((get?_fail conversationId).trans (if_pos rfl))

theorem ahead_failAll {conversationIds : List String} (paced : coordinator.Paced)
    (distinct : conversationIds.Nodup) (mem : conversationId ∈ conversationIds) :
    (coordinator.failAll conversationIds error instant).2.Ahead conversationId instant :=
  ahead_of_failed paced (get?_failAll_of_mem distinct mem)

/-- When the requests that have waited too long have failed, only what is due is left to do. -/
theorem ahead_of_timedOut_failed (paced : coordinator.Paced)
    (rests : conversationId ∉
      (coordinator.failAll (coordinator.timedOut instant) error instant).2.due instant) :
    (coordinator.failAll (coordinator.timedOut instant) error instant).2.Ahead conversationId
      instant := by
  have distinct : (coordinator.timedOut instant).Nodup := paced.sorted.nodup_keysThat _
  by_cases timedOut : conversationId ∈ coordinator.timedOut instant
  · exact ahead_failAll paced distinct timedOut
  · have same : (coordinator.failAll (coordinator.timedOut instant) error instant).2.get?
        conversationId = coordinator.get? conversationId := get?_failAll_of_not_mem timedOut
    have fails : Hushed coordinator
        (coordinator.failAll (coordinator.timedOut instant) error instant).2 := hushed_failAll _
    have sorted := fails.sorted paced.sorted
    have notDue : conversationId ∉ coordinator.due instant := by
      intro isDue
      apply rests
      rw [mem_due_iff sorted, same]
      exact (mem_due_iff paced.sorted).mp isDue
    exact ((ahead_iff paced.sorted).mpr ⟨timedOut, notDue⟩).congr same

theorem ahead_abandonInFlight (paced : coordinator.Paced)
    (ahead : coordinator.Ahead conversationId instant) :
    (coordinator.abandonInFlight error instant).2.2.Ahead conversationId instant := by
  have left : (coordinator.abandonInFlight error instant).2.2.get? conversationId = _ :=
    get?_abandonInFlight paced.sorted
  split at left
  · exact ahead_of_failed paced left
  · exact ahead.congr left

theorem ahead_succeed (positive : coordinator.policy.Positive) (summary : SyncSummary)
    (pushLive : Bool) :
    (coordinator.succeed summary instant pushLive).2.Ahead summary.conversationId instant := by
  intro schedule found
  simp only [succeed] at found
  split at found
  · rw [get?_change, if_pos rfl] at found
    rcases Option.map_eq_some_iff.mp found with ⟨held, -, rfl⟩
    exact Nat.lt_add_of_pos_right (positive.interval_pos _ _)
  · next missing => cases missing.symm.trans found

theorem ahead_skip (positive : coordinator.policy.Positive)
    (held : coordinator.get? conversationId = some schedule) (free : schedule.inFlight = none)
    (pushLive : Bool) :
    (coordinator.skip conversationId instant pushLive).Ahead conversationId instant := by
  intro after found
  rw [skip, get?_change, if_pos rfl, held] at found
  cases found
  simp only [ConversationSync.wakeup, free]
  exact Nat.lt_add_of_pos_right (positive.interval_pos _ _)

theorem ahead_begin (positive : coordinator.policy.Positive)
    (held : coordinator.get? conversationId = some schedule) (free : schedule.inFlight = none)
    (localIds : List String) :
    (coordinator.begin conversationId localIds instant).2.Ahead conversationId instant := by
  intro after found
  rw [begin_of_waits_not held free, get?_change, if_pos rfl, held] at found
  cases found
  exact Nat.lt_add_of_pos_right positive.responseTimeout

end SyncCoordinator

end MessageSync
