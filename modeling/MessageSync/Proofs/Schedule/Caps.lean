import MessageSync.Proofs.Link.Histories
import MessageSync.Proofs.Schedule.Failures
import MessageSync.Proofs.Schedule.Intervals
import MessageSync.Settings.Basic

/-!
# The caps of the settings

The settings name a cap for the delay before a further attempt to connect, for the interval until
the next sync run and for the delay after a failed one. The first is always kept. The interval of an
active conversation is the base interval and the delay after the first failure is the base delay,
whatever the caps are. So the other two are kept by every history exactly if the base is not beyond
its cap, and settings are not refused because it is.
-/

namespace MessageSync

namespace SyncCoordinator

variable {coordinator : SyncCoordinator} {conversationId : String} {policy : SyncPolicy}
  {operation : Operation} {schedule : ConversationSync} {now : Instant}

/-- The operation puts the next run of the conversation off until so long after the instant. -/
def PutsOff (coordinator : SyncCoordinator) (conversationId : String) (operation : Operation)
    (now : Instant) (delay : Millis) : Prop :=
  ∃ after, (coordinator.apply operation).get? conversationId = some after ∧
    after.nextDue = now + delay

/-! ## The interval after a run that succeeded or was put off -/

/-- When a run of the conversation succeeds or is put off while nothing is pushed, if one does. -/
def renewal (coordinator : SyncCoordinator) (conversationId : String) : Operation → Option Instant
  | .skip other now false =>
    if other = conversationId ∧ coordinator.isTracked conversationId then some now else none
  | .succeed summary now false =>
    if summary.conversationId = conversationId ∧ coordinator.isTracked conversationId then some now
    else none
  | _ => none

/-- The next run after a renewal comes after the interval of the policy. -/
theorem putsOff_of_renewal (renewed : coordinator.renewal conversationId operation = some now) :
    ∃ before, coordinator.get? conversationId = some before ∧
      coordinator.PutsOff conversationId operation now
        (coordinator.policy.interval (now - before.lastActivity) false) := by
  cases operation with
  | skip other instant pushLive =>
      cases pushLive with
      | true => cases renewed
      | false =>
          simp only [renewal, Option.ite_none_right_eq_some, Option.some.injEq] at renewed
          rcases renewed with ⟨⟨rfl, tracked⟩, rfl⟩
          rcases isTracked_iff.mp tracked with ⟨before, found⟩
          refine ⟨before, found, ?_⟩
          simp only [PutsOff, apply, skip, get?_change, if_true, found, Option.map_some,
            Option.some.injEq, exists_eq_left']
  | succeed summary instant pushLive =>
      cases pushLive with
      | true => cases renewed
      | false =>
          simp only [renewal, Option.ite_none_right_eq_some, Option.some.injEq] at renewed
          rcases renewed with ⟨⟨rfl, tracked⟩, rfl⟩
          rcases isTracked_iff.mp tracked with ⟨before, found⟩
          refine ⟨before, found, ?_⟩
          simp only [PutsOff, apply, succeed, found, get?_change, if_true, Option.map_some,
            Option.some.injEq, exists_eq_left', ConversationSync.succeeded]
  | track | untrack | trigger | triggerAll | addWaiter | noteActivity | noteCount | begin
  | takeInFlight | fail | abandonInFlight | rejectWaiters => cases renewed

/-! ## The delay after a run that failed -/

/-- After any history, the delay that is stored is within its cap, or it is the first one and no run
has failed. -/
theorem errorBackoff_le_or_first (policy : SyncPolicy) (operations : List Operation)
    (found : (reached policy operations).get? conversationId = some schedule) :
    schedule.errorBackoff ≤ policy.errorBackoffMax ∨
      failures policy operations conversationId = 0 ∧
        schedule.errorBackoff = policy.errorBackoffBase := by
  refine stored_reached (fun count delay => delay ≤ policy.errorBackoffMax ∨
    count = 0 ∧ delay = policy.errorBackoffBase) (.inr ⟨rfl, rfl⟩) ?_ operations found
  intro count delay _
  exact .inl (Nat.min_le_right _ _)

/-- The next run after a failure comes after the delay that was stored. -/
theorem putsOff_of_failure (sorted : coordinator.conversations.Sorted)
    (failed : coordinator.failure conversationId operation = some now) :
    ∃ before, coordinator.get? conversationId = some before ∧
      coordinator.PutsOff conversationId operation now before.errorBackoff := by
  rcases get?_apply_of_failure sorted failed with ⟨before, error, found, after⟩
  exact ⟨before, found, _, after, rfl⟩

theorem PutsOff.eq {delay other : Millis}
    (puts : coordinator.PutsOff conversationId operation now delay)
    (again : coordinator.PutsOff conversationId operation now other) : delay = other := by
  rcases puts with ⟨after, found, due⟩
  rcases again with ⟨same, foundSame, dueSame⟩
  obtain rfl : after = same := Option.some.inj (found.symm.trans foundSame)
  exact Nat.add_left_cancel (due.symm.trans dueSame)

theorem get?_reached_track (policy : SyncPolicy) (conversationId : String) (now : Instant) :
    (reached policy [.track conversationId now]).get? conversationId =
      some (.start policy now) := by
  have track : reached policy [.track conversationId now] =
      (empty policy).track conversationId now := rfl
  rw [track, get?_track, if_pos rfl]
  rfl

end SyncCoordinator

/-! ## The law of the caps -/

namespace SyncPolicy

open SyncCoordinator (Operation reached failures)

variable {policy : SyncPolicy}

/-- In every history, a run that succeeded or was put off without a push puts the next one off by no
more than the longest interval. -/
def CapsIntervals (policy : SyncPolicy) : Prop :=
  ∀ operations operation conversationId now,
    (reached policy operations).renewal conversationId operation = some now →
      ∃ interval ≤ policy.maxInterval,
        (reached policy operations).PutsOff conversationId operation now interval

/-- In every history, a run that failed puts the next one off by no more than the longest delay. -/
def CapsDelays (policy : SyncPolicy) : Prop :=
  ∀ operations operation conversationId now,
    (reached policy operations).failure conversationId operation = some now →
      ∃ delay ≤ policy.errorBackoffMax,
        (reached policy operations).PutsOff conversationId operation now delay

/-- How far the caps of a policy are kept. -/
structure Capped (policy : SyncPolicy) : Prop where
  /-- An interval beyond the cap is the base interval, and the conversation is active. -/
  intervals (operations : List Operation) (operation : Operation) (conversationId : String)
    (now : Instant) :
    (reached policy operations).renewal conversationId operation = some now →
      ∃ before interval, (reached policy operations).get? conversationId = some before ∧
        (reached policy operations).PutsOff conversationId operation now interval ∧
        (interval ≤ policy.maxInterval ∨
          now - before.lastActivity ≤ policy.idleThreshold ∧ interval = policy.baseInterval)
  /-- A delay beyond the cap is the base delay, and no run has failed before. -/
  delays (operations : List Operation) (operation : Operation) (conversationId : String)
    (now : Instant) :
    (reached policy operations).failure conversationId operation = some now →
      ∃ delay, (reached policy operations).PutsOff conversationId operation now delay ∧
        (delay ≤ policy.errorBackoffMax ∨
          failures policy operations conversationId = 0 ∧ delay = policy.errorBackoffBase)
  capsIntervals_iff : policy.CapsIntervals ↔ policy.baseInterval ≤ policy.maxInterval
  capsDelays_iff : policy.CapsDelays ↔ policy.errorBackoffBase ≤ policy.errorBackoffMax

theorem exists_interval (operations : List Operation) (operation : Operation)
    (conversationId : String) (now : Instant)
    (renewed : (reached policy operations).renewal conversationId operation = some now) :
    ∃ before interval, (reached policy operations).get? conversationId = some before ∧
      (reached policy operations).PutsOff conversationId operation now interval ∧
      (interval ≤ policy.maxInterval ∨
        now - before.lastActivity ≤ policy.idleThreshold ∧ interval = policy.baseInterval) := by
  rcases SyncCoordinator.putsOff_of_renewal renewed with ⟨before, found, puts⟩
  rw [SyncCoordinator.policy_reached] at puts
  exact ⟨before, _, found, puts, policy.interval_le_or_active _⟩

theorem exists_delay (operations : List Operation) (operation : Operation)
    (conversationId : String) (now : Instant)
    (failed : (reached policy operations).failure conversationId operation = some now) :
    ∃ delay, (reached policy operations).PutsOff conversationId operation now delay ∧
      (delay ≤ policy.errorBackoffMax ∨
        failures policy operations conversationId = 0 ∧ delay = policy.errorBackoffBase) := by
  have sorted := SyncCoordinator.sorted_reached policy operations
  rcases SyncCoordinator.putsOff_of_failure sorted failed with ⟨before, found, puts⟩
  exact ⟨_, puts, SyncCoordinator.errorBackoff_le_or_first policy operations found⟩

/-- The base interval follows right after a conversation was taken up. -/
theorem baseInterval_le_of_capsIntervals (caps : policy.CapsIntervals) :
    policy.baseInterval ≤ policy.maxInterval := by
  let fresh := reached policy [.track "" 0]
  have found : fresh.get? "" = some (.start policy 0) :=
    SyncCoordinator.get?_reached_track policy "" 0
  have tracked : fresh.isTracked "" = true := SyncCoordinator.isTracked_iff.mpr ⟨_, found⟩
  have renewed : fresh.renewal "" (.skip "" 0 false) = some 0 := by
    simp [SyncCoordinator.renewal, tracked]
  rcases caps _ _ _ _ renewed with ⟨interval, le, puts⟩
  rcases SyncCoordinator.putsOff_of_renewal renewed with ⟨before, foundBefore, putsBase⟩
  have active : fresh.policy.interval (0 - before.lastActivity) false = policy.baseInterval := by
    rw [SyncCoordinator.policy_reached, Nat.zero_sub, interval_of_active (Nat.zero_le _)]
  rwa [puts.eq putsBase, active] at le

/-- The base delay follows the first failure. -/
theorem errorBackoffBase_le_of_capsDelays (caps : policy.CapsDelays) :
    policy.errorBackoffBase ≤ policy.errorBackoffMax := by
  let fresh := reached policy [.track "" 0]
  have found : fresh.get? "" = some (.start policy 0) :=
    SyncCoordinator.get?_reached_track policy "" 0
  have tracked : fresh.isTracked "" = true := SyncCoordinator.isTracked_iff.mpr ⟨_, found⟩
  have failed : fresh.failure "" (.fail "" .notConnected 0) = some 0 := by
    simp [SyncCoordinator.failure, tracked]
  rcases caps _ _ _ _ failed with ⟨delay, le, puts⟩
  rcases SyncCoordinator.putsOff_of_failure (SyncCoordinator.sorted_reached _ _) failed with
    ⟨before, foundBefore, putsBase⟩
  obtain rfl : before = .start policy 0 := Option.some.inj (foundBefore.symm.trans found)
  rwa [puts.eq putsBase] at le

theorem capped (policy : SyncPolicy) : policy.Capped where
  intervals := exists_interval
  delays := exists_delay
  capsIntervals_iff := by
    refine ⟨baseInterval_le_of_capsIntervals, ?_⟩
    intro ordered operations operation conversationId now renewed
    rcases exists_interval operations operation conversationId now renewed with
      ⟨before, interval, found, puts, le | ⟨active, rfl⟩⟩
    · exact ⟨interval, le, puts⟩
    · exact ⟨_, ordered, puts⟩
  capsDelays_iff := by
    refine ⟨errorBackoffBase_le_of_capsDelays, ?_⟩
    intro ordered operations operation conversationId now failed
    rcases exists_delay operations operation conversationId now failed with
      ⟨delay, puts, le | ⟨first, rfl⟩⟩
    · exact ⟨delay, le, puts⟩
    · exact ⟨_, ordered, puts⟩

end SyncPolicy

namespace Settings

/-- The law of the caps, whatever the settings are: no attempt to connect is put off by more than
its cap. Runs may be, but only by the base of the interval or of the delay, and in no history
exactly if the base is within the cap. -/
theorem capped_delays (settings : Settings) :
    (∀ inputs input delay,
      .scheduleRetry delay ∈ ConnectionMachine.effects settings.connection.backoff inputs input →
        delay ≤ settings.connection.maxDelayMs.toNat) ∧
    settings.sync.policy.Capped := by
  refine ⟨?_, settings.sync.policy.capped⟩
  intro inputs input delay scheduled
  have moves := ConnectionMachine.moves_reached settings.connection.backoff inputs input
  rw [moves.delay_eq scheduled, ConnectionMachine.backoff_reached]
  exact (Backoff.doubles _).bounded _

/-- The standard settings, but with both bases beyond their caps of a minute. -/
def uncapped : Settings :=
  { standard with sync := { SyncSettings.standard with
      baseIntervalMs := 120000
      errorBackoffBaseMs := 120000 } }

/-- The settings are accepted, and a run that succeeded or failed puts the next one off by two
minutes. -/
theorem caps_exceeded :
    let fresh := SyncCoordinator.reached uncapped.sync.policy [.track "general" 0]
    let succeeds := SyncCoordinator.Operation.succeed { conversationId := "general" } 0 false
    let fails := SyncCoordinator.Operation.fail "general" .notConnected 0
    uncapped.validate = .ok () ∧
      (fresh.renewal "general" succeeds = some 0 ∧ fresh.PutsOff "general" succeeds 0 120000 ∧
        uncapped.sync.maxIntervalMs.toNat < 120000) ∧
      fresh.failure "general" fails = some 0 ∧ fresh.PutsOff "general" fails 0 120000 ∧
        uncapped.sync.errorBackoffMaxMs.toNat < 120000 := by
  refine ⟨by decide +kernel, ⟨by decide +kernel, ⟨_, rfl, ?_⟩, by decide⟩,
    by decide +kernel, ⟨_, rfl, ?_⟩, by decide⟩
  · decide +kernel
  · decide +kernel

end Settings

end MessageSync
