import MessageSync.Proofs.Subscription.Refusal

/-!
# Late acknowledgements and the sweep

When a deadline passes, the acknowledgement and the sweep can come in either order. The callers are
told the same. What the acknowledgement does for the conversation is the same only if nothing was
subscribed of it before the subscribe that is late: an active or interrupted conversation is
forgotten by the acknowledgement that finds the subscribe, and not by the one that comes after the
sweep.
-/

namespace MessageSync

namespace SubscriptionRegistry

/-- What comes of an acknowledgement and a sweep at one instant. -/
structure Passing where
  outcome : AckOutcome
  answers : List SubscribeAnswer
  registry : SubscriptionRegistry

/-- The acknowledgement comes before the sweep. -/
def acknowledgeThenExpire (registry : SubscriptionRegistry) (ack : SubscribeAck) (now : Instant) :
    Passing :=
  let (outcome, answered, acknowledged) := registry.acknowledge ack now
  let (_, expired, swept) := acknowledged.expire now
  ⟨outcome, answered ++ expired, swept⟩

/-- The acknowledgement comes after the sweep. -/
def expireThenAcknowledge (registry : SubscriptionRegistry) (ack : SubscribeAck) (now : Instant) :
    Passing :=
  let (_, expired, swept) := registry.expire now
  let (outcome, answered, acknowledged) := swept.acknowledge ack now
  ⟨outcome, expired ++ answered, acknowledged⟩

/-- The same callers have the same answers, the acknowledgement did the same, and the same
conversations are active and retained. -/
structure Passing.Agrees (one other : Passing) : Prop where
  answers : one.answers.Perm other.answers
  outcome : one.outcome = other.outcome
  active : one.registry.active = other.registry.active
  retained : one.registry.retained = other.registry.retained

variable {registry : SubscriptionRegistry} {ack : SubscribeAck} {now : Instant}
  {conversationId : String} {pending : PendingSubscribe}

/-! ## The two orders -/

/-- What a late acknowledgement leaves. -/
def withdrawn (registry : SubscriptionRegistry) (conversationId : String) : SubscriptionRegistry :=
  { registry with
    pending := registry.pending.erase conversationId
    interrupted := registry.interrupted.erase conversationId }

theorem acknowledge_of_late (found : registry.pending.get? ack.conversationId = some pending)
    (late : pending.deadline ≤ now) :
    registry.acknowledge ack now =
      (.ignored, pending.finish (.error registry.timeoutError),
        registry.withdrawn ack.conversationId) := by
  simp only [acknowledge, found, if_pos late, withdrawn, timeoutError]

theorem get?_expire_of_late (sorted : registry.pending.Sorted)
    (found : registry.pending.get? conversationId = some pending)
    (late : pending.deadline ≤ now) :
    (registry.expire now).2.2.pending.get? conversationId = none := by
  have gone : (registry.expire now).2.2.pending.contains conversationId ≠ true := by
    rw [ne_eq, contains_expire sorted]
    rintro ⟨other, waits, inTime⟩
    cases found.symm.trans waits
    exact Nat.not_lt.mpr late inTime
  simpa [Keyed.contains] using gone

/-- The sweep tells the callers of a late subscribe and those that it has to tell without it. -/
theorem perm_expire_of_late (sorted : registry.pending.Sorted)
    (found : registry.pending.get? conversationId = some pending)
    (late : pending.deadline ≤ now) :
    (registry.expire now).2.1.Perm
      (pending.finish (.error registry.timeoutError) ++
        ((registry.withdrawn conversationId).expire now).2.1) := by
  have due := (sorted.perm_erase found).filter fun entry => entry.2.deadline ≤ now
  have expired := due.flatMap_right fun entry => entry.2.finish (.error registry.timeoutError)
  simp only [List.filter_cons, late, decide_true, if_true, List.flatMap_cons] at expired
  simpa only [expire, List.partition_eq_filter_filter, withdrawn, timeoutError] using expired

/-- The sweep does the same to the subscribes that are not late. -/
theorem expire_withdrawn (sorted : registry.pending.Sorted)
    (found : registry.pending.get? conversationId = some pending)
    (late : pending.deadline ≤ now) :
    ((registry.withdrawn conversationId).expire now).2.2.pending =
      (registry.expire now).2.2.pending := by
  simp only [expire, List.partition_eq_filter_filter, withdrawn, Keyed.erase, Keyed.mk.injEq,
    List.filter_filter]
  refine List.filter_congr ?_
  rintro ⟨key, other⟩ mem
  by_cases same : key = conversationId
  · subst same
    cases found.symm.trans (sorted.get?_of_mem mem)
    simp [late]
  · simp [same]

/-- Without a subscribe that waits, an acknowledgement is ignored if it finds nothing that was
subscribed before. -/
theorem acknowledge_ignored_iff (missing : registry.pending.get? ack.conversationId = none) :
    (registry.acknowledge ack now).1 = .ignored ↔ registry.Ended ack.conversationId := by
  rw [ended_iff, isSubscribed, isInterrupted]
  cases interrupted : registry.interrupted.contains ack.conversationId with
  | true => cases accepted : ack.success <;> simp [acknowledge, missing, interrupted, accepted]
  | false =>
      cases active : registry.active.contains ack.conversationId with
      | true =>
          cases accepted : ack.success <;>
            simp [acknowledge, missing, interrupted, active, accepted]
      | false => simp [acknowledge, missing, interrupted, active]

/-! ## When the orders agree -/

theorem perm_answers_of_late (sorted : registry.pending.Sorted)
    (found : registry.pending.get? ack.conversationId = some pending)
    (late : pending.deadline ≤ now) :
    (registry.expireThenAcknowledge ack now).answers.Perm
      (registry.acknowledgeThenExpire ack now).answers := by
  have silent : ((registry.expire now).2.2.acknowledge ack now).2.1 = [] := by
    simp only [acknowledge, get?_expire_of_late sorted found late]
    split
    · split <;> rfl
    · split
      · rfl
      · split <;> rfl
  simp only [expireThenAcknowledge, acknowledgeThenExpire, silent, List.append_nil,
    acknowledge_of_late found late]
  exact perm_expire_of_late sorted found late

theorem registry_eq_of_ended (sorted : registry.pending.Sorted)
    (found : registry.pending.get? ack.conversationId = some pending)
    (late : pending.deadline ≤ now) (ended : registry.Ended ack.conversationId) :
    (registry.expireThenAcknowledge ack now).registry =
      (registry.acknowledgeThenExpire ack now).registry := by
  rcases ended_iff.mp ended with ⟨notActive, notInterrupted⟩
  have lacks : (registry.expire now).2.2.Lacks ack.conversationId := by
    refine ⟨notActive, notInterrupted, ?_⟩
    rw [Keyed.contains, get?_expire_of_late sorted found late]
    rfl
  have interrupted : (registry.withdrawn ack.conversationId).interrupted = registry.interrupted :=
    Keyed.erase_of_absent notInterrupted
  have swept := expire_withdrawn sorted found late
  simp only [expireThenAcknowledge, acknowledgeThenExpire, lacks.acknowledge_eq,
    acknowledge_of_late found late]
  simp only [expire] at swept ⊢
  rw [swept, interrupted]
  rfl

/-- After any history, the callers are told the same whether the acknowledgement of a late subscribe
comes before the sweep or after it. All else is the same exactly if the conversation was neither
active nor interrupted. -/
theorem lateAck_agrees_iff (timeout : Millis) (operations : List Operation) (ack : SubscribeAck)
    (now : Instant) (pending : PendingSubscribe)
    (found : (reached timeout operations).pending.get? ack.conversationId = some pending)
    (late : pending.deadline ≤ now) :
    ((reached timeout operations).expireThenAcknowledge ack now).answers.Perm
        ((reached timeout operations).acknowledgeThenExpire ack now).answers ∧
      (((reached timeout operations).expireThenAcknowledge ack now).Agrees
          ((reached timeout operations).acknowledgeThenExpire ack now) ↔
        (reached timeout operations).Ended ack.conversationId) := by
  have sorted := sorted_reached timeout operations
  have answers := perm_answers_of_late sorted found late
  have missing := get?_expire_of_late sorted found late
  have ignored : ((reached timeout operations).acknowledgeThenExpire ack now).outcome =
      .ignored := by
    rw [acknowledgeThenExpire, acknowledge_of_late found late]
  have ignoredIff : ((reached timeout operations).expireThenAcknowledge ack now).outcome =
      .ignored ↔ (reached timeout operations).Ended ack.conversationId :=
    acknowledge_ignored_iff missing
  refine ⟨answers, ?_, ?_⟩
  · intro agrees
    exact ignoredIff.mp (agrees.outcome.trans ignored)
  · intro ended
    have same := registry_eq_of_ended sorted found late ended
    refine ⟨answers, ?_, ?_, ?_⟩
    · rw [ignored, ignoredIff.mpr ended]
    · rw [same]
    · rw [same]

/-- A first subscribe is given up at its deadline in either order. -/
theorem lateAck_agrees_iff_first :
    let operations := [.begin "general" 0 0]
    (reached 10000 operations).pending.get? "general" = some ⟨10000, [0]⟩ ∧
      ((reached 10000 operations).expireThenAcknowledge (answer true) 10000).Agrees
        ((reached 10000 operations).acknowledgeThenExpire (answer true) 10000) := by
  intro operations
  have found : (reached 10000 operations).pending.get? "general" = some ⟨10000, [0]⟩ := by
    decide +kernel
  have ended : (reached 10000 operations).Ended "general" := by
    rw [ended_iff]
    decide +kernel
  have agrees := lateAck_agrees_iff 10000 operations (answer true) 10000 _ found (Nat.le_refl _)
  exact ⟨found, agrees.2.mpr ended⟩

/-- The conversation is active when its second subscribe is refused too late: the refusal ends it
after the sweep, and is ignored before. -/
theorem not_lateAck_agrees :
    ¬∀ (timeout : Millis) (operations : List Operation) (ack : SubscribeAck) (now : Instant)
      (pending : PendingSubscribe),
      (reached timeout operations).pending.get? ack.conversationId = some pending →
      pending.deadline ≤ now →
      ((reached timeout operations).expireThenAcknowledge ack now).Agrees
        ((reached timeout operations).acknowledgeThenExpire ack now) := by
  intro agree
  have found : (reached 10000 resubscribed).pending.get? "general" = some ⟨10020, [1]⟩ := by
    decide +kernel
  have revoked : ((reached 10000 resubscribed).expireThenAcknowledge (answer false)
      10020).outcome = .revoked "subscribe refused" := by decide +kernel
  have ignored : ((reached 10000 resubscribed).acknowledgeThenExpire (answer false)
      10020).outcome = .ignored := by decide +kernel
  have same := (agree 10000 resubscribed (answer false) 10020 _ found (Nat.le_refl _)).outcome
  rw [revoked, ignored] at same
  cases same

end SubscriptionRegistry

end MessageSync
