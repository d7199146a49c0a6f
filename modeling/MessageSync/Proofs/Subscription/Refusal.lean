import Mathlib.Data.List.Induction
import MessageSync.Proofs.Subscription.Registry
import MessageSync.Proofs.Subscription.Waiting

/-!
# Refused subscriptions

A refusal of the server ends a subscription that is pending, interrupted or active. It does not if
the conversation was active and was subscribed once more: then the refusal is taken for the answer
to that second subscribe, and the conversation stays active. When a conversation is in that state is
told of a single operation, and from that of every history of a registry.
-/

namespace MessageSync

namespace SubscriptionRegistry

/-- What is done to a registry. -/
inductive Operation where
  | begin (conversationId : String) (waiter : Waiter) (now : Instant)
  | acknowledge (ack : SubscribeAck) (now : Instant)
  | unsubscribe (conversationId : String)
  | expire (now : Instant)
  | abandonPending (error : SubscribeError)

/-- The registry after an operation. What the operation returns is left out. -/
def apply (registry : SubscriptionRegistry) : Operation → SubscriptionRegistry
  | .begin conversationId waiter now => (registry.begin conversationId waiter now).2
  | .acknowledge ack now => (registry.acknowledge ack now).2.2
  | .unsubscribe conversationId => (registry.unsubscribe conversationId).2.2
  | .expire now => (registry.expire now).2.2
  | .abandonPending error => (registry.abandonPending error).2

/-- The registry that a history of operations leads to. -/
def reached (timeout : Millis) (operations : List Operation) : SubscriptionRegistry :=
  operations.foldl apply (empty timeout)

/-- The conversation is active, and another subscribe of it is pending or was cut off. -/
def Doubled (registry : SubscriptionRegistry) (conversationId : String) : Prop :=
  registry.isSubscribed conversationId = true ∧
    (registry.pending.contains conversationId = true ∨
      registry.isInterrupted conversationId = true)

/-- The operation subscribes the conversation while it is active. -/
def SubscribesAgain (registry : SubscriptionRegistry) (conversationId : String)
    (operation : Operation) : Prop :=
  (∃ waiter now, operation = .begin conversationId waiter now) ∧
    registry.isSubscribed conversationId = true

/-- Nothing is left of a second subscribe of the conversation after the operation. -/
def Settles (registry : SubscriptionRegistry) (conversationId : String) : Operation → Prop
  | .begin .. | .abandonPending _ => False
  | .acknowledge ack _ => ack.conversationId = conversationId
  | .unsubscribe other => other = conversationId
  | .expire now => registry.isInterrupted conversationId = false ∧
      ∀ pending, registry.pending.get? conversationId = some pending → pending.deadline ≤ now

variable {registry : SubscriptionRegistry} {conversationId other : String} {waiter : Waiter}
  {now : Instant} {ack : SubscribeAck}

/-! ## One operation -/

theorem contains_expire (sorted : registry.pending.Sorted) (conversationId : String)
    (now : Instant) :
    (registry.expire now).2.2.pending.contains conversationId = true ↔
      ∃ pending, registry.pending.get? conversationId = some pending ∧ now < pending.deadline := by
  simp only [expire, List.partition_eq_filter_filter, Keyed.contains_iff, Keyed.keys,
    List.mem_map, List.mem_filter]
  constructor
  · rintro ⟨⟨key, pending⟩, ⟨mem, kept⟩, rfl⟩
    refine ⟨pending, sorted.get?_of_mem mem, ?_⟩
    simpa using kept
  · rintro ⟨pending, found, waits⟩
    refine ⟨(conversationId, pending), ⟨Keyed.mem_entries_of_get? found, ?_⟩, rfl⟩
    simpa using waits

theorem doubled_begin :
    (registry.begin other waiter now).2.Doubled conversationId ↔
      other = conversationId ∧ registry.isSubscribed conversationId = true ∨
        registry.Doubled conversationId := by
  have pending : ∀ entry, (registry.pending.set other entry).contains conversationId = true ↔
      other = conversationId ∨ registry.pending.contains conversationId = true := by
    intro entry
    simp [Keyed.contains_set, eq_comm (a := other)]
  simp only [begin, Doubled, isSubscribed, isInterrupted]
  split
  · simp only [pending]
    tauto
  · simp only [pending]
    tauto

theorem not_doubled_acknowledge :
    ¬(registry.acknowledge ack now).2.2.Doubled ack.conversationId := by
  have erased {α : Type} (map : Keyed α) :
      (map.erase ack.conversationId).contains ack.conversationId = false := by
    simp [Keyed.contains_erase]
  rintro ⟨active, again⟩
  simp only [acknowledge, isSubscribed, isInterrupted] at active again
  split at again
  · split at again
    · simp [erased] at again
    · split at again
      · simp [erased] at again
      · simp [erased] at again
  · next missing =>
      have absent : registry.pending.contains ack.conversationId = false := by
        simp [Keyed.contains, missing]
      split at again
      · split at again
        · simp [erased, absent] at again
        · simp [erased, absent] at again
      · next whole =>
          split at again
          · simp [absent, whole] at again
          · split at again
            · simp [absent, whole] at again
            · simp [absent, whole] at again

theorem doubled_acknowledge_of_ne (different : ack.conversationId ≠ conversationId) :
    (registry.acknowledge ack now).2.2.Doubled conversationId ↔ registry.Doubled conversationId := by
  have erased {α : Type} (map : Keyed α) :
      (map.erase ack.conversationId).contains conversationId = map.contains conversationId := by
    simp [Keyed.contains_erase, different.symm]
  have inserted (set : TextSet) :
      (set.insert ack.conversationId).contains conversationId = set.contains conversationId := by
    simp [TextSet.insert, Keyed.contains_set, different.symm]
  simp only [acknowledge, Doubled, isSubscribed, isInterrupted]
  split
  · split
    · simp only [erased]
    · split
      · simp only [erased, inserted]
      · simp only [erased]
  · split
    · split
      · simp only [erased, inserted]
      · simp only [erased]
    · split
      · rfl
      · split
        · rfl
        · simp only [erased]

theorem doubled_unsubscribe :
    (registry.unsubscribe other).2.2.Doubled conversationId ↔
      registry.Doubled conversationId ∧ other ≠ conversationId := by
  simp only [unsubscribe, Doubled, isSubscribed, isInterrupted, Keyed.contains_erase,
    Bool.and_eq_true, bne_iff_ne]
  tauto

theorem doubled_expire (sorted : registry.pending.Sorted) :
    (registry.expire now).2.2.Doubled conversationId ↔
      registry.Doubled conversationId ∧ ¬registry.Settles conversationId (.expire now) := by
  have waits := contains_expire sorted conversationId now
  have waited : registry.pending.contains conversationId = true ↔
      ∃ pending, registry.pending.get? conversationId = some pending := by
    simp [Keyed.contains, Option.isSome_iff_exists]
  simp only [Doubled, Settles, waits, waited, isInterrupted_expire]
  cases interrupted : registry.isInterrupted conversationId with
  | true => simp [expire, isSubscribed]
  | false =>
      cases found : registry.pending.get? conversationId with
      | none => simp
      | some pending => simp [expire, isSubscribed]

theorem doubled_abandonPending (error : SubscribeError) :
    (registry.abandonPending error).2.Doubled conversationId ↔ registry.Doubled conversationId := by
  have idle : (registry.abandonPending error).2.pending.contains conversationId = false := rfl
  simp only [Doubled, idle, isInterrupted_abandonPending, Bool.or_eq_true]
  simp [abandonPending, isSubscribed]

/-- A conversation is doubled after an operation that subscribes it while it is active, or that
leaves it doubled. -/
theorem doubled_apply (sorted : registry.pending.Sorted) (operation : Operation) :
    (registry.apply operation).Doubled conversationId ↔
      registry.SubscribesAgain conversationId operation ∨
        registry.Doubled conversationId ∧ ¬registry.Settles conversationId operation := by
  cases operation with
  | begin other waiter now => simp [apply, doubled_begin, SubscribesAgain, Settles]
  | acknowledge ack now =>
      by_cases same : ack.conversationId = conversationId
      · subst same
        simp [apply, not_doubled_acknowledge, SubscribesAgain, Settles]
      · simp [apply, doubled_acknowledge_of_ne same, SubscribesAgain, Settles, same]
  | unsubscribe other => simp [apply, doubled_unsubscribe, SubscribesAgain, Settles]
  | expire now => simp [apply, doubled_expire sorted, SubscribesAgain]
  | abandonPending error => simp [apply, doubled_abandonPending, SubscribesAgain, Settles]

theorem sorted_apply (sorted : registry.pending.Sorted) (operation : Operation) :
    (registry.apply operation).pending.Sorted := by
  cases operation with
  | begin => exact sorted_begin sorted
  | acknowledge ack now => exact (finishes_acknowledge ack now sorted).1
  | unsubscribe other => exact (finishes_unsubscribe other sorted).1
  | expire now => exact (finishes_expire now sorted).1
  | abandonPending error => exact (finishes_abandonPending registry error sorted).1

/-! ## Histories -/

variable {timeout : Millis} {operations : List Operation} {operation : Operation}

theorem reached_append_singleton :
    reached timeout (operations ++ [operation]) = (reached timeout operations).apply operation := by
  simp [reached]

theorem sorted_reached (timeout : Millis) (operations : List Operation) :
    (reached timeout operations).pending.Sorted := by
  induction operations using List.reverseRecOn with
  | nil => exact Keyed.sorted_empty
  | append_singleton operations operation sorted =>
      rw [reached_append_singleton]
      exact sorted_apply sorted operation

/-- In the history, the conversation was subscribed again while it was active, and no operation has
settled that since. -/
def SubscribedAgain (timeout : Millis) (operations : List Operation) (conversationId : String) :
    Prop :=
  ∃ earlier again later, operations = earlier ++ again :: later ∧
    (reached timeout earlier).SubscribesAgain conversationId again ∧
    ∀ between next, between ++ [next] <+: later →
      ¬(reached timeout (earlier ++ again :: between)).Settles conversationId next

theorem subscribedAgain_append_singleton :
    SubscribedAgain timeout (operations ++ [operation]) conversationId ↔
      (reached timeout operations).SubscribesAgain conversationId operation ∨
        SubscribedAgain timeout operations conversationId ∧
          ¬(reached timeout operations).Settles conversationId operation := by
  constructor
  · rintro ⟨earlier, again, later, split, subscribes, stays⟩
    -- The last operation is the one that subscribes again, or it comes after that.
    rcases List.eq_nil_or_concat' later with rfl | ⟨between, last, rfl⟩
    · rw [List.append_singleton_inj] at split
      rcases split with ⟨rfl, rfl⟩
      exact Or.inl subscribes
    · rw [← List.cons_append, ← List.append_assoc, List.append_singleton_inj] at split
      rcases split with ⟨rfl, rfl⟩
      refine Or.inr ⟨⟨earlier, again, between, rfl, subscribes, ?_⟩, ?_⟩
      · intro part next before
        apply stays
        exact before.trans (List.prefix_append _ _)
      · exact stays between operation List.prefix_rfl
  · rintro (subscribes | ⟨⟨earlier, again, later, rfl, subscribes, stays⟩, kept⟩)
    · refine ⟨operations, operation, [], rfl, subscribes, ?_⟩
      intro between next before
      simp at before
    · refine ⟨earlier, again, later ++ [operation], by simp, subscribes, ?_⟩
      intro between next before
      rcases List.prefix_concat_iff.mp before with whole | before
      · rw [List.append_singleton_inj] at whole
        rcases whole with ⟨rfl, rfl⟩
        exact kept
      · exact stays between next before

/-- Along every history, the doubled conversations are those that were subscribed again. -/
theorem doubled_reached_iff :
    (reached timeout operations).Doubled conversationId ↔
      SubscribedAgain timeout operations conversationId := by
  induction operations using List.reverseRecOn with
  | nil =>
      constructor
      · rintro ⟨active, -⟩
        cases active
      · rintro ⟨earlier, again, later, split, -⟩
        simp at split
  | append_singleton operations operation doubled =>
      rw [reached_append_singleton, doubled_apply (sorted_reached timeout operations), doubled,
        subscribedAgain_append_singleton]

/-! ## Refusals -/

/-- The registry has ended the subscription: the conversation is neither active nor retained. -/
def Ended (registry : SubscriptionRegistry) (conversationId : String) : Prop :=
  registry.isSubscribed conversationId = false ∧ conversationId ∉ registry.retained

/-- A subscribe of the conversation that is pending can still be answered. -/
def InTime (registry : SubscriptionRegistry) (conversationId : String) (now : Instant) : Prop :=
  ∀ pending, registry.pending.get? conversationId = some pending → now < pending.deadline

theorem ended_iff : registry.Ended conversationId ↔
    registry.isSubscribed conversationId = false ∧
      registry.isInterrupted conversationId = false := by
  simp [Ended, mem_retained]

/-- What a refusal that comes in time leaves of a conversation: it is active as before if it was
also pending or interrupted, and otherwise it is nothing. -/
theorem ended_acknowledge_iff (refused : ack.success = false)
    (inTime : registry.InTime ack.conversationId now) :
    (registry.acknowledge ack now).2.2.Ended ack.conversationId ↔
      ¬registry.Doubled ack.conversationId := by
  have interrupted : (registry.acknowledge ack now).2.2.isInterrupted ack.conversationId = false := by
    simp [isInterrupted_acknowledge]
  rw [ended_iff]
  simp only [interrupted, and_true, Doubled]
  simp only [acknowledge, isSubscribed, isInterrupted, refused]
  cases found : registry.pending.get? ack.conversationId with
  | some pending =>
      have waits : ¬pending.deadline ≤ now := Nat.not_le.mpr (inTime pending found)
      simp [waits, Keyed.contains, found]
  | none =>
      have absent : registry.pending.contains ack.conversationId = false := by
        simp [Keyed.contains, found]
      by_cases cutOff : registry.interrupted.contains ack.conversationId = true
      · simp [cutOff]
      · by_cases active : registry.active.contains ack.conversationId = true
        · simp [cutOff, active, absent, Keyed.contains_erase]
        · simp [cutOff, active]

/-- After any history, a refusal that comes in time ends the subscription, unless the conversation
was subscribed again while it was active. -/
theorem ended_by_refusal_iff (timeout : Millis) (operations : List Operation)
    (ack : SubscribeAck) (refused : ack.success = false)
    (inTime : (reached timeout operations).InTime ack.conversationId now) :
    ((reached timeout operations).apply (.acknowledge ack now)).Ended ack.conversationId ↔
      ¬SubscribedAgain timeout operations ack.conversationId := by
  rw [← doubled_reached_iff]
  exact ended_acknowledge_iff refused inTime

def answer (success : Bool) : SubscribeAck :=
  ⟨"general", success, none, none⟩

def resubscribed : List Operation :=
  [.begin "general" 0 0, .acknowledge (answer true) 10, .begin "general" 1 20]

/-- The second subscribe was given up, so the refusal that comes then is one of the first. -/
theorem ended_by_refusal_iff_expired :
    let operations := resubscribed ++ [.expire 10020]
    (reached 10000 operations).InTime "general" 10030 ∧
      (reached 10000 operations).isSubscribed "general" = true ∧
      (((reached 10000 operations).apply (.acknowledge (answer false) 10030)).Ended "general" ↔
        ¬SubscribedAgain 10000 operations "general") := by
  intro operations
  have missing : (reached 10000 operations).pending.get? "general" = none := by decide +kernel
  have inTime : (reached 10000 operations).InTime "general" 10030 := by
    intro pending found
    cases missing.symm.trans found
  refine ⟨inTime, by decide +kernel, ?_⟩
  exact ended_by_refusal_iff 10000 operations (answer false) rfl inTime

/-- The refusal of a second subscribe leaves the conversation active. -/
theorem not_ended_by_refusal :
    ¬∀ (timeout : Millis) (operations : List Operation) (ack : SubscribeAck) (now : Instant),
      ack.success = false → (reached timeout operations).InTime ack.conversationId now →
      ((reached timeout operations).apply (.acknowledge ack now)).Ended ack.conversationId := by
  intro ends
  have found : (reached 10000 resubscribed).pending.get? "general" = some ⟨10020, [1]⟩ := by
    decide +kernel
  have inTime : (reached 10000 resubscribed).InTime "general" 30 := by
    intro pending waits
    cases found.symm.trans waits
    decide
  have ended := ends 10000 resubscribed (answer false) 30 rfl inTime
  have active : ((reached 10000 resubscribed).apply
      (.acknowledge (answer false) 30)).isSubscribed "general" = true := by decide +kernel
  cases active.symm.trans ended.1

end SubscriptionRegistry

end MessageSync
