import MessageSync.Proofs.Keyed
import MessageSync.Subscription.Registry

/-!
# What the registry remembers

A conversation is interrupted when its subscribe is given up, and no longer when it is unsubscribed
or an acknowledgement comes for it. Nothing else that is done to the registry matters for that.
-/

namespace MessageSync

namespace SubscriptionRegistry

variable {registry : SubscriptionRegistry} {conversationId other : String} {waiter : Waiter}
  {instant : Instant} {ack : SubscribeAck}

/-! ## Interrupted conversations -/

/-- The conversation is interrupted. -/
def isInterrupted (registry : SubscriptionRegistry) (conversationId : String) : Bool :=
  registry.interrupted.contains conversationId

theorem isInterrupted_begin :
    (registry.begin conversationId waiter instant).2.isInterrupted other =
      registry.isInterrupted other := by
  simp only [begin, isInterrupted]
  split <;> rfl

theorem isInterrupted_expire :
    (registry.expire instant).2.2.isInterrupted other = registry.isInterrupted other := rfl

theorem isInterrupted_unsubscribe :
    (registry.unsubscribe conversationId).2.2.isInterrupted other =
      (other != conversationId && registry.isInterrupted other) :=
  Keyed.contains_erase other

theorem isInterrupted_acknowledge :
    (registry.acknowledge ack instant).2.2.isInterrupted other =
      (other != ack.conversationId && registry.isInterrupted other) := by
  simp only [acknowledge, isInterrupted]
  split
  · split
    · exact Keyed.contains_erase other
    · split <;> exact Keyed.contains_erase other
  · split
    · split <;> exact Keyed.contains_erase other
    · next absent =>
        have kept : registry.interrupted.contains other =
            (other != ack.conversationId && registry.interrupted.contains other) := by
          by_cases same : other = ack.conversationId
          · subst same
            simpa using absent
          · simp [same]
        split
        · exact kept
        · split <;> exact kept

theorem isInterrupted_abandonPending (error : SubscribeError) :
    (registry.abandonPending error).2.isInterrupted other =
      (registry.pending.contains other || registry.isInterrupted other) := by
  rw [isInterrupted, abandonPending, TextSet.contains_foldl_insert]
  congr 1
  rw [Bool.eq_iff_iff, Keyed.contains_iff, List.contains_iff_mem]

/-! ## While no subscribe waits -/

theorem pending_expire (idle : registry.pending = .empty) :
    (registry.expire instant).2.2.pending = .empty := by
  simp [expire, idle, Keyed.empty]

theorem pending_unsubscribe (idle : registry.pending = .empty) :
    (registry.unsubscribe conversationId).2.2.pending = .empty := by
  simp [unsubscribe, idle, Keyed.erase, Keyed.empty]

theorem pending_acknowledge (idle : registry.pending = .empty) :
    (registry.acknowledge ack instant).2.2.pending = .empty := by
  have none : registry.pending.get? ack.conversationId = none := by
    rw [idle]
    rfl
  simp only [acknowledge, none]
  split
  · split <;> exact idle
  · split
    · exact idle
    · split <;> exact idle

/-! ## Retained conversations -/

theorem mem_retained : conversationId ∈ registry.retained ↔
    registry.isSubscribed conversationId = true ∨ registry.isInterrupted conversationId = true := by
  rw [retained, ← Keyed.contains_iff, TextSet.union, TextSet.contains_foldl_insert,
    Bool.or_eq_true, List.contains_iff_mem, ← Keyed.contains_iff]
  exact Or.comm

/-! ## Conversations that the registry does not have -/

/-- The registry has nothing of the conversation: it is neither active nor interrupted, and no
subscribe of it waits. -/
structure Lacks (registry : SubscriptionRegistry) (conversationId : String) : Prop where
  active : registry.active.contains conversationId = false
  interrupted : registry.interrupted.contains conversationId = false
  pending : registry.pending.contains conversationId = false

theorem Lacks.not_isSubscribed (lacks : registry.Lacks conversationId) :
    registry.isSubscribed conversationId = false :=
  lacks.active

theorem Lacks.not_mem_retained (lacks : registry.Lacks conversationId) :
    conversationId ∉ registry.retained := by
  rw [mem_retained, isSubscribed, isInterrupted, lacks.active, lacks.interrupted]
  simp

/-- Whatever is unsubscribed, the registry does not have afterwards. -/
theorem lacks_unsubscribe : (registry.unsubscribe conversationId).2.2.Lacks conversationId := by
  refine ⟨?_, ?_, ?_⟩ <;>
    exact (Keyed.contains_erase _).trans (by rw [bne_self_eq_false, Bool.false_and])

theorem Lacks.unsubscribe (lacks : registry.Lacks conversationId) :
    (registry.unsubscribe other).2.2.Lacks conversationId :=
  ⟨Keyed.not_contains_erase lacks.active, Keyed.not_contains_erase lacks.interrupted,
    Keyed.not_contains_erase lacks.pending⟩

theorem Lacks.begin (lacks : registry.Lacks conversationId) (different : other ≠ conversationId) :
    (registry.begin other waiter instant).2.Lacks conversationId := by
  have notes (pending : PendingSubscribe) :
      (registry.pending.set other pending).contains conversationId = false := by
    rw [Keyed.contains_set, lacks.pending]
    simpa using different.symm
  simp only [SubscriptionRegistry.begin]
  split <;> exact ⟨lacks.active, lacks.interrupted, notes _⟩

theorem Lacks.expire (lacks : registry.Lacks conversationId) :
    (registry.expire instant).2.2.Lacks conversationId := by
  refine ⟨lacks.active, lacks.interrupted, ?_⟩
  have pending := lacks.pending
  rw [← Bool.not_eq_true, Keyed.contains_iff] at pending ⊢
  intro kept
  rcases List.mem_map.mp kept with ⟨entry, mem, key⟩
  simp only [SubscriptionRegistry.expire, List.partition_eq_filter_filter] at mem
  exact pending (List.mem_map.mpr ⟨entry, List.mem_of_mem_filter mem, key⟩)

theorem Lacks.abandonPending (lacks : registry.Lacks conversationId) (error : SubscribeError) :
    (registry.abandonPending error).2.Lacks conversationId := by
  refine ⟨lacks.active, ?_, rfl⟩
  change (registry.abandonPending error).2.isInterrupted conversationId = false
  rw [isInterrupted_abandonPending, lacks.pending, isInterrupted, lacks.interrupted, Bool.or_false]

/-- An acknowledgement of a conversation that the registry does not have changes nothing. -/
theorem Lacks.acknowledge_eq (lacks : registry.Lacks ack.conversationId) :
    registry.acknowledge ack instant = (.ignored, [], registry) := by
  have missing : registry.pending.get? ack.conversationId = none :=
    Option.isNone_iff_eq_none.mp (Option.isSome_eq_false_iff.mp lacks.pending)
  simp only [SubscriptionRegistry.acknowledge, missing, lacks.interrupted, lacks.active,
    Bool.not_false, Bool.false_eq_true, if_false, if_true]

theorem Lacks.acknowledge (lacks : registry.Lacks conversationId) :
    (registry.acknowledge ack instant).2.2.Lacks conversationId := by
  by_cases same : ack.conversationId = conversationId
  · subst same
    rw [lacks.acknowledge_eq]
    exact lacks
  · have active : (registry.active.insert ack.conversationId).contains conversationId = false := by
      rw [TextSet.insert, Keyed.contains_set, lacks.active]
      simpa using Ne.symm same
    have noLonger : (registry.active.erase ack.conversationId).contains conversationId = false :=
      Keyed.not_contains_erase lacks.active
    have interrupted :
        (registry.interrupted.erase ack.conversationId).contains conversationId = false :=
      Keyed.not_contains_erase lacks.interrupted
    have pending : (registry.pending.erase ack.conversationId).contains conversationId = false :=
      Keyed.not_contains_erase lacks.pending
    simp only [SubscriptionRegistry.acknowledge]
    split
    · split
      · exact ⟨lacks.active, interrupted, pending⟩
      · split
        · exact ⟨active, interrupted, pending⟩
        · exact ⟨lacks.active, interrupted, pending⟩
    · split
      · split
        · exact ⟨active, interrupted, lacks.pending⟩
        · exact ⟨lacks.active, interrupted, lacks.pending⟩
      · split
        · exact lacks
        · split
          · exact lacks
          · exact ⟨noLonger, lacks.interrupted, lacks.pending⟩

/-! ## Sound registries -/

/-- Every conversation of the registry has an id, and the active ones are in the order of theirs. -/
structure Sound (registry : SubscriptionRegistry) : Prop where
  active : registry.active.contains "" = false
  interrupted : registry.interrupted.contains "" = false
  pending : registry.pending.contains "" = false
  sorted : registry.active.Sorted

theorem Sound.retained_sorted (sound : registry.Sound) : registry.retained.Pairwise (· < ·) :=
  List.pairwise_map.mpr (TextSet.sorted_foldl_insert _ sound.sorted)

theorem Sound.ne_of_mem_retained (sound : registry.Sound)
    (mem : conversationId ∈ registry.retained) : conversationId ≠ "" := by
  rintro rfl
  rcases mem_retained.mp mem with active | interrupted
  · cases active.symm.trans sound.active
  · cases interrupted.symm.trans sound.interrupted

theorem sound_empty (timeout : Millis) : (empty timeout).Sound :=
  ⟨rfl, rfl, rfl, Keyed.sorted_empty⟩

theorem Sound.lacks (sound : registry.Sound) : registry.Lacks "" :=
  ⟨sound.active, sound.interrupted, sound.pending⟩

theorem Lacks.sound (nameless : registry.Lacks "") (sorted : registry.active.Sorted) :
    registry.Sound :=
  ⟨nameless.active, nameless.interrupted, nameless.pending, sorted⟩

theorem Sound.begin (sound : registry.Sound) (named : conversationId ≠ "") :
    (registry.begin conversationId waiter instant).2.Sound := by
  refine (sound.lacks.begin named).sound ?_
  simp only [SubscriptionRegistry.begin]
  split <;> exact sound.sorted

theorem Sound.expire (sound : registry.Sound) : (registry.expire instant).2.2.Sound :=
  sound.lacks.expire.sound sound.sorted

theorem Sound.unsubscribe (sound : registry.Sound) :
    (registry.unsubscribe conversationId).2.2.Sound :=
  sound.lacks.unsubscribe.sound (sound.sorted.erase _)

theorem Sound.abandonPending (sound : registry.Sound) (error : SubscribeError) :
    (registry.abandonPending error).2.Sound :=
  (sound.lacks.abandonPending error).sound sound.sorted

theorem Sound.acknowledge (sound : registry.Sound) :
    (registry.acknowledge ack instant).2.2.Sound := by
  refine sound.lacks.acknowledge.sound ?_
  simp only [SubscriptionRegistry.acknowledge]
  split
  · split
    · exact sound.sorted
    · split
      · exact sound.sorted.set _ _
      · exact sound.sorted
  · split
    · split
      · exact sound.sorted.set _ _
      · exact sound.sorted
    · split
      · exact sound.sorted
      · split
        · exact sound.sorted
        · exact sound.sorted.erase _

end SubscriptionRegistry

end MessageSync
