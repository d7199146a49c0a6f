import MessageSync.Proofs.Keyed
import MessageSync.Subscription.Registry

/-!
# Who waits for a subscribe

A caller waits in the entry of the conversation that it subscribes to. A later caller joins that
entry. An entry that is taken out goes with an answer, which is the same for all its callers, and
nothing else that is done to the registry drops a caller or has an answer for one.
-/

namespace MessageSync

namespace SubscriptionRegistry

variable {registry before after : SubscriptionRegistry} {conversationId other : String}
  {waiter : Waiter} {instant : Instant} {pending : PendingSubscribe}

/-- The callers that wait for a subscribe. -/
def waiting (registry : SubscriptionRegistry) : List Waiter :=
  registry.pending.values.flatMap PendingSubscribe.waiters

/-- A subscribe that waits no longer, with the answer to its callers. -/
structure Finished where
  entry : String × PendingSubscribe
  result : Except SubscribeError SubscribeAck

def Finished.answers (finished : Finished) : List SubscribeAnswer :=
  finished.entry.2.finish finished.result

/-- Some subscribes wait no longer, and the answers are those to their callers. The others wait as
before. -/
def Finishes (before : SubscriptionRegistry) (answers : List SubscribeAnswer)
    (after : SubscriptionRegistry) : Prop :=
  before.pending.Sorted → after.pending.Sorted ∧ ∃ finished : List Finished,
    answers = finished.flatMap Finished.answers ∧
    before.pending.entries.Perm (finished.map Finished.entry ++ after.pending.entries)

/-! ## The operations -/

theorem finishes_none (same : after.pending = before.pending) : Finishes before [] after :=
  fun sorted => ⟨same ▸ sorted, [], rfl, by rw [same]; exact .refl _⟩

theorem finishes_erase (result : Except SubscribeError SubscribeAck)
    (found : before.pending.get? conversationId = some pending)
    (erased : after.pending = before.pending.erase conversationId) :
    Finishes before (pending.finish result) after := by
  intro sorted
  refine ⟨erased ▸ sorted.erase _, [⟨(conversationId, pending), result⟩], ?_, ?_⟩
  · simp [Finished.answers]
  · rw [erased]
    exact sorted.perm_erase found

theorem finishes_acknowledge (ack : SubscribeAck) (instant : Instant) :
    Finishes registry (registry.acknowledge ack instant).2.1
      (registry.acknowledge ack instant).2.2 := by
  simp only [acknowledge]
  split
  · next pending found =>
      split
      · exact finishes_erase _ found rfl
      · split <;> exact finishes_erase _ found rfl
  · split
    · split <;> exact finishes_none rfl
    · split
      · exact finishes_none rfl
      · split <;> exact finishes_none rfl

theorem finishes_unsubscribe (conversationId : String) :
    Finishes registry (registry.unsubscribe conversationId).2.1
      (registry.unsubscribe conversationId).2.2 := by
  simp only [unsubscribe]
  cases found : registry.pending.get? conversationId with
  | some pending => exact finishes_erase _ found rfl
  | none =>
      refine finishes_none (Keyed.erase_of_absent ?_)
      rw [Keyed.contains, found]
      rfl

theorem finishes_expire (instant : Instant) :
    Finishes registry (registry.expire instant).2.1 (registry.expire instant).2.2 := by
  intro sorted
  simp only [expire, List.partition_eq_filter_filter]
  -- The entries are split in two by their deadlines, so together they are all entries again.
  refine ⟨List.Pairwise.filter _ sorted,
    (registry.pending.entries.filter fun entry => entry.2.deadline ≤ instant).map
      (⟨·, .error registry.timeoutError⟩), ?_, ?_⟩
  · rw [List.flatMap_map]
    rfl
  · rw [List.map_map]
    exact (List.map_id _).symm ▸ (List.filter_append_perm _ _).symm

theorem finishes_abandonPending (registry : SubscriptionRegistry) (error : SubscribeError) :
    Finishes registry (registry.abandonPending error).1 (registry.abandonPending error).2 := by
  intro sorted
  refine ⟨Keyed.sorted_empty, registry.pending.entries.map (⟨·, .error error⟩), ?_, ?_⟩
  · rw [List.flatMap_map, abandonPending, Keyed.values, List.flatMap_map]
    rfl
  · rw [List.map_map]
    simp [abandonPending, Keyed.empty, Function.comp_def]

/-! ## What becomes of the callers -/

/-- Every caller still waits or has its answer, and not both. -/
theorem Finishes.waiting {answers : List SubscribeAnswer} (finishes : Finishes before answers after)
    (sorted : before.pending.Sorted) :
    before.waiting.Perm (answers.map SubscribeAnswer.waiter ++ after.waiting) := by
  rcases (finishes sorted).2 with ⟨finished, rfl, split⟩
  have callers := split.flatMap_right fun entry => entry.2.waiters
  simp only [List.flatMap_append, List.flatMap_map] at callers
  have answered : (finished.flatMap Finished.answers).map SubscribeAnswer.waiter =
      finished.flatMap fun gone => gone.entry.2.waiters := by
    simp [List.map_flatMap, Finished.answers, PendingSubscribe.finish, Function.comp_def]
  rw [answered]
  simpa only [SubscriptionRegistry.waiting, Keyed.values, List.flatMap_map] using callers

/-- The callers of a subscribe still wait together, or have one and the same answer. -/
theorem Finishes.together {answers : List SubscribeAnswer}
    (finishes : Finishes before answers after) (sorted : before.pending.Sorted)
    (found : before.pending.get? conversationId = some pending) :
    after.pending.get? conversationId = some pending ∨
      ∃ result, (pending.finish result).Sublist answers := by
  rcases finishes sorted with ⟨sortedAfter, finished, rfl, split⟩
  rcases List.mem_append.mp (split.mem_iff.mp (Keyed.mem_entries_of_get? found)) with gone | kept
  · rcases List.mem_map.mp gone with ⟨last, mem, entry⟩
    refine Or.inr ⟨last.result, ?_⟩
    have answered : pending.finish last.result = last.answers := by rw [Finished.answers, entry]
    rcases List.mem_iff_append.mp mem with ⟨earlier, later, rfl⟩
    rw [answered, List.flatMap_append, List.flatMap_cons]
    exact (List.sublist_append_left _ _).trans (List.sublist_append_right _ _)
  · exact Or.inl (sortedAfter.get?_of_mem kept)

/-! ## Joining -/

theorem sorted_begin (sorted : registry.pending.Sorted) :
    (registry.begin conversationId waiter instant).2.pending.Sorted := by
  simp only [begin]
  split <;> exact sorted.set _ _

/-- The caller waits, and whoever waited still does. -/
theorem waiting_begin (sorted : registry.pending.Sorted) (conversationId : String) (waiter : Waiter)
    (instant : Instant) :
    (registry.begin conversationId waiter instant).2.waiting.Perm
      (waiter :: registry.waiting) := by
  have sets (pending : PendingSubscribe) :
      ((registry.pending.set conversationId pending).values.flatMap PendingSubscribe.waiters).Perm
        (pending.waiters ++
          (registry.pending.erase conversationId).values.flatMap PendingSubscribe.waiters) :=
    (sorted.perm_values_set conversationId pending).flatMap_right _
  simp only [begin]
  cases found : registry.pending.get? conversationId with
  | some pending =>
      have held : registry.waiting.Perm (pending.waiters ++
          (registry.pending.erase conversationId).values.flatMap PendingSubscribe.waiters) :=
        (sorted.perm_values_erase found).flatMap_right _
      refine (sets _).trans ?_
      rw [List.append_assoc]
      exact List.perm_middle.trans (held.symm.cons _)
  | none =>
      have absent : registry.pending.contains conversationId = false := by
        rw [Keyed.contains, found]
        rfl
      refine (sets _).trans ?_
      rw [Keyed.erase_of_absent absent]
      exact .refl _

theorem begin_of_pending (found : registry.pending.get? conversationId = some pending) :
    registry.begin conversationId waiter instant = (false, { registry with
      pending := registry.pending.set conversationId
        { pending with waiters := pending.waiters ++ [waiter] } }) := by
  simp only [begin, found]

theorem get?_begin_of_ne (different : other ≠ conversationId) :
    (registry.begin conversationId waiter instant).2.pending.get? other =
      registry.pending.get? other := by
  simp only [begin]
  split <;> simp [different]

end SubscriptionRegistry

end MessageSync
