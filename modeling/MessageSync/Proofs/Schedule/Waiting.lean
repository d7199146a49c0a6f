import MessageSync.Proofs.Schedule.Operations

/-!
# Who waits for a sync run

What is done to the schedules is of two kinds. Either runs end: their callers are answered, and the
last errors of their conversations may change. Or nothing ends: then every caller still waits and no
last error changes, though conversations may be taken up and callers may come.
-/

namespace MessageSync

namespace SyncCoordinator

variable {coordinator before middle after : SyncCoordinator} {conversationId : String}
  {conversationIds : List String} {waiter : Nat} {instant : Instant} {error : SyncError}
  {takesUp : String → Prop}

/-- The callers that wait for a sync run. -/
def waiting (coordinator : SyncCoordinator) : List Nat :=
  coordinator.conversations.values.flatMap ConversationSync.waiters

/-- Operations end no run. The conversations that are new may be taken up, and the callers that are
new are those that asked. -/
structure Reschedules (takesUp : String → Prop) (asked : List Nat)
    (before after : SyncCoordinator) : Prop where
  operated : Operated before after
  tracked : ∀ conversationId, after.isTracked conversationId = true →
    before.isTracked conversationId = true ∨ takesUp conversationId
  lastError : ∀ conversationId, after.lastError? conversationId = before.lastError? conversationId
  waiting : before.conversations.Sorted →
    after.conversations.Sorted ∧ (asked ++ before.waiting).Perm after.waiting

/-- Operations end runs of the conversations, and the answers are those to their callers. -/
structure Concludes (conversationIds : List String) (answers : List SyncAnswer)
    (before after : SyncCoordinator) : Prop where
  operated : Operated before after
  tracked : ∀ conversationId, after.isTracked conversationId = true →
    before.isTracked conversationId = true
  lastError : ∀ conversationId ∉ conversationIds,
    after.lastError? conversationId = before.lastError? conversationId
  waiting : before.conversations.Sorted → after.conversations.Sorted ∧
    before.waiting.Perm (answers.map SyncAnswer.waiter ++ after.waiting)

theorem Reschedules.refl (coordinator : SyncCoordinator) :
    Reschedules takesUp [] coordinator coordinator :=
  ⟨.refl coordinator, fun _ => Or.inl, fun _ => rfl, fun sorted => ⟨sorted, .refl _⟩⟩

theorem Reschedules.trans {asked more : List Nat} (first : Reschedules takesUp asked before middle)
    (second : Reschedules takesUp more middle after) :
    Reschedules takesUp (asked ++ more) before after := by
  refine ⟨first.operated.trans second.operated, fun conversationId tracked => ?_,
    fun conversationId => ?_, fun sorted => ?_⟩
  · rcases second.tracked conversationId tracked with tracked | taken
    · exact first.tracked conversationId tracked
    · exact Or.inr taken
  · exact (second.lastError conversationId).trans (first.lastError conversationId)
  · rcases first.waiting sorted with ⟨sorted, kept⟩
    rcases second.waiting sorted with ⟨sorted, keptAfter⟩
    refine ⟨sorted, .trans ?_ keptAfter⟩
    calc asked ++ more ++ before.waiting
      _ |>.Perm (more ++ asked ++ before.waiting) := List.perm_append_comm.append_right _
      _ |>.Perm (more ++ (asked ++ before.waiting)) := .of_eq (List.append_assoc _ _ _)
      _ |>.Perm (more ++ middle.waiting) := kept.append_left _

theorem Concludes.refl (coordinator : SyncCoordinator) :
    Concludes conversationIds [] coordinator coordinator :=
  ⟨.refl coordinator, fun _ tracked => tracked, fun _ _ => rfl, fun sorted => ⟨sorted, .refl _⟩⟩

theorem Concludes.cons {answers more : List SyncAnswer}
    (first : Concludes [conversationId] answers before middle)
    (second : Concludes conversationIds more middle after) :
    Concludes (conversationId :: conversationIds) (answers ++ more) before after := by
  refine ⟨first.operated.trans second.operated,
    fun other tracked => first.tracked _ (second.tracked other tracked), fun other apart => ?_,
    fun sorted => ?_⟩
  · rw [List.mem_cons, not_or] at apart
    rw [second.lastError other apart.2, first.lastError other (by simpa using apart.1)]
  · rcases first.waiting sorted with ⟨sorted, kept⟩
    rcases second.waiting sorted with ⟨sorted, keptAfter⟩
    refine ⟨sorted, kept.trans ?_⟩
    rw [List.map_append, List.append_assoc]
    exact keptAfter.append_left _

/-! ## Changes of one schedule -/

theorem isTracked_change (other : String) (f : ConversationSync → ConversationSync) :
    (coordinator.change conversationId f).isTracked other = coordinator.isTracked other := by
  change ((coordinator.change conversationId f).get? other).isSome =
    (coordinator.get? other).isSome
  rw [get?_change]
  split
  · next same => rw [same, Option.isSome_map]
  · rfl

theorem lastError?_change (other : String) (f : ConversationSync → ConversationSync) :
    (coordinator.change conversationId f).lastError? other =
      if other = conversationId then
        (coordinator.get? conversationId).bind fun schedule => (f schedule).lastError
      else coordinator.lastError? other := by
  rw [lastError?, get?_change]
  split
  · rw [Option.bind_map]
    rfl
  · rfl

theorem untracked_iff :
    coordinator.isTracked conversationId = false ↔ coordinator.get? conversationId = none :=
  Option.isSome_eq_false_iff.trans Option.isNone_iff_eq_none

/-- The callers of one schedule, before and after it is changed. -/
theorem waiting_change {schedule : ConversationSync} (f : ConversationSync → ConversationSync)
    (sorted : coordinator.conversations.Sorted)
    (found : coordinator.get? conversationId = some schedule) :
    ∃ others, coordinator.waiting.Perm (schedule.waiters ++ others) ∧
      (coordinator.change conversationId f).waiting.Perm ((f schedule).waiters ++ others) := by
  refine ⟨(coordinator.conversations.erase conversationId).values.flatMap
    ConversationSync.waiters, (sorted.perm_values_erase found).flatMap_right _, ?_⟩
  have found : coordinator.conversations.get? conversationId = some schedule := found
  simp only [waiting, change, Keyed.change, found]
  exact (sorted.perm_values_set conversationId (f schedule)).flatMap_right _

theorem change_of_missing {f : ConversationSync → ConversationSync}
    (missing : coordinator.get? conversationId = none) :
    coordinator.change conversationId f = coordinator := by
  have missing : coordinator.conversations.get? conversationId = none := missing
  simp only [change, Keyed.change, missing]

theorem reschedules_change {f : ConversationSync → ConversationSync}
    (operated : Operated coordinator (coordinator.change conversationId f))
    (lastError : ∀ schedule, (f schedule).lastError = schedule.lastError)
    (waiters : ∀ schedule, (f schedule).waiters = schedule.waiters) :
    Reschedules takesUp [] coordinator (coordinator.change conversationId f) := by
  refine ⟨operated, fun other tracked => Or.inl (isTracked_change other f ▸ tracked),
    fun other => ?_, fun sorted => ⟨sorted.change _ _, ?_⟩⟩
  · rw [lastError?_change]
    split
    · next same => simp only [lastError, same, lastError?]
    · rfl
  · cases found : coordinator.get? conversationId with
    | none => rw [change_of_missing found, List.nil_append]
    | some schedule =>
        rcases waiting_change f sorted found with ⟨others, held, changed⟩
        rw [waiters] at changed
        exact held.trans changed.symm

theorem concludes_change {schedule : ConversationSync} {f : ConversationSync → ConversationSync}
    (operated : Operated coordinator (coordinator.change conversationId f))
    (result : Except SyncError SyncSummary) (dismissed : (f schedule).waiters = [])
    (found : coordinator.get? conversationId = some schedule) :
    Concludes [conversationId] (schedule.answers result) coordinator
      (coordinator.change conversationId f) := by
  refine ⟨operated, fun other tracked => isTracked_change other f ▸ tracked,
    fun other apart => ?_, fun sorted => ⟨sorted.change _ _, ?_⟩⟩
  · rw [lastError?_change, if_neg (by simpa using apart)]
  · rcases waiting_change f sorted found with ⟨others, held, changed⟩
    have answered : (schedule.answers result).map SyncAnswer.waiter = schedule.waiters := by
      simp [ConversationSync.answers, Function.comp_def]
    rw [dismissed, List.nil_append] at changed
    rw [answered]
    exact held.trans (changed.symm.append_left _)

/-! ## While no run ends -/

theorem reschedules_noteActivity :
    Reschedules takesUp [] coordinator (coordinator.noteActivity conversationId instant) :=
  reschedules_change (.of_apply _ (.noteActivity conversationId instant)) (fun _ => rfl)
    fun _ => rfl

theorem reschedules_noteCount (count : Nat) :
    Reschedules takesUp [] coordinator (coordinator.noteCount conversationId count instant) :=
  reschedules_change (.of_apply _ (.noteCount conversationId count instant)) (fun _ => rfl)
    fun _ => rfl

theorem reschedules_skip (pushLive : Bool) :
    Reschedules takesUp [] coordinator (coordinator.skip conversationId instant pushLive) :=
  reschedules_change (.of_apply _ (.skip conversationId instant pushLive)) (fun _ => rfl)
    fun _ => rfl

theorem reschedules_takeInFlight :
    Reschedules takesUp [] coordinator (coordinator.takeInFlight conversationId).2 :=
  reschedules_change (.of_apply _ (.takeInFlight conversationId)) (fun _ => rfl) fun _ => rfl

theorem reschedules_begin (localIds : List String) :
    Reschedules takesUp [] coordinator (coordinator.begin conversationId localIds instant).2 := by
  have operated := Operated.of_apply coordinator (.begin conversationId localIds instant)
  simp only [apply, begin] at operated ⊢
  split
  · exact .refl _
  · next found =>
      simp only [found] at operated
      split
      · exact .refl _
      · next free =>
          rw [if_neg free] at operated
          exact reschedules_change operated (fun _ => rfl) fun _ => rfl

theorem reschedules_triggerAll :
    Reschedules takesUp [] coordinator (coordinator.triggerAll instant) := by
  refine ⟨.of_apply _ (.triggerAll instant), fun other tracked => Or.inl ?_, fun other => ?_,
    fun sorted => ⟨sorted.mapValues _, ?_⟩⟩
  · rcases isTracked_iff.mp tracked with ⟨changed, found⟩
    rw [get?_triggerAll] at found
    rcases Option.map_eq_some_iff.mp found with ⟨schedule, held, -⟩
    exact isTracked_iff.mpr ⟨schedule, held⟩
  · rw [lastError?, get?_triggerAll, Option.bind_map]
    rfl
  · simp [waiting, triggerAll, Keyed.values, Keyed.mapValues, List.flatMap_map]

theorem track_of_tracked (tracked : coordinator.isTracked conversationId = true) :
    coordinator.track conversationId instant = coordinator := by
  rcases isTracked_iff.mp tracked with ⟨schedule, found⟩
  simp only [track, found]

theorem reschedules_track (takes : takesUp conversationId) :
    Reschedules takesUp [] coordinator (coordinator.track conversationId instant) := by
  cases found : coordinator.get? conversationId with
  | some schedule =>
      rw [track_of_tracked (isTracked_iff.mpr ⟨schedule, found⟩)]
      exact .refl _
  | none =>
      refine ⟨.of_apply _ (.track conversationId instant), fun other tracked => ?_,
        fun other => ?_, fun sorted => ⟨sorted_track sorted, ?_⟩⟩
      · by_cases same : other = conversationId
        · exact Or.inr (same ▸ takes)
        · left
          rw [isTracked_iff] at tracked ⊢
          rwa [get?_track, if_neg same] at tracked
      · rw [lastError?, get?_track]
        split
        · next same =>
            rw [lastError?, same, found]
            rfl
        · rfl
      · have absent : coordinator.conversations.contains conversationId = false :=
          untracked_iff.mpr found
        have set := (sorted.perm_values_set conversationId
          (.start coordinator.policy instant)).flatMap_right ConversationSync.waiters
        rw [Keyed.erase_of_absent absent, List.flatMap_cons] at set
        simp only [waiting, track, found]
        exact set.symm

theorem reschedules_trigger (tracked : coordinator.isTracked conversationId = true) :
    Reschedules takesUp [] coordinator (coordinator.trigger conversationId instant) := by
  have operated := Operated.of_apply coordinator (.trigger conversationId instant)
  rw [apply, trigger, track_of_tracked tracked] at operated
  rw [trigger, track_of_tracked tracked]
  exact reschedules_change operated (fun _ => rfl) fun _ => rfl

theorem addWaiter_of_tracked (tracked : coordinator.isTracked conversationId = true)
    (waiter : Nat) :
    (coordinator.addWaiter conversationId waiter).1 = [] ∧
      Reschedules takesUp [waiter] coordinator (coordinator.addWaiter conversationId waiter).2 := by
  have operated := Operated.of_apply coordinator (.addWaiter conversationId waiter)
  simp only [apply, addWaiter, tracked, if_true, true_and] at operated ⊢
  refine ⟨operated, fun other tracked => Or.inl (isTracked_change other _ ▸ tracked),
    fun other => ?_, fun sorted => ⟨sorted.change _ _, ?_⟩⟩
  · rw [lastError?_change]
    split
    · next same => rw [same]; rfl
    · rfl
  · rcases isTracked_iff.mp tracked with ⟨schedule, found⟩
    rcases waiting_change
      (fun schedule => { schedule with waiters := schedule.waiters ++ [waiter] })
      sorted found with ⟨others, held, changed⟩
    refine .trans ?_ changed.symm
    simp only [List.append_assoc]
    exact (held.cons waiter).trans List.perm_middle.symm

/-! ## When runs end -/

theorem concludes_fail :
    Concludes [conversationId] (coordinator.fail conversationId error instant).1 coordinator
      (coordinator.fail conversationId error instant).2 := by
  have operated := Operated.of_apply coordinator (.fail conversationId error instant)
  simp only [apply, fail] at operated ⊢
  split
  · next found =>
      simp only [found] at operated
      exact concludes_change operated _ rfl found
  · exact .refl _

theorem concludes_succeed (summary : SyncSummary) (pushLive : Bool) :
    Concludes [summary.conversationId] (coordinator.succeed summary instant pushLive).1 coordinator
      (coordinator.succeed summary instant pushLive).2 := by
  have operated := Operated.of_apply coordinator (.succeed summary instant pushLive)
  simp only [apply, succeed] at operated ⊢
  split
  · next found =>
      simp only [found] at operated
      exact concludes_change operated _ rfl found
  · exact .refl _

theorem failAll_cons_answers (conversationIds : List String) :
    (coordinator.failAll (conversationId :: conversationIds) error instant).1 =
      (coordinator.fail conversationId error instant).1 ++
        ((coordinator.fail conversationId error instant).2.failAll conversationIds error
          instant).1 := by
  -- The loop carries the answers so far, so the induction is on it with any answers before.
  have gathered (before : List SyncAnswer) (coordinator : SyncCoordinator) :
      (conversationIds.foldl (fun state conversationId =>
        (state.1 ++ (state.2.fail conversationId error instant).1,
          (state.2.fail conversationId error instant).2)) (before, coordinator)).1 =
      before ++ (coordinator.failAll conversationIds error instant).1 := by
    induction conversationIds generalizing before coordinator with
    | nil => exact (List.append_nil before).symm
    | cons next rest gathered =>
        have first := gathered (coordinator.fail next error instant).1
          (coordinator.fail next error instant).2
        rw [List.foldl_cons, gathered, List.append_assoc]
        exact congrArg (before ++ ·) first.symm
  exact gathered _ _

theorem concludes_failAll (conversationIds : List String) :
    Concludes conversationIds (coordinator.failAll conversationIds error instant).1 coordinator
      (coordinator.failAll conversationIds error instant).2 := by
  induction conversationIds generalizing coordinator with
  | nil => exact .refl _
  | cons conversationId conversationIds concludes =>
      rw [failAll_cons_answers, failAll_cons]
      exact concludes_fail.cons concludes

theorem concludes_untrack :
    Concludes [conversationId] (coordinator.untrack conversationId).1 coordinator
      (coordinator.untrack conversationId).2 := by
  have operated := Operated.of_apply coordinator (.untrack conversationId)
  simp only [apply, untrack] at operated ⊢
  split
  · next schedule found =>
      simp only [found] at operated
      refine ⟨operated, fun other tracked => ?_, fun other apart => ?_,
        fun sorted => ⟨sorted.erase _, ?_⟩⟩
      · simp only [isTracked, Keyed.contains_erase, Bool.and_eq_true] at tracked
        exact tracked.2
      · simp only [List.mem_singleton] at apart
        simp only [lastError?, get?, Keyed.get?_erase, if_neg apart]
      · have answered : (schedule.answers (.error .cancelled)).map SyncAnswer.waiter =
            schedule.waiters := by simp [ConversationSync.answers, Function.comp_def]
        rw [answered]
        exact (sorted.perm_values_erase found).flatMap_right _
  · exact .refl _

theorem isTracked_untrack_self :
    (coordinator.untrack conversationId).2.isTracked conversationId = false := by
  simp only [untrack]
  split
  · simp [isTracked, Keyed.contains]
  · next missing => exact untracked_iff.mpr missing

theorem lastError?_of_untracked (untracked : coordinator.isTracked conversationId = false) :
    coordinator.lastError? conversationId = none := by
  rw [lastError?, untracked_iff.mp untracked]
  rfl

/-- When all who wait are turned away, the answers are those to all of them. -/
theorem rejectWaiters_answers (error : SyncError) :
    (coordinator.rejectWaiters error).1.map SyncAnswer.waiter = coordinator.waiting := by
  simp [rejectWaiters, waiting, List.map_flatMap, ConversationSync.answers, Function.comp_def]

end SyncCoordinator

end MessageSync
