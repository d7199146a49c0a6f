import MessageSync.Proofs.Keyed
import MessageSync.Schedule.Coordinator

/-!
# What the coordinator keeps

Apart from dropping a conversation and from noting a request or a caller, nothing that is done to
the coordinator makes it lose a conversation, wait for an answer or owe one. When all requests that
wait are abandoned, none waits any longer, and the callers that are left are those of conversations
without a request.
-/

namespace MessageSync

namespace SyncCoordinator

variable {coordinator before middle after : SyncCoordinator} {conversationId : String}

/-- No conversation is lost, and the conversations stay in their order. -/
structure Retains (before after : SyncCoordinator) : Prop where
  tracked : ∀ conversationId, before.isTracked conversationId = true →
    after.isTracked conversationId = true
  sorted : before.conversations.Sorted → after.conversations.Sorted

/-- A caller waits for the next sync run of the conversation to finish. -/
def Awaited (coordinator : SyncCoordinator) (conversationId : String) : Prop :=
  ∃ schedule, coordinator.get? conversationId = some schedule ∧ schedule.waiters ≠ []

/-- A caller waits for a sync run of the conversation that has not begun. -/
def Unstarted (coordinator : SyncCoordinator) (conversationId : String) : Prop :=
  ∃ schedule, coordinator.get? conversationId = some schedule ∧ schedule.waiters ≠ [] ∧
    schedule.inFlight = none

/-- No conversation has its first caller. -/
def Dismisses (before after : SyncCoordinator) : Prop :=
  ∀ conversationId, after.Awaited conversationId → before.Awaited conversationId

/-- Also, no request is new. -/
structure Tame (before after : SyncCoordinator) : Prop extends Retains before after where
  inFlight : ∀ conversationId, after.isInFlight conversationId = true →
    before.isInFlight conversationId = true

/-- Also, no caller is new. -/
structure Hushed (before after : SyncCoordinator) : Prop extends Tame before after where
  dismisses : before.Dismisses after

/-- Only the schedule of the conversation differs, and no caller is new. -/
structure ChangesOnly (conversationId : String) (before after : SyncCoordinator) : Prop extends
    Retains before after where
  others : ∀ other, other ≠ conversationId → after.get? other = before.get? other
  dismisses : before.Dismisses after

theorem Retains.refl (coordinator : SyncCoordinator) : Retains coordinator coordinator :=
  ⟨fun _ tracked => tracked, id⟩

theorem Retains.trans (first : Retains before middle) (second : Retains middle after) :
    Retains before after :=
  ⟨fun conversationId tracked => second.tracked _ (first.tracked conversationId tracked),
    fun sorted => second.sorted (first.sorted sorted)⟩

theorem Tame.refl (coordinator : SyncCoordinator) : Tame coordinator coordinator :=
  ⟨.refl coordinator, fun _ waits => waits⟩

theorem Hushed.refl (coordinator : SyncCoordinator) : Hushed coordinator coordinator :=
  ⟨.refl coordinator, fun _ awaited => awaited⟩

theorem ChangesOnly.refl (coordinator : SyncCoordinator) :
    ChangesOnly conversationId coordinator coordinator :=
  ⟨.refl coordinator, fun _ _ => rfl, fun _ awaited => awaited⟩

theorem Tame.trans (first : Tame before middle) (second : Tame middle after) : Tame before after :=
  ⟨first.toRetains.trans second.toRetains,
    fun conversationId waits => first.inFlight _ (second.inFlight conversationId waits)⟩

theorem Hushed.trans (first : Hushed before middle) (second : Hushed middle after) :
    Hushed before after :=
  ⟨first.toTame.trans second.toTame,
    fun conversationId awaited => first.dismisses _ (second.dismisses conversationId awaited)⟩

/-! ## Changes of one schedule -/

theorem get?_change (other : String) (f : ConversationSync → ConversationSync) :
    (coordinator.change conversationId f).get? other =
      if other = conversationId then (coordinator.get? conversationId).map f
      else coordinator.get? other :=
  Keyed.get?_change conversationId other f

theorem isTracked_iff :
    coordinator.isTracked conversationId = true ↔
      ∃ schedule, coordinator.get? conversationId = some schedule :=
  Option.isSome_iff_exists

theorem retains_change (f : ConversationSync → ConversationSync) :
    Retains coordinator (coordinator.change conversationId f) := by
  refine ⟨?_, fun sorted => sorted.change _ _⟩
  intro other tracked
  rw [isTracked_iff] at *
  rcases tracked with ⟨schedule, found⟩
  rw [get?_change]
  split
  · next same =>
      subst same
      exact ⟨f schedule, by rw [found]; rfl⟩
  · exact ⟨schedule, found⟩

/-- A change of a schedule makes no caller wait if it adds none to those that wait. -/
theorem dismisses_change {f : ConversationSync → ConversationSync}
    (fewer : ∀ schedule, (f schedule).waiters ⊆ schedule.waiters) :
    Dismisses coordinator (coordinator.change conversationId f) := by
  rintro other ⟨changed, found, waits⟩
  rw [get?_change] at found
  split at found
  · next same =>
      rcases Option.map_eq_some_iff.mp found with ⟨schedule, held, rfl⟩
      refine ⟨schedule, by rw [same, held], fun none => waits ?_⟩
      exact List.subset_nil.mp (none ▸ fewer schedule)
  · exact ⟨changed, found, waits⟩

theorem changesOnly_change {f : ConversationSync → ConversationSync}
    (fewer : ∀ schedule, (f schedule).waiters ⊆ schedule.waiters) :
    ChangesOnly conversationId coordinator (coordinator.change conversationId f) :=
  ⟨retains_change f, fun other different => by rw [get?_change, if_neg different],
    dismisses_change fewer⟩

/-- A change of a schedule is tame if it does not make it wait. -/
theorem tame_change {f : ConversationSync → ConversationSync}
    (waits : ∀ schedule, (f schedule).inFlight.isSome = true → schedule.inFlight.isSome = true) :
    Tame coordinator (coordinator.change conversationId f) := by
  refine ⟨retains_change f, ?_⟩
  intro other inFlight
  simp only [isInFlight, get?_change] at *
  split at inFlight
  · next same =>
      subst same
      cases found : coordinator.get? other with
      | none => simp [found] at inFlight
      | some schedule =>
          rw [found] at inFlight
          exact waits schedule inFlight
  · exact inFlight

theorem hushed_change {f : ConversationSync → ConversationSync}
    (inFlight : ∀ schedule,
      (f schedule).inFlight = schedule.inFlight ∨ (f schedule).inFlight = none)
    (fewer : ∀ schedule, (f schedule).waiters ⊆ schedule.waiters) :
    Hushed coordinator (coordinator.change conversationId f) := by
  refine ⟨tame_change fun schedule waits => ?_, dismisses_change fewer⟩
  rcases inFlight schedule with same | ended
  · rwa [same] at waits
  · simp [ended] at waits

/-! ## The operations -/

variable {instant : Instant}

theorem get?_track (other : String) :
    (coordinator.track conversationId instant).get? other =
      if other = conversationId then
        some ((coordinator.get? conversationId).getD (.start coordinator.policy instant))
      else coordinator.get? other := by
  simp only [track]
  cases found : coordinator.get? conversationId with
  | some schedule =>
      by_cases same : other = conversationId
      · simp [same, found]
      · simp [same]
  | none =>
      change (coordinator.conversations.set _ _).get? other = _
      rw [Keyed.get?_set]
      rfl

theorem isTracked_track : (coordinator.track conversationId instant).isTracked conversationId := by
  rw [isTracked_iff, get?_track, if_pos rfl]
  exact ⟨_, rfl⟩

theorem sorted_track (sorted : coordinator.conversations.Sorted) :
    (coordinator.track conversationId instant).conversations.Sorted := by
  simp only [track]
  split
  · exact sorted
  · exact sorted.set _ _

theorem hushed_track : Hushed coordinator (coordinator.track conversationId instant) := by
  refine ⟨⟨⟨?_, sorted_track⟩, ?_⟩, ?_⟩
  · intro other tracked
    rw [isTracked_iff] at *
    rcases tracked with ⟨schedule, found⟩
    rw [get?_track]
    split
    · exact ⟨_, rfl⟩
    · exact ⟨schedule, found⟩
  · intro other waits
    simp only [isInFlight, get?_track] at *
    split at waits
    · next same =>
        subst same
        cases found : coordinator.get? other with
        | some schedule => simpa [found] using waits
        | none => simp [found, ConversationSync.start] at waits
    · exact waits
  · rintro other ⟨schedule, found, waits⟩
    rw [get?_track] at found
    split at found
    · next same =>
        subst same
        cases held : coordinator.get? other with
        | some before =>
            rw [held] at found
            cases found
            exact ⟨_, held, waits⟩
        | none =>
            rw [held] at found
            cases found
            exact absurd rfl waits
    · exact ⟨schedule, found, waits⟩

theorem hushed_trigger : Hushed coordinator (coordinator.trigger conversationId instant) :=
  hushed_track.trans (hushed_change (fun _ => Or.inl rfl) fun _ => List.Subset.refl _)

theorem get?_triggerAll (other : String) :
    (coordinator.triggerAll instant).get? other =
      (coordinator.get? other).map ({ · with nextDue := instant }) :=
  Keyed.get?_mapValues other _

theorem hushed_triggerAll : Hushed coordinator (coordinator.triggerAll instant) := by
  refine ⟨⟨⟨?_, fun sorted => sorted.mapValues _⟩, ?_⟩, ?_⟩
  · intro other tracked
    rw [isTracked_iff] at *
    rcases tracked with ⟨schedule, held⟩
    exact ⟨_, by rw [get?_triggerAll, held]; rfl⟩
  · intro other waits
    simp only [isInFlight, get?_triggerAll] at *
    cases held : coordinator.get? other with
    | some schedule => simpa [held] using waits
    | none => simp [held] at waits
  · rintro other ⟨changed, found, waits⟩
    rw [get?_triggerAll] at found
    rcases Option.map_eq_some_iff.mp found with ⟨schedule, held, rfl⟩
    exact ⟨schedule, held, waits⟩

theorem hushed_noteActivity :
    Hushed coordinator (coordinator.noteActivity conversationId instant) :=
  hushed_change (fun _ => Or.inl rfl) fun _ => List.Subset.refl _

theorem changesOnly_noteCount (count : Nat) :
    ChangesOnly conversationId coordinator (coordinator.noteCount conversationId count instant) :=
  changesOnly_change fun _ => List.Subset.refl _

theorem hushed_noteCount (count : Nat) :
    Hushed coordinator (coordinator.noteCount conversationId count instant) :=
  hushed_change (fun _ => Or.inl rfl) fun _ => List.Subset.refl _

theorem changesOnly_skip (pushLive : Bool) :
    ChangesOnly conversationId coordinator (coordinator.skip conversationId instant pushLive) :=
  changesOnly_change fun _ => List.Subset.refl _

theorem hushed_skip (pushLive : Bool) :
    Hushed coordinator (coordinator.skip conversationId instant pushLive) :=
  hushed_change (fun _ => Or.inl rfl) fun _ => List.Subset.refl _

theorem hushed_takeInFlight : Hushed coordinator (coordinator.takeInFlight conversationId).2 :=
  hushed_change (fun _ => Or.inr rfl) fun _ => List.Subset.refl _

theorem tame_addWaiter (waiter : Nat) :
    Tame coordinator (coordinator.addWaiter conversationId waiter).2 := by
  simp only [addWaiter]
  split
  · exact tame_change fun _ waits => waits
  · exact .refl _

theorem hushed_succeed (summary : SyncSummary) (pushLive : Bool) :
    Hushed coordinator (coordinator.succeed summary instant pushLive).2 := by
  simp only [succeed]
  split
  · exact hushed_change (fun _ => Or.inr rfl) fun _ => List.nil_subset _
  · exact .refl _

theorem changesOnly_succeed (summary : SyncSummary) (pushLive : Bool) :
    ChangesOnly summary.conversationId coordinator
      (coordinator.succeed summary instant pushLive).2 := by
  simp only [succeed]
  split
  · exact changesOnly_change fun _ => List.nil_subset _
  · exact .refl _

variable {error : SyncError}

theorem hushed_fail : Hushed coordinator (coordinator.fail conversationId error instant).2 := by
  simp only [fail]
  split
  · exact hushed_change (fun _ => Or.inr rfl) fun _ => List.nil_subset _
  · exact .refl _

theorem changesOnly_fail :
    ChangesOnly conversationId coordinator (coordinator.fail conversationId error instant).2 := by
  simp only [fail]
  split
  · exact changesOnly_change fun _ => List.nil_subset _
  · exact .refl _

theorem isInFlight_fail :
    (coordinator.fail conversationId error instant).2.isInFlight conversationId = false := by
  simp only [fail]
  split
  · next found =>
      simp only [isInFlight, get?_change, if_true, found]
      rfl
  · next missing => simp [isInFlight, missing]

theorem retains_rejectWaiters (error : SyncError) :
    Retains coordinator (coordinator.rejectWaiters error).2 := by
  refine ⟨?_, fun sorted => sorted.mapValues _⟩
  intro other tracked
  rw [isTracked_iff] at *
  rcases tracked with ⟨schedule, found⟩
  refine ⟨{ schedule with waiters := [] }, ?_⟩
  change (coordinator.conversations.mapValues _).get? other = _
  rw [Keyed.get?_mapValues, show coordinator.conversations.get? other = some schedule from found]
  rfl

/-! ## Giving up -/

/-- The answers that are gathered on the way do not matter for the schedules. -/
theorem failAll_eq_foldl (conversationIds : List String) :
    (coordinator.failAll conversationIds error instant).2 =
      conversationIds.foldl (fun coordinator conversationId =>
        (coordinator.fail conversationId error instant).2) coordinator :=
  (List.foldl_hom Prod.snd fun _ _ => rfl).symm

theorem failAll_cons (conversationIds : List String) :
    (coordinator.failAll (conversationId :: conversationIds) error instant).2 =
      ((coordinator.fail conversationId error instant).2.failAll conversationIds error
        instant).2 := by
  rw [failAll_eq_foldl, failAll_eq_foldl, List.foldl_cons]

theorem hushed_failAll (conversationIds : List String) :
    Hushed coordinator (coordinator.failAll conversationIds error instant).2 := by
  induction conversationIds generalizing coordinator with
  | nil => exact .refl _
  | cons conversationId conversationIds hushed =>
      rw [failAll_cons]
      exact hushed_fail.trans hushed

theorem isInFlight_failAll {conversationIds : List String}
    (mem : conversationId ∈ conversationIds) :
    (coordinator.failAll conversationIds error instant).2.isInFlight conversationId = false := by
  induction conversationIds generalizing coordinator with
  | nil => cases mem
  | cons other conversationIds ended =>
      rw [failAll_cons]
      rcases List.mem_cons.mp mem with rfl | mem
      · rw [← Bool.not_eq_true]
        intro waits
        have waited := (hushed_failAll conversationIds).inFlight conversationId waits
        rw [isInFlight_fail] at waited
        cases waited
      · exact ended mem

theorem hushed_abandonInFlight :
    Hushed coordinator (coordinator.abandonInFlight error instant).2.2 :=
  hushed_failAll _

theorem isInFlight_abandonInFlight (conversationId : String) :
    (coordinator.abandonInFlight error instant).2.2.isInFlight conversationId = false := by
  rw [← Bool.not_eq_true]
  intro waits
  have waited := hushed_abandonInFlight.inFlight conversationId waits
  simp only [isInFlight, Option.any_eq_true] at waited
  rcases waited with ⟨schedule, found, inFlight⟩
  have listed : conversationId ∈
      coordinator.conversations.keysThat fun schedule => schedule.inFlight.isSome :=
    Keyed.mem_keysThat_of_get? found inFlight
  rw [abandonInFlight, isInFlight_failAll listed] at waits
  cases waits

theorem get?_failAll_of_not_mem {conversationIds : List String}
    (other : conversationId ∉ conversationIds) :
    (coordinator.failAll conversationIds error instant).2.get? conversationId =
      coordinator.get? conversationId := by
  induction conversationIds generalizing coordinator with
  | nil => rfl
  | cons first conversationIds same =>
      rw [List.mem_cons, not_or] at other
      rw [failAll_cons, same other.2]
      exact changesOnly_fail.others _ other.1

theorem not_awaited_fail :
    ¬(coordinator.fail conversationId error instant).2.Awaited conversationId := by
  rintro ⟨schedule, found, waits⟩
  simp only [fail] at found
  split at found
  · rw [get?_change, if_pos rfl] at found
    rcases Option.map_eq_some_iff.mp found with ⟨before, -, rfl⟩
    exact waits rfl
  · next missing => cases missing.symm.trans found

theorem not_awaited_failAll {conversationIds : List String}
    (mem : conversationId ∈ conversationIds) :
    ¬(coordinator.failAll conversationIds error instant).2.Awaited conversationId := by
  induction conversationIds generalizing coordinator with
  | nil => cases mem
  | cons other conversationIds answered =>
      rw [failAll_cons]
      rcases List.mem_cons.mp mem with rfl | mem
      · exact fun awaited =>
          not_awaited_fail ((hushed_failAll conversationIds).dismisses _ awaited)
      · exact answered mem

/-- Giving up on the requests that wait leaves the callers of the conversations without one. -/
theorem awaited_abandonInFlight (sorted : coordinator.conversations.Sorted) :
    (coordinator.abandonInFlight error instant).2.2.Awaited conversationId ↔
      coordinator.Unstarted conversationId := by
  constructor
  · intro awaited
    rcases hushed_abandonInFlight.dismisses _ awaited with ⟨schedule, found, waits⟩
    refine ⟨schedule, found, waits, ?_⟩
    rw [← Option.not_isSome_iff_eq_none]
    intro inFlight
    exact not_awaited_failAll (Keyed.mem_keysThat_of_get? found inFlight) awaited
  · rintro ⟨schedule, found, waits, free⟩
    refine ⟨schedule, ?_, waits⟩
    rw [abandonInFlight, get?_failAll_of_not_mem, found]
    intro mem
    rcases sorted.get?_of_mem_keysThat mem with ⟨other, held, inFlight⟩
    cases held.symm.trans found
    rw [free] at inFlight
    cases inFlight

/-! ## Taking a request -/

theorem inFlight_of_waits_not {schedule : ConversationSync}
    (free : coordinator.isInFlight conversationId = false)
    (found : coordinator.get? conversationId = some schedule) : schedule.inFlight = none := by
  simpa [isInFlight, found] using free

/-- Of a conversation that waits for no answer, no request is taken, and nothing changes. -/
theorem takeInFlight_of_waits_not (free : coordinator.isInFlight conversationId = false) :
    (coordinator.takeInFlight conversationId).1 = none ∧
      ∀ other, (coordinator.takeInFlight conversationId).2.get? other = coordinator.get? other := by
  simp only [takeInFlight, get?_change]
  cases found : coordinator.get? conversationId with
  | none =>
      refine ⟨rfl, fun other => ?_⟩
      split
      · next same => simp [same, found]
      · rfl
  | some schedule =>
      have none := inFlight_of_waits_not free found
      refine ⟨by simp [none], fun other => ?_⟩
      split
      · next same => simp [same, found, ← none]
      · rfl

theorem takeInFlight_eq_self (sorted : coordinator.conversations.Sorted)
    (free : coordinator.isInFlight conversationId = false) :
    (coordinator.takeInFlight conversationId).2 = coordinator := by
  have same : coordinator.conversations.change conversationId ({ · with inFlight := none }) =
      coordinator.conversations :=
    sorted.change_eq_self fun schedule found => by rw [← inFlight_of_waits_not free found]
  rw [takeInFlight, change, same]

/-! ## Noting a request -/

/-- A request of a conversation that waits for none is noted, with its local ids and its
deadline. -/
theorem begin_of_waits_not {schedule : ConversationSync} {localIds : List String}
    (found : coordinator.get? conversationId = some schedule) (free : schedule.inFlight = none) :
    coordinator.begin conversationId localIds instant =
      (true, coordinator.change conversationId ({ · with
        inFlight :=
          some ⟨instant + coordinator.policy.responseTimeout, localIds.eraseDups⟩ })) := by
  simp only [begin, found, free, Option.isSome_none, Bool.false_eq_true, reduceIte]

theorem changesOnly_begin (localIds : List String) :
    ChangesOnly conversationId coordinator
      (coordinator.begin conversationId localIds instant).2 := by
  simp only [begin]
  split
  · exact .refl _
  · split
    · exact .refl _
    · exact changesOnly_change fun _ => List.Subset.refl _

theorem isInFlight_untrack {other : String}
    (waits : (coordinator.untrack conversationId).2.isInFlight other = true) :
    coordinator.isInFlight other = true := by
  simp only [untrack] at waits
  split at waits
  · simp only [isInFlight, get?, Keyed.get?_erase] at *
    split at waits
    · cases waits
    · exact waits
  · exact waits

theorem isTracked_untrack {other : String} (different : other ≠ conversationId)
    (tracked : coordinator.isTracked other = true) :
    (coordinator.untrack conversationId).2.isTracked other = true := by
  simp only [untrack]
  split
  · simp only [isTracked, Keyed.contains, Keyed.get?_erase, if_neg different]
    exact tracked
  · exact tracked

theorem dismisses_untrack : Dismisses coordinator (coordinator.untrack conversationId).2 := by
  rintro other ⟨schedule, found, waits⟩
  simp only [untrack] at found
  split at found
  · simp only [get?, Keyed.get?_erase] at found
    split at found
    · cases found
    · exact ⟨schedule, found, waits⟩
  · exact ⟨schedule, found, waits⟩

theorem sorted_untrack (sorted : coordinator.conversations.Sorted) :
    (coordinator.untrack conversationId).2.conversations.Sorted := by
  simp only [untrack]
  split
  · exact sorted.erase _
  · exact sorted

/-! ## What is due -/

theorem mem_due_iff (sorted : coordinator.conversations.Sorted) :
    conversationId ∈ coordinator.due instant ↔
      ∃ schedule, coordinator.get? conversationId = some schedule ∧
        schedule.isDue instant = true :=
  sorted.mem_keysThat_iff

theorem mem_timedOut_iff (sorted : coordinator.conversations.Sorted) :
    conversationId ∈ coordinator.timedOut instant ↔
      ∃ schedule, coordinator.get? conversationId = some schedule ∧
        schedule.hasTimedOut instant = true :=
  sorted.mem_keysThat_iff

/-- A conversation that is due waits for no answer. -/
theorem waits_not_of_mem_due (sorted : coordinator.conversations.Sorted)
    (mem : conversationId ∈ coordinator.due instant) :
    ∃ schedule, coordinator.get? conversationId = some schedule ∧ schedule.inFlight = none := by
  rcases sorted.get?_of_mem_keysThat mem with ⟨schedule, found, isDue⟩
  rw [ConversationSync.isDue, Bool.and_eq_true, Option.isNone_iff_eq_none] at isDue
  exact ⟨schedule, found, isDue.1⟩

/-- When all conversations are made due, those that wait for no answer are. -/
theorem mem_due_triggerAll
    (tracked : (coordinator.triggerAll instant).isTracked conversationId = true)
    (rests : (coordinator.triggerAll instant).isInFlight conversationId = false) :
    conversationId ∈ (coordinator.triggerAll instant).due instant := by
  rcases isTracked_iff.mp tracked with ⟨changed, found⟩
  refine Keyed.mem_keysThat_of_get? found ?_
  have noFlight : changed.inFlight = none := by simpa [isInFlight, found] using rests
  rw [get?_triggerAll] at found
  rcases Option.map_eq_some_iff.mp found with ⟨schedule, held, rfl⟩
  simpa [ConversationSync.isDue] using noFlight

theorem nodup_due (sorted : coordinator.conversations.Sorted) :
    (coordinator.due instant).Nodup :=
  sorted.nodup_keysThat _

theorem exists_min?_le {instants : List Instant} (mem : instant ∈ instants) :
    ∃ earliest, instants.min? = some earliest ∧ earliest ≤ instant := by
  cases least : instants.min? with
  | none =>
      rw [List.min?_eq_none_iff] at least
      rw [least] at mem
      cases mem
  | some earliest => exact ⟨earliest, rfl, (List.min?_eq_some_iff.mp least).2 _ mem⟩

/-- The coordinator wakes up no later than any of its conversations is to. -/
theorem exists_nextWakeup {schedule : ConversationSync}
    (found : coordinator.get? conversationId = some schedule) :
    ∃ wake, coordinator.nextWakeup = some wake ∧ wake ≤ schedule.wakeup := by
  have mem : schedule.wakeup ∈ coordinator.conversations.values.map ConversationSync.wakeup :=
    List.mem_map_of_mem (List.mem_map_of_mem (Keyed.mem_entries_of_get? found))
  exact exists_min?_le mem

end SyncCoordinator

end MessageSync
