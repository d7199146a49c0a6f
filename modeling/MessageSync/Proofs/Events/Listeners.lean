import Mathlib.Data.List.Induction
import Mathlib.Data.List.Nodup
import MessageSync.Proofs.Engine.Computations

/-!
# Listeners over time

Listeners of messages, of sync runs and of updates come and go in any order, and share one sequence
of numbers, but they are kept in two maps and a list. All these together are one roll on which all
listeners stand in the order in which they came: the list of an interest is what the roll has of it,
and every operation keeps that so.

Whether a listener is still there is a matter of the whole history: it was registered, and since then
neither it was removed nor all were. After any history those on the roll are still there, and they
are the ones that are told of an event.
-/

namespace MessageSync

/-- The interest of those who are told of an event. -/
def Event.audience : Event → Interest
  | .message record => .messages record.conversationId
  | .syncComplete summary => .syncRuns summary.conversationId
  | .update _ => .updates

/-- All listeners in the order of their registration, and the next number. -/
structure Roll where
  entries : List (ListenerId × Interest)
  next : ListenerId

namespace Roll

variable {roll : Roll} {interest other : Interest} {id : ListenerId}

/-- Nobody on the roll, and no number given out. -/
def empty : Roll := ⟨[], 0⟩

/-- Puts a listener at the end of the roll. -/
def register (roll : Roll) (interest : Interest) : Roll :=
  ⟨roll.entries ++ [(roll.next, interest)], roll.next + 1⟩

/-- Takes a listener off the roll. -/
def remove (roll : Roll) (id : ListenerId) : Roll :=
  { roll with entries := roll.entries.filter fun entry => entry.1 != id }

/-- Takes all listeners off the roll. -/
def clear (roll : Roll) : Roll :=
  { roll with entries := [] }

/-- The listeners of an interest. -/
def of (roll : Roll) (interest : Interest) : List ListenerId :=
  (roll.entries.filter fun entry => entry.2 = interest).map Prod.fst

theorem mem_of : id ∈ roll.of interest ↔ (id, interest) ∈ roll.entries := by
  simp [of]

theorem of_register : (roll.register interest).of other =
    if other = interest then roll.of other ++ [roll.next] else roll.of other := by
  by_cases same : other = interest
  · simp [register, of, same]
  · simp [register, of, same, Ne.symm same]

theorem of_remove : (roll.remove id).of interest = (roll.of interest).filter (· != id) := by
  simp only [remove, of, List.filter_map, List.filter_filter]
  exact congrArg (List.map Prod.fst) (List.filter_congr fun _ _ => Bool.and_comm _ _)

end Roll

namespace Listeners

variable {listeners : Listeners} {lists : Keyed (List ListenerId)} {ids : List ListenerId}
  {id : ListenerId} {interest other : Interest}

/-! ## The lists -/

/-- The listeners of an interest. -/
def of (listeners : Listeners) : Interest → List ListenerId
  | .messages conversationId => (listeners.messages.get? conversationId).getD []
  | .syncRuns conversationId => (listeners.syncRuns.get? conversationId).getD []
  | .updates => listeners.updates

theorem called_eq (event : Event) : listeners.called event = listeners.of event.audience := by
  cases event <;> rfl

theorem get?_addUnder (conversationId key : String) :
    ((addUnder conversationId id lists).get? key).getD [] =
      if key = conversationId then (lists.get? key).getD [] ++ [id]
      else (lists.get? key).getD [] := by
  rw [addUnder, Keyed.get?_set]
  split
  · next same => rw [same, Option.getD_some]
  · rfl

theorem strike_eq_true_iff : (strike id ids).1 = true ↔ id ∈ ids := by
  simp only [strike, bne_iff_ne, ne_eq, List.length_filter_eq_length_iff, not_forall,
    Decidable.not_not]
  constructor
  · rintro ⟨_, mem, rfl⟩
    exact mem
  · intro mem
    exact ⟨id, mem, rfl⟩

theorem strikeAll_eq_true_iff (sorted : lists.Sorted) :
    (strikeAll id lists).1 = true ↔ ∃ key, id ∈ (lists.get? key).getD [] := by
  simp only [strikeAll, List.any_eq_true, strike_eq_true_iff, sorted.mem_values_iff]
  constructor
  · rintro ⟨ids, ⟨key, found⟩, mem⟩
    exact ⟨key, by rwa [found]⟩
  · rintro ⟨key, mem⟩
    cases found : lists.get? key with
    | none => simp [found] at mem
    | some ids => exact ⟨ids, ⟨key, found⟩, by rwa [found] at mem⟩

/-- Every conversation of a map of lists has listeners. -/
structure Tidy (lists : Keyed (List ListenerId)) : Prop where
  sorted : lists.Sorted
  filled : ∀ key, lists.get? key ≠ some []

theorem tidy_empty : Tidy .empty :=
  ⟨Keyed.sorted_empty, nofun⟩

theorem Tidy.addUnder (tidy : Tidy lists) (conversationId : String) (id : ListenerId) :
    Tidy (addUnder conversationId id lists) := by
  refine ⟨tidy.sorted.set _ _, fun key => ?_⟩
  rw [Listeners.addUnder, Keyed.get?_set]
  split
  · simp
  · exact tidy.filled key

/-- A conversation that is dropped had no listeners left. -/
theorem get?_prune (sorted : lists.Sorted) (key : String) :
    ((prune lists).get? key).getD [] = (lists.get? key).getD [] := by
  rw [prune, sorted.get?_keep]
  cases lists.get? key with
  | none => rfl
  | some ids => cases ids <;> rfl

theorem tidy_prune (sorted : lists.Sorted) : Tidy (prune lists) := by
  refine ⟨sorted.keep _, fun key => ?_⟩
  rw [prune, sorted.get?_keep, ne_eq, Option.filter_eq_some_iff]
  rintro ⟨-, filled⟩
  cases filled

theorem sorted_strikeAll (sorted : lists.Sorted) : (strikeAll id lists).2.Sorted :=
  sorted.mapValues _

theorem get?_prune_strikeAll (sorted : lists.Sorted) (key : String) :
    ((prune (strikeAll id lists).2).get? key).getD [] =
      ((lists.get? key).getD []).filter (· != id) := by
  rw [get?_prune (sorted_strikeAll sorted), strikeAll, Keyed.get?_mapValues]
  cases lists.get? key <;> rfl

/-! ## The roll -/

/-- The lists are what the roll has of their interests, and the numbers go on alike. -/
structure Refines (listeners : Listeners) (roll : Roll) : Prop where
  lists : ∀ interest, listeners.of interest = roll.of interest
  next : listeners.next = roll.next
  messages : Tidy listeners.messages
  syncRuns : Tidy listeners.syncRuns

variable {roll : Roll}

theorem refines_empty : Refines empty .empty where
  lists interest := by cases interest <;> rfl
  next := rfl
  messages := tidy_empty
  syncRuns := tidy_empty

theorem of_register : (listeners.register interest).2.of other =
    if other = interest then listeners.of other ++ [listeners.next] else listeners.of other := by
  cases interest <;> cases other <;> simp [register, of, get?_addUnder]

theorem Refines.register (refines : listeners.Refines roll) (interest : Interest) :
    Refines (listeners.register interest).2 (roll.register interest) where
  lists other := by rw [of_register, Roll.of_register, refines.lists, refines.next]
  next := by cases interest <;> exact congrArg (· + 1) refines.next
  messages := by
    cases interest with
    | messages conversationId => exact refines.messages.addUnder conversationId _
    | syncRuns | updates => exact refines.messages
  syncRuns := by
    cases interest with
    | syncRuns conversationId => exact refines.syncRuns.addUnder conversationId _
    | messages | updates => exact refines.syncRuns

theorem Refines.remove (refines : listeners.Refines roll) (id : ListenerId) :
    Refines (listeners.remove id).2 (roll.remove id) where
  lists interest := by
    rw [Roll.of_remove, ← refines.lists]
    cases interest with
    | messages conversationId => exact get?_prune_strikeAll refines.messages.sorted conversationId
    | syncRuns conversationId => exact get?_prune_strikeAll refines.syncRuns.sorted conversationId
    | updates => rfl
  next := refines.next
  messages := tidy_prune (sorted_strikeAll refines.messages.sorted)
  syncRuns := tidy_prune (sorted_strikeAll refines.syncRuns.sorted)

theorem Refines.clear (refines : listeners.Refines roll) : listeners.clear.Refines roll.clear where
  lists interest := by cases interest <;> rfl
  next := refines.next
  messages := tidy_empty
  syncRuns := tidy_empty

/-- All three kinds of lists are searched, so a listener is found wherever it is. -/
theorem Refines.remove_eq_true_iff (refines : listeners.Refines roll) :
    (listeners.remove id).1 = true ↔ ∃ interest, (id, interest) ∈ roll.entries := by
  simp only [Listeners.remove, Bool.or_eq_true, strike_eq_true_iff,
    strikeAll_eq_true_iff refines.messages.sorted, strikeAll_eq_true_iff refines.syncRuns.sorted,
    ← Roll.mem_of, ← refines.lists]
  constructor
  · rintro ((⟨key, mem⟩ | ⟨key, mem⟩) | mem)
    · exact ⟨.messages key, mem⟩
    · exact ⟨.syncRuns key, mem⟩
    · exact ⟨.updates, mem⟩
  · rintro ⟨interest, mem⟩
    cases interest with
    | messages key => exact Or.inl (Or.inl ⟨key, mem⟩)
    | syncRuns key => exact Or.inl (Or.inr ⟨key, mem⟩)
    | updates => exact Or.inr mem

/-! ## Operations -/

/-- What is done to the listeners. -/
inductive Operation where
  | register (interest : Interest)
  | remove (id : ListenerId)
  | clear

/-- A listener is registered. -/
def Operation.registers : Operation → Bool
  | .register _ => true
  | .remove _ | .clear => false

/-- The listeners after an operation. What the operation returns is left out. -/
def apply (listeners : Listeners) : Operation → Listeners
  | .register interest => (listeners.register interest).2
  | .remove id => (listeners.remove id).2
  | .clear => listeners.clear

/-- The listeners that a history of operations leads to. -/
def reached (operations : List Operation) : Listeners :=
  operations.foldl apply empty

/-- The roll after an operation. -/
def Operation.enter (roll : Roll) : Operation → Roll
  | .register interest => roll.register interest
  | .remove id => roll.remove id
  | .clear => roll.clear

/-- The roll that a history of operations leads to. -/
def rollOf (operations : List Operation) : Roll :=
  operations.foldl Operation.enter .empty

/-- The numbers that an operation returns. -/
def returned (listeners : Listeners) : Operation → List ListenerId
  | .register interest => [(listeners.register interest).1]
  | .remove _ | .clear => []

/-- The numbers that further operations return, in order. -/
def returnedFrom (listeners : Listeners) : List Operation → List ListenerId
  | [] => []
  | operation :: operations =>
    listeners.returned operation ++ (listeners.apply operation).returnedFrom operations

/-- The numbers that were given out in a history, in order. -/
def given (operations : List Operation) : List ListenerId :=
  empty.returnedFrom operations

/-- The number was given to a listener of that interest, and since then neither it was removed nor
all were. -/
def Live (operations : List Operation) (id : ListenerId) (interest : Interest) : Prop :=
  ∃ earlier later, operations = earlier ++ .register interest :: later ∧
    ((reached earlier).register interest).1 = id ∧ .remove id ∉ later ∧ .clear ∉ later

variable {operations : List Operation} {operation : Operation}

theorem reached_append_singleton :
    reached (operations ++ [operation]) = (reached operations).apply operation := by
  simp [reached]

theorem rollOf_append_singleton :
    rollOf (operations ++ [operation]) = operation.enter (rollOf operations) := by
  simp [rollOf]

/-- After any history the maps and the list together are the roll. -/
theorem refines_reached (operations : List Operation) :
    (reached operations).Refines (rollOf operations) := by
  induction operations using List.reverseRecOn with
  | nil => exact refines_empty
  | append_singleton operations operation refines =>
      rw [reached_append_singleton, rollOf_append_singleton]
      cases operation with
      | register interest => exact refines.register interest
      | remove id => exact refines.remove id
      | clear => exact refines.clear

/-! ## Numbers -/

theorem returnedFrom_append_singleton (listeners : Listeners) :
    listeners.returnedFrom (operations ++ [operation]) =
      listeners.returnedFrom operations ++
        (operations.foldl apply listeners).returned operation := by
  induction operations generalizing listeners with
  | nil => simp [returnedFrom]
  | cons first operations later =>
      rw [List.cons_append, returnedFrom, later, returnedFrom, List.append_assoc]
      rfl

theorem given_append_singleton :
    given (operations ++ [operation]) =
      given operations ++ (reached operations).returned operation :=
  returnedFrom_append_singleton empty

theorem register_fst (listeners : Listeners) (interest : Interest) :
    (listeners.register interest).1 = listeners.next := by
  cases interest <;> rfl

/-- The next number is the count of those given out. -/
theorem next_reached (operations : List Operation) :
    (reached operations).next = operations.countP Operation.registers := by
  induction operations using List.reverseRecOn with
  | nil => rfl
  | append_singleton operations operation counted =>
      rw [reached_append_singleton, List.countP_append, ← counted]
      cases operation with
      | register interest => cases interest <;> rfl
      | remove | clear => rfl

/-- The numbers are given out in order, and none again. -/
theorem given_eq_range (operations : List Operation) :
    given operations = List.range (operations.countP Operation.registers) := by
  induction operations using List.reverseRecOn with
  | nil => rfl
  | append_singleton operations operation range =>
      rw [given_append_singleton, range, List.countP_append, List.countP_singleton]
      cases operation with
      | register interest =>
          have next : (reached operations).returned (.register interest) =
              [operations.countP Operation.registers] := by
            rw [returned, register_fst, next_reached]
          rw [next]
          exact List.range_succ.symm
      | remove | clear => exact List.append_nil _

/-- In 64 bits the numbers are different, too, as long as there are no more of them than that. -/
theorem nodup_given (few : operations.countP Operation.registers ≤ 2 ^ 64) :
    ((given operations).map UInt64.ofNat).Nodup := by
  rw [given_eq_range]
  refine List.Nodup.map_on ?_ List.nodup_range
  intro first firstMem second secondMem same
  rw [List.mem_range] at firstMem secondMem
  have values := congrArg UInt64.toNat same
  rwa [UInt64.toNat_ofNat', UInt64.toNat_ofNat', Nat.mod_eq_of_lt (firstMem.trans_le few),
    Nat.mod_eq_of_lt (secondMem.trans_le few)] at values

/-! ## Who is there -/

theorem not_live_nil : ¬Live [] id interest := by
  rintro ⟨earlier, later, split, -⟩
  simp at split

/-- After one more operation, either it registered the listener, or the listener was there before
and the operation did not take it away. -/
theorem live_append_singleton : Live (operations ++ [operation]) id interest ↔
    operation = .register interest ∧ ((reached operations).register interest).1 = id ∨
      Live operations id interest ∧ operation ≠ .remove id ∧ operation ≠ .clear := by
  constructor
  · rintro ⟨earlier, later, split, numbered, kept, uncleared⟩
    induction later using List.reverseRecOn with
    | nil =>
        rw [List.append_singleton_inj] at split
        rcases split with ⟨rfl, rfl⟩
        exact Or.inl ⟨rfl, numbered⟩
    | append_singleton later last =>
        rw [← List.cons_append, ← List.append_assoc, List.append_singleton_inj] at split
        rcases split with ⟨rfl, rfl⟩
        simp only [List.mem_append, List.mem_singleton, not_or] at kept uncleared
        exact Or.inr ⟨⟨earlier, later, rfl, numbered, kept.1, uncleared.1⟩, Ne.symm kept.2,
          Ne.symm uncleared.2⟩
  · rintro (⟨rfl, numbered⟩ | ⟨⟨earlier, later, rfl, numbered, kept, uncleared⟩, keeps, stays⟩)
    · exact ⟨operations, [], rfl, numbered, by simp, by simp⟩
    · refine ⟨earlier, later ++ [operation], by simp, numbered, ?_, ?_⟩
      · simpa [kept] using Ne.symm keeps
      · simpa [uncleared] using Ne.symm stays

/-- After any history those on the roll are the ones that are still there. -/
theorem mem_rollOf_iff (operations : List Operation) :
    (id, interest) ∈ (rollOf operations).entries ↔ Live operations id interest := by
  induction operations using List.reverseRecOn with
  | nil => exact iff_of_false (by simp [rollOf, Roll.empty]) not_live_nil
  | append_singleton operations operation there =>
      rw [rollOf_append_singleton, live_append_singleton, ← there]
      cases operation with
      | register other =>
          simp only [Operation.enter, Roll.register, List.mem_append, List.mem_singleton,
            Prod.mk.injEq, Operation.register.injEq, ne_eq, reduceCtorEq, not_false_eq_true,
            and_true, register_fst, (refines_reached operations).next]
          constructor
          · rintro (mem | ⟨rfl, rfl⟩)
            · exact Or.inr mem
            · exact Or.inl ⟨rfl, rfl⟩
          · rintro (⟨rfl, rfl⟩ | mem)
            · exact Or.inr ⟨rfl, rfl⟩
            · exact Or.inl mem
      | remove removed =>
          simp only [Operation.enter, Roll.remove, List.mem_filter, bne_iff_ne, ne_eq,
            reduceCtorEq, false_and, false_or, Operation.remove.injEq, not_false_eq_true, and_true,
            eq_comm (a := removed)]
      | clear => simp [Operation.enter, Roll.clear]

/-- The roll is in the order of its numbers, which are all given out. -/
theorem pairwise_rollOf (operations : List Operation) :
    (rollOf operations).entries.Pairwise (fun first second => first.1 < second.1) ∧
      ∀ entry ∈ (rollOf operations).entries, entry.1 < (rollOf operations).next := by
  induction operations using List.reverseRecOn with
  | nil => exact ⟨.nil, nofun⟩
  | append_singleton operations operation ordered =>
      rcases ordered with ⟨ordered, below⟩
      rw [rollOf_append_singleton]
      cases operation with
      | register interest =>
          refine ⟨List.pairwise_append.mpr ⟨ordered, List.pairwise_singleton _ _, ?_⟩, ?_⟩
          · intro entry mem last isLast
            rw [List.mem_singleton.mp isLast]
            exact below entry mem
          · intro entry mem
            rcases List.mem_append.mp mem with mem | isLast
            · exact (below entry mem).trans (Nat.lt_succ_self _)
            · rw [List.mem_singleton.mp isLast]
              exact Nat.lt_succ_self _
      | remove removed =>
          exact ⟨ordered.filter _, fun entry mem => below entry (List.mem_of_mem_filter mem)⟩
      | clear => exact ⟨.nil, nofun⟩

theorem remove_eq_true_iff (operations : List Operation) (id : ListenerId) :
    ((reached operations).remove id).1 = true ↔ ∃ interest, Live operations id interest := by
  simp only [(refines_reached operations).remove_eq_true_iff, mem_rollOf_iff]

/-! ## Who is told -/

theorem mem_called_iff (operations : List Operation) (event : Event) (id : ListenerId) :
    id ∈ (reached operations).called event ↔ Live operations id event.audience := by
  rw [called_eq, (refines_reached operations).lists, Roll.mem_of, mem_rollOf_iff]

theorem pairwise_called (operations : List Operation) (event : Event) :
    ((reached operations).called event).Pairwise (· < ·) := by
  rw [called_eq, (refines_reached operations).lists]
  exact List.pairwise_map.mpr ((pairwise_rollOf operations).1.filter _)

/-- What holds of the listeners that a history leads to. -/
structure Lawful (operations : List Operation) : Prop where
  /-- The numbers are given out from zero on, so that their order is that of the registrations. -/
  numbered : given operations = List.range (operations.countP Operation.registers)
  distinct : operations.countP Operation.registers ≤ 2 ^ 64 →
    ((given operations).map UInt64.ofNat).Nodup
  removes (id : ListenerId) :
    ((reached operations).remove id).1 = true ↔ ∃ interest, Live operations id interest
  /-- An event is told to the listeners of its kind, and of its conversation unless it is an update,
  each once and in the order of their registration. -/
  tells {σ τ : Type} (engine : Engine σ τ) (listening : engine.listeners = reached operations)
    (event : Event) : ∃ calls : List ListenerId,
      ((Engine.tell event).run engine).2 =
        { engine with outputs := engine.outputs ++ calls.map (.told · event) } ∧
      calls.Pairwise (· < ·) ∧ ∀ id, id ∈ calls ↔ Live operations id event.audience

/-- Whatever registrations, removals and clearings came before, in whatever order. -/
theorem lawful (operations : List Operation) : Lawful operations := by
  refine ⟨given_eq_range operations, nodup_given, remove_eq_true_iff operations, ?_⟩
  intro σ τ engine listening event
  refine ⟨(reached operations).called event, ?_, pairwise_called operations event,
    mem_called_iff operations event⟩
  rw [Engine.run_tell, listening]

/-- A number is not given out again after all listeners were removed. -/
example : given [.register .updates, .register (.messages "c1"), .clear, .register .updates] =
    [0, 1, 2] := by
  decide

end Listeners

end MessageSync
