import MessageSync.Proofs.Reconcile.Effects

/-!
# Merging a record within a conversation

A record that is merged for one conversation is to leave the rows of the others alone, apart from
references to an id that gives way. It does so if it is of that conversation, unless its server id
is known in another one, and the record that has it there is given another sync state.
-/

namespace MessageSync

/-- The row with its reference moved along with the ids that gave way, one after the other. -/
def Row.follow (moves : List (String × String)) (row : Row) : Row :=
  moves.foldl (fun row move => row.renamePrevious move.1 move.2) row

@[simp]
theorem Row.follow_nil (row : Row) : row.follow [] = row :=
  rfl

@[simp]
theorem Row.follow_singleton (oldId newId : String) (row : Row) :
    row.follow [(oldId, newId)] = row.renamePrevious oldId newId :=
  rfl

theorem Row.follow_append (first second : List (String × String)) (row : Row) :
    row.follow (first ++ second) = (row.follow first).follow second :=
  List.foldl_append

theorem Row.follow_syncStatus (moves : List (String × String)) (row : Row) :
    (row.follow moves).syncStatus = row.syncStatus := by
  induction moves generalizing row with
  | nil => rfl
  | cons move moves ih => exact (ih _).trans (Row.renamePrevious_syncStatus _ _ _)

namespace Store

variable {store after : Store} {incoming : Message} {window : MatchWindow}
  {conversationId : String}

/-- The rows of all conversations but one. -/
def outside (store : Store) (conversationId : String) : List Row :=
  store.rows.filter fun row => row.conversationId ≠ conversationId

theorem mem_outside {row : Row} :
    row ∈ store.outside conversationId ↔
      row ∈ store.rows ∧ row.conversationId ≠ conversationId := by
  simp only [outside, List.mem_filter, decide_eq_true_eq]

/-- The rows of the other conversations are as they were, with their references moved. -/
def KeepsOutside (conversationId : String) (moves : List (String × String)) (before after : Store) :
    Prop :=
  after.outside conversationId = (before.outside conversationId).map (Row.follow moves)

/-- Merging the record changes the log outside of the conversation: the record is of another one, or
the record that has its server id is, and takes another sync state. -/
def Strays (store : Store) (window : MatchWindow) (conversationId : String) (incoming : Message) :
    Prop :=
  ((MessageLog.reconcile incoming window).runOn store).2 ≠ store ∧
    (incoming.conversationId ≠ conversationId ∨
      ∃ existing, store.known incoming.serverKey = .ok (some existing) ∧
        existing.conversationId ≠ conversationId ∧
        existing.syncStatus ≠ incoming.settledStatus)

/-! ## When a row is written in the place of others -/

section Rewriting

variable {before : Store} {oldId newId : String} {place row : Row}
  (rewrites : Rewrites before after oldId newId place row)

include rewrites

theorem Rewrites.outside (unique : before.UniqueIds)
    (stays : row.conversationId = place.conversationId) :
    after.outside conversationId =
      (((before.outside conversationId).filter fun other =>
        other.id = place.id ∨ other.id ∉ [oldId, newId]).map (overwritten place.id row)).map
          (Row.renamePrevious oldId newId) := by
  have same (other : Row) (mem : other ∈ before.rows) :
      (overwritten place.id row other).conversationId = other.conversationId := by
    simp only [overwritten]
    split
    · next here => rw [stays, unique.eq_of_id rewrites.mem mem here.symm]
    · rfl
  simp only [Store.outside, rewrites.rows, List.filter_map, List.filter_filter, Function.comp_def,
    Row.renamePrevious_conversationId]
  congr 2
  apply List.filter_congr
  intro other mem
  rw [same other mem, Bool.and_comm]

/-- The rows of other conversations are kept if no row of theirs goes, and the one that was written
anew, if it is of theirs, is as it was. -/
theorem Rewrites.keepsOutside (unique : before.UniqueIds)
    (stays : row.conversationId = place.conversationId)
    (remain : ∀ other ∈ before.rows, other.conversationId ≠ conversationId →
      other.id = place.id ∨ other.id ∉ [oldId, newId])
    (unwritten : place.conversationId ≠ conversationId → row = place) :
    KeepsOutside conversationId [(oldId, newId)] before after := by
  rw [KeepsOutside, rewrites.outside unique stays, List.filter_eq_self.mpr]
  · rw [List.map_map]
    apply List.map_congr_left
    intro other mem
    rw [mem_outside] at mem
    simp only [Function.comp_apply, overwritten, Row.follow_singleton]
    split
    · next here =>
        cases unique.eq_of_id mem.1 rewrites.mem here
        rw [unwritten mem.2]
    · rfl
  · intro other mem
    rw [mem_outside] at mem
    exact decide_eq_true (remain other mem.1 mem.2)

theorem Rewrites.not_keepsOutside (different : oldId ≠ newId) {former : Row}
    (mem : former ∈ before.rows) (sameId : former.id = oldId)
    (elsewhere : former.conversationId ≠ conversationId) :
    ¬KeepsOutside conversationId [(oldId, newId)] before after := by
  intro keeps
  have stayed : former.renamePrevious oldId newId ∈ after.outside conversationId := by
    rw [keeps]
    exact List.mem_map_of_mem (mem_outside.mpr ⟨mem, elsewhere⟩)
  have forgotten := (rewrites.forgotten different _ (mem_outside.mp stayed).1).1
  rw [Row.renamePrevious_id] at forgotten
  exact forgotten sameId

/-- The row that was written anew is as it was, if it is of another conversation and these are
kept. -/
theorem Rewrites.row_eq_of_keepsOutside (unique : before.UniqueIds) (sameId : place.id = newId)
    (elsewhere : place.conversationId ≠ conversationId)
    (keeps : KeepsOutside conversationId [(oldId, newId)] before after) :
    row.renamePrevious oldId newId = place.renamePrevious oldId newId := by
  have stayed : place.renamePrevious oldId newId ∈ after.outside conversationId := by
    rw [keeps]
    exact List.mem_map_of_mem (mem_outside.mpr ⟨rewrites.mem, elsewhere⟩)
  apply (rewrites.uniqueIds unique).eq_of_id (rewrites.mem_rows.mpr (Or.inl rfl))
    (mem_outside.mp stayed).1
  rw [Row.renamePrevious_id, Row.renamePrevious_id, rewrites.id, sameId]

/-- A row that gave way is not there any more. -/
theorem Rewrites.ne (different : oldId ≠ newId) {former : Row} (mem : former ∈ before.rows)
    (sameId : former.id = oldId) : after ≠ before := by
  rintro rfl
  exact (rewrites.forgotten different former mem).1 sameId

end Rewriting

/-! ## Merging a record -/

theorem keepsOutside_inserted (incoming : Message) :
    KeepsOutside conversationId [] store
        { store with rows := store.rows ++ [Row.ofMessage incoming] } ↔
      incoming.conversationId = conversationId := by
  have kept : store.outside conversationId = (store.outside conversationId).map (Row.follow []) :=
    (List.map_id _).symm
  rw [KeepsOutside, ← kept]
  simp only [outside, List.filter_append, List.append_right_eq_self, List.filter_eq_nil_iff,
    List.mem_singleton, forall_eq, decide_eq_true_eq, not_not]
  rfl

/-- A record that is merged into another keeps the rows outside of a conversation exactly if it is
of that, and if the other one is as well or is left as it is. -/
theorem Merging.keepsOutside_iff {existing : Message} {former place row : Row}
    (unique : store.UniqueKeys) (merging : Merging incoming store existing former place row after)
    (elsewhere : place.conversationId ≠ incoming.conversationId →
      existing.syncStatus = incoming.settledStatus ∧ row = place ∨
        existing.syncStatus ≠ incoming.settledStatus ∧
          row.syncStatus = incoming.settledStatus.name) :
    KeepsOutside conversationId [(former.id, place.id)] store after ↔
      incoming.conversationId = conversationId ∧
        (place.conversationId ≠ conversationId →
          existing.syncStatus = incoming.settledStatus) := by
  constructor
  · intro keeps
    have same : incoming.conversationId = conversationId := by
      by_contra other
      rw [← merging.namedBy.1] at other
      exact merging.rewrites.not_keepsOutside merging.different merging.mem rfl other keeps
    refine ⟨same, fun other => ?_⟩
    rcases elsewhere (same ▸ other) with ⟨settled, -⟩ | ⟨-, written⟩
    · exact settled
    · have rows := congrArg Row.syncStatus
        (merging.rewrites.row_eq_of_keepsOutside unique.uniqueIds rfl other keeps)
      rw [Row.renamePrevious_syncStatus, Row.renamePrevious_syncStatus, written] at rows
      have status := merging.holds.syncStatus
      rw [← rows, SyncStatus.ofName?_name, Option.some.injEq] at status
      exact status.symm
  · rintro ⟨same, settled⟩
    refine merging.rewrites.keepsOutside unique.uniqueIds merging.stays ?_ ?_
    · intro other otherMem otherElsewhere
      have stayed : other.id ≠ former.id := by
        intro sameId
        rw [unique.eq_of_id otherMem merging.mem sameId, merging.namedBy.1, same]
          at otherElsewhere
        exact otherElsewhere rfl
      simp [stayed, em]
    · intro other
      rcases elsewhere (same ▸ other) with ⟨-, unwritten⟩ | ⟨unsettled, -⟩
      · exact unwritten
      · exact absurd (settled other) unsettled

/-- Merging a record into another strays exactly if that does not keep the rows outside. -/
theorem Merging.not_strays_iff {existing : Message} {former place row : Row}
    (merging : Merging incoming store existing former place row after) :
    ¬(after ≠ store ∧ (incoming.conversationId ≠ conversationId ∨
        ∃ existing, store.known incoming.serverKey = .ok (some existing) ∧
          existing.conversationId ≠ conversationId ∧
          existing.syncStatus ≠ incoming.settledStatus)) ↔
      incoming.conversationId = conversationId ∧
        (place.conversationId ≠ conversationId →
          existing.syncStatus = incoming.settledStatus) := by
  simp only [merging.isKnown, Except.ok.injEq, Option.some.injEq, exists_eq_left',
    merging.rewrites.ne merging.different merging.mem rfl, ne_eq, not_false_eq_true, true_and,
    not_or, not_not, not_and, merging.holds.conversationId]

/-- Merging a record keeps the rows outside of a conversation exactly if it does not stray from
it. -/
theorem keepsOutside_iff_not_strays (unique : store.UniqueKeys) :
    KeepsOutside conversationId (store.move? incoming window).toList store
        ((MessageLog.reconcile incoming window).runOn store).2 ↔
      ¬store.Strays window conversationId incoming := by
  have effect := effect_of_reconcile unique incoming window
  rw [Strays]
  generalize ((MessageLog.reconcile incoming window).runOn store).1 = result at effect
  generalize ((MessageLog.reconcile incoming window).runOn store).2 = after at effect
  cases effect with
  | unchanged still =>
      rw [still]
      exact iff_of_true (List.map_id _).symm fun strays => strays.1 rfl
  | inserted still unknown =>
      rw [still, Option.toList_none, keepsOutside_inserted]
      have added : { store with rows := store.rows ++ [Row.ofMessage incoming.acknowledged] } ≠
          store := by
        intro same
        have lengths := congrArg (fun other : Store => other.rows.length) same
        simp at lengths
      simp only [unknown, reduceCtorEq, Except.ok.injEq, false_and, exists_false, or_false, ne_eq,
        added, not_false_eq_true, true_and, not_not]
      rfl
  | @moved place row _ _ moves _ unknown within _ stays _ _ rewrites =>
      have different : place.id ≠ incoming.serverKey :=
        (known_eq_none.mp unknown place rewrites.mem).2
      rw [moves, Option.toList_some]
      simp only [unknown, reduceCtorEq, Except.ok.injEq, false_and, exists_false, or_false,
        rewrites.ne different rewrites.mem rfl, ne_eq, not_false_eq_true, true_and, not_not]
      constructor
      · intro keeps
        by_contra elsewhere
        rw [← within] at elsewhere
        exact rewrites.not_keepsOutside different rewrites.mem rfl elsewhere keeps
      · intro same
        refine rewrites.keepsOutside unique.uniqueIds stays ?_ ?_
        · intro other mem _
          have free := (known_eq_none.mp unknown other mem).2
          simp [free, em]
        · intro elsewhere
          exact absurd (within.trans same) elsewhere
  | merged moves settled elsewhere merging =>
      rw [moves, Option.toList_some, merging.keepsOutside_iff unique elsewhere,
        merging.not_strays_iff]
  | spoiled moves within free takes merging =>
      rw [moves, Option.toList_some, merging.not_strays_iff]
      exact merging.keepsOutside_iff unique fun elsewhere => absurd within elsewhere

end Store

end MessageSync
