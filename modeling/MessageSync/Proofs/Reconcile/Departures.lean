import MessageSync.Proofs.Reconcile.Effects

/-!
# Changes that last

A merge that changes something leaves a trace that no merge of a record with another local id wipes
out: a row with the local id that the former rows do not have, a former row whose local id is gone,
or a former row that is not pending any more. For no merge makes a row pending or gives a row a
local id that is neither the record's nor was there before, and a row that is not pending stays
where it is unless the record has its local id. So the rows are never again the same as before.
-/

namespace MessageSync

/-- An id gives way only in a merge that changes something, and to the id of the outcome. -/
theorem Outcome.changed_of_move? {outcome : Outcome} {oldId newId : String}
    (moves : outcome.move? = some (oldId, newId)) :
    outcome.changed = true ∧ outcome.id = newId := by
  cases outcome with
  | duplicate id absorbed =>
      cases absorbed with
      | none => cases moves
      | some absorbed =>
          cases moves
          exact ⟨rfl, rfl⟩
  | adoptedLocal | matchedEcho =>
      cases moves
      exact ⟨rfl, rfl⟩
  | inserted => cases moves

namespace Store

open MessageLog (reconcile)

variable {before store after : Store} {window : MatchWindow} {record incoming : Message}

/-! ## Where rows come from -/

/-- What a row comes from that is there after a merge: its local id is that of the record, or that
of a row of its conversation, and if it is pending, the row that had its id was. -/
structure Origin (incoming : Message) (store : Store) (later : Row) : Prop where
  localId : later.localId = incoming.localId ∨ ∃ row ∈ store.rows,
    row.conversationId = later.conversationId ∧ row.localId = later.localId
  pending : later.ReadsPending → ∃ row ∈ store.rows, row.id = later.id ∧ row.ReadsPending

theorem origin_of_mem {row : Row} (mem : row ∈ store.rows) : Origin incoming store row :=
  ⟨Or.inr ⟨row, mem, rfl, rfl⟩, fun pending => ⟨row, mem, rfl, pending⟩⟩

theorem Origin.renamePrevious {later : Row} (origin : Origin incoming store later)
    (oldId newId : String) : Origin incoming store (later.renamePrevious oldId newId) := by
  refine ⟨?_, ?_⟩
  · simpa only [Row.renamePrevious_localId, Row.renamePrevious_conversationId] using origin.localId
  · simpa only [Row.renamePrevious_id, Row.renamePrevious_readsPending] using origin.pending

theorem Rewrites.origin {oldId newId : String} {place row later : Row}
    (rewrites : Rewrites store after oldId newId place row) (written : Origin incoming store row)
    (mem : later ∈ after.rows) : Origin incoming store later := by
  rcases rewrites.mem_rows.mp mem with rfl | ⟨other, otherMem, rfl⟩
  · exact written.renamePrevious _ _
  · exact (origin_of_mem (List.mem_filter.mp otherMem).1).renamePrevious _ _

theorem Merging.origin {existing : Message} {former place row later : Row}
    (merging : Merging incoming store existing former place row after)
    (mem : later ∈ after.rows) : Origin incoming store later := by
  refine merging.rewrites.origin ⟨?_, fun pending => ?_⟩ mem
  · rcases merging.localId with kept | ⟨-, takes⟩
    · exact Or.inr ⟨place, merging.rewrites.mem, merging.stays.symm, kept.symm⟩
    · exact Or.inl takes
  · exact ⟨place, merging.rewrites.mem, merging.rewrites.id.symm, merging.pending pending⟩

theorem Effect.origin {result : Except LogError Outcome}
    (effect : Effect incoming window store result after) {later : Row} (mem : later ∈ after.rows) :
    Origin incoming store later := by
  cases effect with
  | unchanged => exact origin_of_mem mem
  | inserted =>
      rcases List.mem_append.mp mem with old | new
      · exact origin_of_mem old
      · cases List.mem_singleton.mp new
        refine ⟨Or.inl rfl, fun pending => ?_⟩
        rw [Row.readsPending_ofMessage] at pending
        exact absurd pending incoming.settledStatus_ne_pending
  | @moved place row _ _ moves reports unknown within chosen stays localId settled rewrites =>
      refine rewrites.origin ⟨?_, fun pending => absurd pending settled⟩ mem
      exact Or.inr ⟨place, rewrites.mem, stays.symm, localId.symm⟩
  | merged _ _ _ merging | spoiled _ _ _ _ merging => exact merging.origin mem

/-! ## Rows that stay -/

theorem Rewrites.remains {oldId newId : String} {place row other : Row}
    (rewrites : Rewrites store after oldId newId place row) (mem : other ∈ store.rows)
    (settled : ¬other.ReadsPending) (elsewhere : other.id ∉ [oldId, newId]) :
    ∃ later ∈ after.rows, later.id = other.id ∧ later.localId = other.localId ∧
      ¬later.ReadsPending := by
  have otherMem : other ∈ store.others [oldId, newId] := by
    rw [Store.others, List.mem_filter, decide_eq_true_eq]
    exact ⟨mem, elsewhere⟩
  refine ⟨other.renamePrevious oldId newId,
    rewrites.mem_rows.mpr (Or.inr ⟨other, otherMem, rfl⟩), ?_⟩
  rw [Row.renamePrevious_id, Row.renamePrevious_localId, Row.renamePrevious_readsPending]
  exact ⟨rfl, rfl, settled⟩

theorem Merging.remains {existing : Message} {former place row other : Row}
    (merging : Merging incoming store existing former place row after) (unique : store.UniqueKeys)
    (mem : other ∈ store.rows) (settled : ¬other.ReadsPending) (isSome : other.localId.isSome)
    (apart : other.localId ≠ incoming.localId) :
    ∃ later ∈ after.rows, later.id = other.id ∧ later.localId = other.localId ∧
      ¬later.ReadsPending := by
  by_cases here : other.id = place.id
  · cases unique.eq_of_id mem merging.rewrites.mem here
    refine ⟨_, merging.rewrites.mem_rows.mpr (Or.inl rfl), ?_⟩
    rw [Row.renamePrevious_id, Row.renamePrevious_localId, Row.renamePrevious_readsPending]
    refine ⟨merging.rewrites.id, ?_, fun pending => settled (merging.pending pending)⟩
    refine merging.localId.resolve_right ?_
    rintro ⟨free, -⟩
    rw [free] at isSome
    cases isSome
  · refine merging.rewrites.remains mem settled ?_
    have stayed : other.id ≠ former.id := by
      intro same
      cases unique.eq_of_id mem merging.mem same
      exact apart merging.namedBy.2.2
    simp [here, stayed]

/-- A row that is not pending is there after a record of another local id was merged. -/
theorem Effect.remains {result : Except LogError Outcome}
    (effect : Effect incoming window store result after) (unique : store.UniqueKeys) {row : Row}
    (mem : row ∈ store.rows) (settled : ¬row.ReadsPending) (isSome : row.localId.isSome)
    (apart : row.localId ≠ incoming.localId) :
    ∃ later ∈ after.rows, later.id = row.id ∧ later.localId = row.localId ∧
      ¬later.ReadsPending := by
  cases effect with
  | unchanged => exact ⟨row, mem, rfl, rfl, settled⟩
  | inserted => exact ⟨row, List.mem_append_left _ mem, rfl, rfl, settled⟩
  | @moved place written _ _ moves reports unknown within chosen stays localId _ rewrites =>
      refine rewrites.remains mem settled ?_
      have stayed : row.id ≠ place.id := by
        intro same
        cases unique.eq_of_id mem rewrites.mem same
        rcases chosen with namedBy | pending
        · exact apart namedBy.2.2
        · exact settled pending
      simp [stayed, (known_eq_none.mp unknown row mem).2]
  | merged _ _ _ merging | spoiled _ _ _ _ merging =>
      exact merging.remains unique mem settled isSome apart

/-! ## Changes -/

/-- A change of the rows that merging a record of another local id does not undo: a row with the
local id that is not pending and that the former rows do not have, a former row whose local id no
row of its conversation has any more, or a former row that is not pending any more. -/
inductive Departs (localId : Option String) (before now : Store) : Prop
  | kept {row : Row} (mem : row ∈ now.rows) (named : row.localId = localId)
      (settled : ¬row.ReadsPending)
      (fresh : ∀ other ∈ before.rows, other.id = row.id → other.localId ≠ localId)
  | absorbed {former : Row} (mem : former ∈ before.rows) (named : former.localId = localId)
      (gone : ∀ row ∈ now.rows, row.conversationId = former.conversationId →
        row.localId ≠ localId)
  | settled {former : Row} (mem : former ∈ before.rows) (pending : former.ReadsPending)
      (gone : ∀ row ∈ now.rows, row.id = former.id → ¬row.ReadsPending)

theorem Departs.not_same {localId : Option String} (departs : Departs localId before after) :
    ¬∀ row, row ∈ after.rows ↔ row ∈ before.rows := by
  intro same
  cases departs with
  | kept mem named settled fresh => exact fresh _ ((same _).mp mem) rfl named
  | absorbed mem named gone => exact gone _ ((same _).mpr mem) rfl named
  | settled mem pending gone => exact gone _ ((same _).mpr mem) rfl pending

theorem eq_of_unchanged (unique : store.UniqueKeys) {outcome : Outcome}
    (ran : (reconcile record window).runOn store = (.ok outcome, after))
    (unchanged : outcome.changed = false) : after = store := by
  have effect := effect_of_reconcile unique record window
  rw [ran] at effect
  cases effect with
  | unchanged => rfl
  | moved _ reports => simp [(Outcome.changed_of_move? reports).1] at unchanged
  | inserted | merged => cases unchanged

/-- A merge that changes something. -/
theorem departs_of_changed (unique : store.UniqueKeys) {outcome : Outcome}
    (ran : (reconcile record window).runOn store = (.ok outcome, after))
    (changed : outcome.changed = true) : Departs record.localId store after := by
  have effect := effect_of_reconcile unique record window
  rw [ran] at effect
  simp only at effect
  cases effect with
  | unchanged still same =>
      rw [same outcome rfl] at changed
      cases changed
  | inserted still unknown =>
      refine .kept (List.mem_append_right _ (List.mem_singleton.mpr rfl)) rfl ?_ ?_
      · rw [Row.readsPending_ofMessage]
        exact record.settledStatus_ne_pending
      · intro other mem same
        exact absurd same (known_eq_none.mp unknown other mem).2
  | @moved place row _ _ moves reports unknown within chosen stays localId settled rewrites =>
      have different : place.id ≠ record.serverKey :=
        (known_eq_none.mp unknown place rewrites.mem).2
      rcases chosen with namedBy | pending
      · refine .kept (rewrites.mem_rows.mpr (Or.inl rfl)) ?_ ?_ ?_
        · rw [Row.renamePrevious_localId, localId, namedBy.2.2]
        · rwa [Row.renamePrevious_readsPending]
        · intro other mem same
          rw [Row.renamePrevious_id, rewrites.id] at same
          exact absurd same (known_eq_none.mp unknown other mem).2
      · refine .settled rewrites.mem pending fun later mem same => ?_
        exact absurd same (rewrites.forgotten different later mem).1
  | @merged former place row existing _ moves settled elsewhere merging =>
      have namedBy := merging.namedBy
      -- The local id is gone from the conversation, unless the row that stays took it over.
      rcases merging.localId with kept | ⟨free, takes⟩
      · refine .absorbed merging.mem namedBy.2.2 fun later mem within same => ?_
        have laterNamed : later.NamedBy record :=
          ⟨within.trans namedBy.1, by rw [same, ← namedBy.2.2]; exact namedBy.2.1, same⟩
        rcases merging.rewrites.mem_rows.mp mem with rfl | ⟨other, otherMem, rfl⟩
        · rw [Row.renamePrevious_namedBy, Row.NamedBy, kept, merging.stays] at laterNamed
          have placeEq := unique.eq_of_namedBy merging.mem merging.rewrites.mem namedBy laterNamed
          exact merging.different (congrArg Row.id placeEq)
        · rw [Row.renamePrevious_namedBy] at laterNamed
          rw [Store.others, List.mem_filter, decide_eq_true_eq] at otherMem
          cases unique.eq_of_namedBy otherMem.1 merging.mem laterNamed namedBy
          exact otherMem.2 List.mem_cons_self
      · refine .kept (merging.rewrites.mem_rows.mpr (Or.inl rfl)) ?_ ?_ ?_
        · rw [Row.renamePrevious_localId, takes]
        · rwa [Row.renamePrevious_readsPending]
        · intro other mem same named
          rw [Row.renamePrevious_id, merging.rewrites.id] at same
          cases unique.eq_of_id mem merging.rewrites.mem same
          have isSome := namedBy.2.1
          rw [namedBy.2.2, ← named, free] at isSome
          cases isSome

/-- Merging a record of another local id does not undo it. -/
theorem Departs.reconcile {localId : Option String} (departs : Departs localId before store)
    (unique : store.UniqueKeys) (isSome : localId.isSome) (other : localId ≠ record.localId) :
    Departs localId before ((reconcile record window).runOn store).2 := by
  have effect := effect_of_reconcile unique record window
  cases departs with
  | @kept row mem named settled fresh =>
      rcases effect.remains unique mem settled (named ▸ isSome) (named ▸ other) with
        ⟨later, laterMem, sameId, sameLocal, laterSettled⟩
      exact .kept laterMem (sameLocal.trans named) laterSettled (sameId ▸ fresh)
  | absorbed mem named gone =>
      refine .absorbed mem named fun later laterMem within same => ?_
      rcases (effect.origin laterMem).localId with new | ⟨row, rowMem, sameConversation, sameLocal⟩
      · exact other (same.symm.trans new)
      · exact gone row rowMem (sameConversation.trans within) (sameLocal.trans same)
  | settled mem pending gone =>
      refine .settled mem pending fun later laterMem same laterPending => ?_
      rcases (effect.origin laterMem).pending laterPending with ⟨row, rowMem, sameId, rowPending⟩
      exact gone row rowMem (sameId.trans same) rowPending

end Store

end MessageSync
