import MessageSync.Proofs.Reconcile.Cases

/-!
# The row that a reconciliation leaves

Whichever way a record is reconciled, the store that is left has one row that is known by its server
id, and no other row that the record names.
-/

namespace MessageSync

namespace Store

/-- The row is known by the server id of the record, and the record names no other row. -/
structure Settled (store : Store) (incoming : Message) (row : Row) : Prop where
  mem : row ∈ store.rows
  isKnown : store.KnownAs incoming.serverKey row
  alone : ∀ other ∈ store.rows, other.NamedBy incoming → other = row

variable {store after : Store} {incoming : Message} {window : MatchWindow} {row : Row}

/-- A row that is known and is the only one that may be named is settled. -/
theorem settled_of_known (unique : store.UniqueKeys) {existing : Message}
    (isKnown : store.known incoming.serverKey = .ok (some existing))
    (alone : store.named incoming = .ok none ∨
      ∃ other, store.named incoming = .ok (some other) ∧ other.id = existing.id) :
    ∃ row, store.Settled incoming row ∧ row.id = existing.id := by
  rcases exists_row_of_known isKnown with ⟨row, mem, knownAs, holds⟩
  refine ⟨row, ⟨mem, knownAs, ?_⟩, holds.id.symm⟩
  intro other otherMem named
  rcases alone with unnamed | ⟨found, isNamed, same⟩
  · exact absurd named (named_eq_none.mp unnamed other otherMem)
  · rcases exists_row_of_named isNamed with ⟨namedRow, namedMem, namedBy, namedHolds⟩
    have namedEq := unique.eq_of_id namedMem mem
      (namedHolds.id.symm.trans (same.trans holds.id))
    rw [unique.eq_of_namedBy otherMem namedMem named namedBy, namedEq]

/-- A record that took the server id is settled, if the incoming record names no other one. -/
theorem settled_of_replaceId {oldId : String} {patch : MessagePatch} {result : Message}
    (replaced : store.replaceId oldId incoming.serverKey patch = .ok (result, after))
    (server : patch.serverId = some incoming.serverKey)
    (alone : ∀ other ∈ store.rows, other.NamedBy incoming → other.id = oldId) :
    ∃ row, after.Settled incoming row ∧ row.id = incoming.serverKey := by
  rcases replaceId_eq_ok.mp replaced with ⟨message, -, -, -, rfl, -, -⟩
  refine ⟨_, ⟨(mem_replaceId replaced).mpr ⟨_, Or.inl rfl, rfl⟩,
    Or.inl (by simp [Row.ofMessage, MessagePatch.apply, server]), ?_⟩, by simp [Row.ofMessage]⟩
  intro other mem named
  rcases (mem_replaceId replaced).mp mem with ⟨source, rfl | ⟨sourceMem, elsewhere⟩, rfl⟩
  · rfl
  · rw [Row.renamePrevious_namedBy] at named
    exact absurd (alone source sourceMem named) elsewhere

/-- A record that absorbed the one that the incoming record names is settled. -/
theorem settled_of_absorb (unique : store.UniqueKeys) {existing other merged : Message}
    (isKnown : store.known incoming.serverKey = .ok (some existing))
    (isNamed : store.named incoming = .ok (some other))
    (absorbed : store.absorb other.id existing.id = .ok (merged, after)) :
    ∃ row, after.Settled incoming row ∧ row.id = existing.id := by
  rcases exists_row_of_known isKnown with ⟨knownRow, knownMem, knownAs, knownHolds⟩
  rcases exists_row_of_named isNamed with ⟨namedRow, namedMem, namedBy, namedHolds⟩
  rcases exists_absorbs unique absorbed with ⟨canonical, row, canonicalLoaded, absorbs⟩
  rw [load_of_holds unique knownMem knownHolds] at canonicalLoaded
  cases canonicalLoaded
  have sameId : row.id = knownRow.id := absorbs.id.trans knownHolds.id
  have sameServer : row.serverId = knownRow.serverId := absorbs.serverId.trans knownHolds.serverId
  refine ⟨row.renamePrevious other.id existing.id,
    ⟨(absorbs.mem _).mpr ⟨row, Or.inl rfl, rfl⟩, ?_, ?_⟩, ?_⟩
  · rcases knownAs with server | ⟨atId, noServer⟩
    · exact Or.inl (by simp [sameServer, server])
    · refine Or.inr ⟨by simp [sameId, atId], ?_⟩
      intro other mem
      rcases (absorbs.mem other).mp mem with ⟨source, rfl | ⟨sourceMem, -, -⟩, rfl⟩
      · simpa [sameServer] using noServer knownRow knownMem
      · simpa using noServer source sourceMem
  · intro other mem named
    rcases (absorbs.mem other).mp mem with ⟨source, rfl | ⟨sourceMem, notDuplicate, -⟩, rfl⟩
    · rfl
    · rw [Row.renamePrevious_namedBy] at named
      have sourceEq := unique.eq_of_namedBy sourceMem namedMem named namedBy
      rw [sourceEq, namedHolds.id] at notDuplicate
      exact absurd rfl notDuplicate
  · simp [sameId, knownHolds.id]

/-- Setting the sync state of a settled record leaves it settled. -/
theorem Settled.settles (unique : store.UniqueKeys) (settled : store.Settled incoming row)
    {existing : Message} {status : SyncStatus} (sameId : row.id = existing.id)
    (settles : Settles existing status store after) :
    ∃ other, after.Settled incoming other ∧ other.id = existing.id := by
  rcases settles with ⟨-, rfl⟩ | ⟨-, result, updated⟩
  · exact ⟨row, settled, sameId⟩
  rcases update_eq_ok.mp updated with ⟨message, loaded, rfl, -⟩
  rcases exists_row_of_load loaded with ⟨source, sourceMem, sourceId, holds⟩
  rw [unique.eq_of_id sourceMem settled.mem (sourceId.trans sameId.symm)] at holds
  have resultId : (Row.ofMessage (MessagePatch.apply (.status status) message)).id = row.id :=
    holds.id
  have resultServer :
      (Row.ofMessage (MessagePatch.apply (.status status) message)).serverId = row.serverId :=
    holds.serverId
  refine ⟨_, ⟨(mem_update updated).mpr (Or.inl rfl), ?_, ?_⟩, resultId.trans sameId⟩
  · rcases settled.isKnown with server | ⟨atId, noServer⟩
    · exact Or.inl (resultServer.trans server)
    · refine Or.inr ⟨resultId.trans atId, ?_⟩
      intro other mem
      rcases (mem_update updated).mp mem with rfl | ⟨otherMem, -⟩
      · rw [resultServer]
        exact noServer row settled.mem
      · exact noServer other otherMem
  · intro other mem named
    rcases (mem_update updated).mp mem with rfl | ⟨otherMem, elsewhere⟩
    · rfl
    · rw [settled.alone other otherMem named] at elsewhere
      exact absurd sameId elsewhere

/-- An inserted record is settled. -/
theorem settled_of_insert (unnamed : store.named incoming = .ok none)
    (inserted : store.insert incoming.acknowledged = .ok after) :
    after.Settled incoming (Row.ofMessage incoming.acknowledged) := by
  rcases insert_eq_ok.mp inserted with ⟨-, rfl⟩
  refine ⟨by simp, Or.inl rfl, ?_⟩
  intro other mem named
  rcases List.mem_append.mp mem with old | new
  · exact absurd named (named_eq_none.mp unnamed other old)
  · exact List.mem_singleton.mp new

/-- Every way to reconcile a record leaves it settled, under the id of the outcome. -/
theorem Merges.settled (unique : store.UniqueKeys) {outcome : Outcome}
    (merges : Merges incoming window store outcome after) :
    ∃ row, after.Settled incoming row ∧ row.id = outcome.id := by
  cases merges with
  | known isKnown alone => exact settled_of_known unique isKnown alone
  | absorbed isKnown isNamed different absorbs settles =>
      rcases settled_of_absorb unique isKnown isNamed absorbs with ⟨row, settled, sameId⟩
      exact settled.settles (unique.absorb absorbs) sameId settles
  | adopted unknown isNamed replaces =>
      rcases exists_row_of_named isNamed with ⟨namedRow, namedMem, namedBy, namedHolds⟩
      apply settled_of_replaceId replaces rfl
      intro row mem named
      rw [unique.eq_of_namedBy mem namedMem named namedBy]
      exact namedHolds.id.symm
  | echoed unknown unnamed isEcho replaces =>
      apply settled_of_replaceId replaces rfl
      intro row mem named
      exact absurd named (named_eq_none.mp unnamed row mem)
  | inserted unknown unnamed noEcho inserts =>
      exact ⟨_, settled_of_insert unnamed inserts, rfl⟩

end Store

end MessageSync
