import MessageSync.Proofs.Store.Operations

/-!
# When the operations of a store succeed

A store whose rows can all be read answers every question. A change of a store with unique keys
succeeds if the records that it is about can be read and the keys that it writes are those of the
row that it replaces, or are not in use.
-/

namespace MessageSync

theorem Row.Holds.clashes_ofMessage {row other : Row} {message : Message}
    (holds : row.Holds message) : (ofMessage message).Clashes other ↔ row.Clashes other := by
  simp only [Clashes, ofMessage, holds.id, holds.conversationId, holds.serverId, holds.localId]

namespace Store

/-- Every row can be read. -/
def Legible (store : Store) : Prop :=
  ∀ row ∈ store.rows, ∃ message, row.Holds message

variable {store after : Store} {row : Row} {message : Message}

/-! ## Questions -/

theorem Legible.exists_find? (legible : store.Legible) (test : Row → Bool) :
    ∃ found, store.find? test = .ok found := by
  cases first : store.rows.find? test with
  | none =>
      rw [List.find?_eq_none] at first
      exact ⟨none, find?_eq_none.mpr fun row mem => by simpa using first row mem⟩
  | some row =>
      rcases legible row (List.mem_of_find?_eq_some first) with ⟨message, holds⟩
      exact ⟨some message, find?_eq_some.mpr ⟨row, first, holds⟩⟩

theorem Legible.exists_pending (legible : store.Legible) (conversationId : String) :
    ∃ messages, store.pending conversationId = .ok messages := by
  apply exists_mapM_eq_ok
  intro row mem
  simp only [List.mem_mergeSort, List.mem_filter] at mem
  rcases legible row mem.1 with ⟨message, holds⟩
  exact ⟨message, Row.toMessage_eq_ok.mpr holds⟩

/-! ## Changes -/

theorem exists_insert (free : ∀ other ∈ store.rows, ¬(Row.ofMessage message).Clashes other) :
    ∃ after, store.insert message = .ok after :=
  ⟨_, insert_eq_ok.mpr ⟨free, rfl⟩⟩

theorem UniqueKeys.exists_overwrite (unique : store.UniqueKeys) (mem : row ∈ store.rows)
    (sameKeys : ∀ other, (Row.ofMessage message).Clashes other ↔ row.Clashes other)
    (blamed : String) : ∃ after, store.overwrite row.id message blamed = .ok after := by
  refine ⟨_, overwrite_eq_ok.mpr ⟨?_, rfl⟩⟩
  intro other otherMem elsewhere clashes
  have same := unique.eq_of_clashes mem otherMem ((sameKeys other).mp clashes)
  exact elsewhere (by rw [same])

theorem UniqueKeys.exists_update (unique : store.UniqueKeys) (mem : row ∈ store.rows)
    (holds : row.Holds message) (status : SyncStatus) :
    ∃ settled after, store.update message.id (.status status) = .ok (settled, after) := by
  have loaded := load_of_holds unique mem holds
  have sameKeys : ∀ other, (Row.ofMessage (MessagePatch.apply (.status status) message)).Clashes
      other ↔ row.Clashes other := fun other => holds.clashes_ofMessage
  rcases unique.exists_overwrite mem sameKeys message.id with ⟨after, written⟩
  rw [← holds.id] at written
  exact ⟨_, after, update_eq_ok.mpr ⟨message, loaded, rfl, written⟩⟩

/-- A record that can be read can take a new id that is not in use, with its local id as it is. -/
theorem UniqueKeys.exists_replaceId (unique : store.UniqueKeys) (mem : row ∈ store.rows)
    (holds : row.Holds message) {newId : String} {patch : MessagePatch}
    (free : ∀ other ∈ store.rows, other.serverId ≠ some newId ∧ other.id ≠ newId)
    (server : patch.serverId = some newId)
    (sameLocal : patch.localId.or message.localId = message.localId) :
    ∃ replaced after, store.replaceId message.id newId patch = .ok (replaced, after) := by
  have loaded := load_of_holds unique mem holds
  have apart : ∀ other ∈ store.rows, other.id ≠ message.id →
      ¬(Row.ofMessage { patch.apply message with id := newId }).Clashes other := by
    intro other otherMem elsewhere clashes
    rcases clashes with sameId | ⟨-, sameServer⟩ | ⟨sameConversation, isSome, isLocal⟩
    · exact (free other otherMem).2 sameId.symm
    · apply (free other otherMem).1
      rw [← sameServer]
      simp [Row.ofMessage, MessagePatch.apply, server]
    · simp only [Row.ofMessage, MessagePatch.apply, sameLocal] at sameConversation isSome isLocal
      rw [holds.localId] at isSome isLocal
      rw [holds.conversationId] at sameConversation
      have same := unique.eq_of_clashes mem otherMem
        (Or.inr (Or.inr ⟨sameConversation, isSome, isLocal⟩))
      exact elsewhere (by rw [← same, holds.id])
  refine ⟨_, _, replaceId_eq_ok.mpr ⟨message, _, loaded, fun _ other otherMem =>
    (free other otherMem).2, rfl, overwrite_eq_ok.mpr ⟨apart, rfl⟩, rfl⟩⟩

theorem UniqueKeys.exists_absorb (unique : store.UniqueKeys) {duplicateRow canonicalRow : Row}
    {duplicate canonical : Message} (duplicateMem : duplicateRow ∈ store.rows)
    (duplicateHolds : duplicateRow.Holds duplicate) (canonicalMem : canonicalRow ∈ store.rows)
    (canonicalHolds : canonicalRow.Holds canonical) (different : duplicate.id ≠ canonical.id) :
    ∃ merged after, store.absorb duplicate.id canonical.id = .ok (merged, after) := by
  have duplicateLoaded := load_of_holds unique duplicateMem duplicateHolds
  have canonicalLoaded := load_of_holds unique canonicalMem canonicalHolds
  by_cases takes : TakesAlias duplicate canonical
  · -- The local id that moves was the duplicate's, and no other row of the conversation has it.
    have apart : ∀ other ∈ store.rows.filter (fun row => row.id ≠ duplicate.id),
        other.id ≠ canonical.id →
          ¬(Row.ofMessage { canonical with localId := duplicate.localId }).Clashes other := by
      intro other otherMem elsewhere clashes
      rw [List.mem_filter, decide_eq_true_eq] at otherMem
      rcases clashes with sameId | ⟨isSome, sameServer⟩ | ⟨sameConversation, isSome, sameLocal⟩
      · exact elsewhere sameId.symm
      · simp only [Row.ofMessage, canonicalHolds.serverId] at isSome sameServer
        have same := unique.eq_of_clashes canonicalMem otherMem.1
          (Or.inr (Or.inl ⟨isSome, sameServer⟩))
        exact elsewhere (by rw [← same, canonicalHolds.id])
      · simp only [Row.ofMessage, duplicateHolds.localId] at isSome sameLocal
        simp only [Row.ofMessage, ← takes.2, duplicateHolds.conversationId] at sameConversation
        have same := unique.eq_of_clashes duplicateMem otherMem.1
          (Or.inr (Or.inr ⟨sameConversation, isSome, sameLocal⟩))
        exact otherMem.2 (by rw [← same, duplicateHolds.id])
    exact ⟨_, _, absorb_eq_ok.mpr ⟨different, duplicate, canonical, _, duplicateLoaded,
      canonicalLoaded, rfl, Or.inl ⟨takes, rfl, overwrite_eq_ok.mpr ⟨apart, rfl⟩⟩⟩⟩
  · exact ⟨_, _, absorb_eq_ok.mpr ⟨different, duplicate, canonical, _, duplicateLoaded,
      canonicalLoaded, rfl, Or.inr ⟨takes, rfl, rfl⟩⟩⟩

end Store

end MessageSync
