import MessageSync.Proofs.Reconcile.Cases
import MessageSync.Proofs.Store.Success

/-!
# Stores that deliveries lead to

The stores that writing records here and reconciling the server's records lead to. Each of their
rows was written for a record that is either local, with its id as its local id and without a server
id, or canonical, with its id as its server id and not pending.
-/

namespace MessageSync

namespace Message

/-- The record is known by the id that it was given here. -/
def Local (message : Message) : Prop :=
  message.serverId = none ∧ message.localId = some message.id

/-- The record is known by the id that the server gave it. -/
def Canonical (message : Message) : Prop :=
  message.serverId = some message.id ∧ message.syncStatus ≠ .pending

end Message

namespace Row

/-- The row was written for a record of one of the two kinds. -/
def Written (row : Row) : Prop :=
  ∃ message, row = ofMessage message ∧ (message.Local ∨ message.Canonical)

variable {row : Row}

theorem Written.renamePrevious (written : row.Written) (oldId newId : String) :
    (row.renamePrevious oldId newId).Written := by
  rcases written with ⟨message, rfl, kind⟩
  rw [renamePrevious_ofMessage]
  exact ⟨_, rfl, kind⟩

theorem Written.id_of_serverId (written : row.Written) {serverId : String}
    (server : row.serverId = some serverId) : row.id = serverId := by
  rcases written with ⟨message, rfl, ⟨none, -⟩ | ⟨some, -⟩⟩
  · cases none.symm.trans server
  · exact Option.some.inj (some.symm.trans server)

/-- The server does not know of a pending row. -/
theorem Written.serverId_of_pending (written : row.Written)
    (pending : row.syncStatus = SyncStatus.pending.name) : row.serverId = none := by
  rcases written with ⟨message, rfl, ⟨none, -⟩ | ⟨-, settled⟩⟩
  · exact none
  · exact absurd (SyncStatus.name_inj.mp pending) settled

/-- The record that a written row reads as is the one that it was written for. -/
theorem Written.eq_of_holds (written : row.Written) {message : Message}
    (holds : row.Holds message) :
    row = ofMessage message ∧ message.Storable ∧ (message.Local ∨ message.Canonical) := by
  rcases written with ⟨source, rfl, kind⟩
  rcases toMessage_ofMessage.mp (toMessage_eq_ok.mpr holds) with ⟨storable, rfl⟩
  exact ⟨rfl, storable, kind⟩

end Row

namespace Store

/-- The stores that writing and reconciling records lead to, in any order, whether or not a
reconciliation succeeds. -/
inductive Reachable : Store → Prop where
  | empty : Reachable Store.empty
  | written {store after : Store} {conversationId contents : String} {role : Role}
      {createdAt : Moment} {counter : Nat} (reachable : Reachable store)
      (inserted : store.insert
        (Message.newLocal conversationId role contents createdAt counter) = .ok after) :
      Reachable after
  | reconciled {store : Store} (reachable : Reachable store) (incoming : Message)
      (window : MatchWindow) :
      Reachable ((MessageLog.reconcile incoming window).runOn store).2

/-- The keys are unique, and every row was written for a local or a canonical record. -/
structure WellKept (store : Store) : Prop where
  unique : store.UniqueKeys
  written : ∀ row ∈ store.rows, row.Written

variable {store after : Store} {incoming : Message} {window : MatchWindow}

theorem WellKept.insert (kept : store.WellKept) {message : Message}
    (kind : message.Local ∨ message.Canonical) (inserted : store.insert message = .ok after) :
    after.WellKept := by
  refine ⟨kept.unique.insert inserted, ?_⟩
  rcases insert_eq_ok.mp inserted with ⟨-, rfl⟩
  intro row mem
  rcases List.mem_append.mp mem with old | new
  · exact kept.written row old
  · exact ⟨message, List.mem_singleton.mp new, kind⟩

/-- A record that takes the id of the server becomes canonical. -/
theorem WellKept.replaceId (kept : store.WellKept) {oldId newId : String} {patch : MessagePatch}
    {result : Message} {status : SyncStatus} (server : patch.serverId = some newId)
    (settled : patch.syncStatus = some status) (notPending : status ≠ .pending)
    (replaced : store.replaceId oldId newId patch = .ok (result, after)) : after.WellKept := by
  refine ⟨kept.unique.replaceId replaced, ?_⟩
  intro row mem
  rcases (mem_replaceId replaced).mp mem with ⟨source, rfl | ⟨sourceMem, -⟩, rfl⟩
  · rcases replaceId_eq_ok.mp replaced with ⟨message, -, -, -, rfl, -, -⟩
    apply Row.Written.renamePrevious
    refine ⟨_, rfl, Or.inr ⟨?_, ?_⟩⟩
    · simp [MessagePatch.apply, server]
    · simpa [MessagePatch.apply, settled] using notPending
  · exact (kept.written source sourceMem).renamePrevious oldId newId

/-- Only a canonical record takes over a local id, and it stays canonical. -/
theorem WellKept.absorb (kept : store.WellKept) {duplicateId canonicalId : String}
    {result : Message} (absorbed : store.absorb duplicateId canonicalId = .ok (result, after)) :
    after.WellKept := by
  refine ⟨kept.unique.absorb absorbed, ?_⟩
  rcases exists_absorbs kept.unique absorbed with ⟨canonical, merged, canonicalLoaded, absorbs⟩
  intro row mem
  rcases (absorbs.mem row).mp mem with ⟨source, rfl | ⟨sourceMem, -, -⟩, rfl⟩
  · apply Row.Written.renamePrevious
    rcases absorbs.kept with mergedMem | ⟨noLocal, localId, rfl⟩
    · exact kept.written source mergedMem
    · rcases exists_row_of_load canonicalLoaded with ⟨canonicalRow, canonicalMem, -, holds⟩
      rcases ((kept.written canonicalRow canonicalMem).eq_of_holds holds).2.2 with
        ⟨-, hasLocal⟩ | canonicalKind
      · cases noLocal.symm.trans hasLocal
      · exact ⟨_, rfl, Or.inr canonicalKind⟩
  · exact (kept.written source sourceMem).renamePrevious duplicateId canonicalId

/-- Setting a sync state other than pending makes no record less canonical. -/
theorem WellKept.update_status (kept : store.WellKept) {id : String} {status : SyncStatus}
    {result : Message} (notPending : status ≠ .pending)
    (updated : store.update id (.status status) = .ok (result, after)) : after.WellKept := by
  refine ⟨kept.unique.update updated, ?_⟩
  intro row mem
  rcases (mem_update updated).mp mem with rfl | ⟨rowMem, -⟩
  · rcases update_eq_ok.mp updated with ⟨message, loaded, rfl, -⟩
    rcases exists_row_of_load loaded with ⟨source, sourceMem, -, holds⟩
    rcases ((kept.written source sourceMem).eq_of_holds holds).2.2 with local_ | ⟨server, -⟩
    · exact ⟨_, rfl, Or.inl local_⟩
    · exact ⟨_, rfl, Or.inr ⟨server, notPending⟩⟩
  · exact kept.written row rowMem

theorem WellKept.merges (kept : store.WellKept) {outcome : Outcome}
    (merges : Merges incoming window store outcome after) : after.WellKept := by
  have notPending := incoming.settledStatus_ne_pending
  cases merges with
  | known => exact kept
  | absorbed isKnown isNamed different absorbs settles =>
      rcases settles with ⟨-, rfl⟩ | ⟨-, settled, updates⟩
      · exact kept.absorb absorbs
      · exact (kept.absorb absorbs).update_status notPending updates
  | adopted unknown isNamed replaces => exact kept.replaceId rfl rfl notPending replaces
  | echoed unknown unnamed isEcho replaces => exact kept.replaceId rfl rfl notPending replaces
  | inserted unknown unnamed noEcho inserts => exact kept.insert (Or.inr ⟨rfl, notPending⟩) inserts

/-- A record that absorbed another one is still there, in the same sync state. -/
theorem WellKept.exists_row_of_absorb (kept : store.WellKept) {duplicateId : String}
    {existing merged : Message} {row : Row} (mem : row ∈ store.rows) (holds : row.Holds existing)
    (absorbed : store.absorb duplicateId existing.id = .ok (merged, after)) :
    ∃ other ∈ after.rows, ∃ message, other.Holds message ∧ message.id = existing.id ∧
      message.syncStatus = existing.syncStatus := by
  rcases exists_absorbs kept.unique absorbed with ⟨canonical, source, canonicalLoaded, absorbs⟩
  rw [load_of_holds kept.unique mem holds] at canonicalLoaded
  cases canonicalLoaded
  have storable := ((kept.written row mem).eq_of_holds holds).2.1
  rcases absorbs.holds storable with ⟨localId, sourceHolds⟩
  exact ⟨_, (absorbs.mem _).mpr ⟨source, Or.inl rfl, rfl⟩, _,
    Row.renamePrevious_holds _ _ _ sourceHolds, rfl, rfl⟩

/-- A reconciliation that fails leaves a well-kept store as it was. -/
theorem WellKept.eq_of_error (kept : store.WellKept) {error : LogError}
    (ran : (MessageLog.reconcile incoming window).runOn store = (.error error, after)) :
    after = store := by
  rcases reconcile_eq_error ran with
    same | ⟨existing, other, merged, isKnown, -, -, absorbs, -, failed⟩
  · exact same
  rcases exists_row_of_known isKnown with ⟨knownRow, knownMem, -, knownHolds⟩
  rcases kept.exists_row_of_absorb knownMem knownHolds absorbs with
    ⟨row, mem, message, holds, sameId, -⟩
  rcases (kept.absorb absorbs).unique.exists_update mem holds incoming.settledStatus with
    ⟨settled, final, updated⟩
  rw [sameId] at updated
  cases updated.symm.trans failed

theorem WellKept.of_reachable (reachable : Reachable store) : store.WellKept := by
  induction reachable with
  | empty => exact ⟨List.Pairwise.nil, by simp [Store.empty]⟩
  | written _ inserted ih => exact ih.insert (Or.inl ⟨rfl, rfl⟩) inserted
  | @reconciled store _ incoming window ih =>
      cases ran : (MessageLog.reconcile incoming window).runOn store with
      | mk result after =>
          cases result with
          | ok outcome => exact ih.merges (merges_of_reconcile ran)
          | error error =>
              rw [ih.eq_of_error ran]
              exact ih

end Store

end MessageSync
