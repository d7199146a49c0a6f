import MessageSync.Proofs.Reconcile.Reachable
import MessageSync.Proofs.Reconcile.Settled

/-!
# Writes that a reconciliation settles

After a reconciliation, one row has the id of the outcome, and neither it nor a row that the
incoming record names is pending. The exception is a pending row whose id is the server id itself,
as when a server keeps the id that a write was given here: the incoming record is taken for a
duplicate of it, and it stays pending unless another row is named.
-/

namespace MessageSync

/-- The server has not acknowledged the row. -/
def Row.Pending (row : Row) : Prop :=
  row.syncStatus = SyncStatus.pending.name

instance (row : Row) : Decidable row.Pending :=
  inferInstanceAs (Decidable (_ = _))

theorem Row.pending_ofMessage {message : Message} :
    (ofMessage message).Pending ↔ message.syncStatus = .pending :=
  SyncStatus.name_inj

@[simp]
theorem Row.renamePrevious_pending {row : Row} {oldId newId : String} :
    (row.renamePrevious oldId newId).Pending ↔ row.Pending := by
  simp [Pending]

theorem Row.Holds.pending {row : Row} {message : Message} (holds : row.Holds message)
    (pending : row.Pending) : message.syncStatus = .pending := by
  have status := holds.syncStatus
  rw [pending, SyncStatus.ofName?_name, Option.some.injEq] at status
  exact status.symm

namespace Store

/-- A pending row has the server id as its id, and the incoming record names no other row. -/
def Stuck (store : Store) (incoming : Message) : Prop :=
  ∃ row ∈ store.rows, row.id = incoming.serverKey ∧ row.Pending ∧
    ∀ other ∈ store.rows, other.NamedBy incoming → other = row

variable {store after : Store} {incoming : Message} {window : MatchWindow} {row : Row}

theorem not_stuck_of_unknown (unknown : store.known incoming.serverKey = .ok none) :
    ¬store.Stuck incoming := by
  rintro ⟨row, mem, same, -, -⟩
  exact (known_eq_none.mp unknown row mem).2 same

/-- The row that is known by a server id has it as its id. -/
theorem WellKept.id_of_knownAs (kept : store.WellKept) {key : String} (mem : row ∈ store.rows)
    (knownAs : store.KnownAs key row) : row.id = key := by
  rcases knownAs with server | ⟨atId, -⟩
  · exact (kept.written row mem).id_of_serverId server
  · exact atId

/-! ## Pending rows afterwards -/

/-- A record that takes an id which no row had is the only one with it, and not pending. -/
theorem not_pending_of_replaceId {oldId newId : String} {patch : MessagePatch} {result : Message}
    {status : SyncStatus} (free : ∀ row ∈ store.rows, row.id ≠ newId)
    (settles : patch.syncStatus = some status) (notPending : status ≠ .pending)
    (replaced : store.replaceId oldId newId patch = .ok (result, after)) (mem : row ∈ after.rows)
    (same : row.id = newId) : ¬row.Pending := by
  rcases (mem_replaceId replaced).mp mem with ⟨source, rfl | ⟨sourceMem, -⟩, rfl⟩
  · rcases replaceId_eq_ok.mp replaced with ⟨message, -, -, -, rfl, -, -⟩
    rw [Row.renamePrevious_pending, Row.pending_ofMessage]
    simpa [MessagePatch.apply, settles] using notPending
  · rw [Row.renamePrevious_id] at same
    exact absurd same (free source sourceMem)

/-- A record that absorbs another has its sync state set, if that differs. -/
theorem not_pending_of_absorb (kept : store.WellKept) {existing merged : Message}
    {status : SyncStatus} {middle : Store} {duplicateId : String} {knownRow : Row}
    (notPending : status ≠ .pending) (knownMem : knownRow ∈ store.rows)
    (knownHolds : knownRow.Holds existing)
    (absorbed : store.absorb duplicateId existing.id = .ok (merged, middle))
    (settles : Settles existing status middle after) (mem : row ∈ after.rows)
    (same : row.id = existing.id) : ¬row.Pending := by
  rcases settles with ⟨settled, rfl⟩ | ⟨-, result, updated⟩
  · rcases kept.exists_row_of_absorb knownMem knownHolds absorbed with
      ⟨other, otherMem, message, holds, sameId, sameStatus⟩
    have rowEq := (kept.absorb absorbed).unique.eq_of_id mem otherMem
      (same.trans (sameId.symm.trans holds.id))
    intro pending
    rw [rowEq] at pending
    exact notPending (settled.symm.trans (sameStatus.symm.trans (holds.pending pending)))
  · rcases (mem_update updated).mp mem with rfl | ⟨-, elsewhere⟩
    · rcases update_eq_ok.mp updated with ⟨message, -, rfl, -⟩
      rw [Row.pending_ofMessage]
      exact notPending
    · exact absurd same elsewhere

/-- If the row of the outcome is pending, it was stuck. -/
theorem Merges.stuck_of_pending (kept : store.WellKept) {outcome : Outcome}
    (merges : Merges incoming window store outcome after) (mem : row ∈ after.rows)
    (same : row.id = outcome.id) (pending : row.Pending) : store.Stuck incoming := by
  have notPending := incoming.settledStatus_ne_pending
  cases merges with
  | known isKnown alone =>
      rcases settled_of_known kept.unique isKnown alone with ⟨other, settled, otherId⟩
      have rowEq := kept.unique.eq_of_id mem settled.mem (same.trans otherId.symm)
      subst row
      exact ⟨other, mem, kept.id_of_knownAs mem settled.isKnown, pending, settled.alone⟩
  | absorbed isKnown isNamed different absorbs settles =>
      rcases exists_row_of_known isKnown with ⟨knownRow, knownMem, -, knownHolds⟩
      exact absurd pending (not_pending_of_absorb kept notPending knownMem knownHolds absorbs
        settles mem same)
  | adopted unknown isNamed replaces =>
      have free := fun row mem => (known_eq_none.mp unknown row mem).2
      exact absurd pending (not_pending_of_replaceId free rfl notPending replaces mem same)
  | echoed unknown unnamed isEcho replaces =>
      have free := fun row mem => (known_eq_none.mp unknown row mem).2
      exact absurd pending (not_pending_of_replaceId free rfl notPending replaces mem same)
  | inserted unknown unnamed noEcho inserts =>
      rcases insert_eq_ok.mp inserts with ⟨-, rfl⟩
      rcases List.mem_append.mp mem with old | new
      · exact absurd same (known_eq_none.mp unknown row old).2
      · rw [List.mem_singleton.mp new, Row.pending_ofMessage] at pending
        exact absurd pending notPending

/-- A stuck row is the row of the outcome, and is left as it is. -/
theorem Merges.pending_of_stuck (kept : store.WellKept) {outcome : Outcome}
    (merges : Merges incoming window store outcome after) (stuck : store.Stuck incoming) :
    ∃ row ∈ after.rows, row.id = outcome.id ∧ row.Pending := by
  cases merges with
  | known isKnown alone =>
      rcases stuck with ⟨row, mem, same, pending, -⟩
      rcases exists_row_of_known isKnown with ⟨knownRow, knownMem, knownAs, knownHolds⟩
      have knownId := kept.id_of_knownAs knownMem knownAs
      exact ⟨row, mem, same.trans (knownId.symm.trans knownHolds.id.symm), pending⟩
  | absorbed isKnown isNamed different absorbs settles =>
      rcases stuck with ⟨row, mem, same, -, alone⟩
      rcases exists_row_of_known isKnown with ⟨knownRow, knownMem, knownAs, knownHolds⟩
      rcases exists_row_of_named isNamed with ⟨namedRow, namedMem, namedBy, namedHolds⟩
      have knownId := kept.id_of_knownAs knownMem knownAs
      rw [alone namedRow namedMem namedBy] at namedHolds
      exact absurd (namedHolds.id.trans (same.trans (knownId.symm.trans knownHolds.id.symm)))
        different
  | adopted unknown => exact absurd stuck (not_stuck_of_unknown unknown)
  | echoed unknown => exact absurd stuck (not_stuck_of_unknown unknown)
  | inserted unknown => exact absurd stuck (not_stuck_of_unknown unknown)

/-- After a reconciliation exactly one row has the id of the outcome. That row and those that the
incoming record names are not pending, unless a row is stuck. -/
theorem reconcile_settles (reachable : Reachable store) {outcome : Outcome}
    (ran : (MessageLog.reconcile incoming window).runOn store = (.ok outcome, after)) :
    after.rows.countP (fun row => row.id == outcome.id) = 1 ∧
      ((∀ row ∈ after.rows, row.id = outcome.id → ¬row.Pending) ∧
          (∀ row ∈ after.rows, row.NamedBy incoming → ¬row.Pending) ↔
        ¬store.Stuck incoming) := by
  have kept := WellKept.of_reachable reachable
  have merges := merges_of_reconcile ran
  rcases merges.settled kept.unique with ⟨settledRow, settled, sameId⟩
  constructor
  · rw [← sameId]
    exact (kept.unique.merges merges).countP_id settled.mem
  · constructor
    · rintro ⟨notPending, -⟩ stuck
      rcases merges.pending_of_stuck kept stuck with ⟨row, mem, same, pending⟩
      exact notPending row mem same pending
    · intro notStuck
      refine ⟨fun row mem same pending =>
        notStuck (merges.stuck_of_pending kept mem same pending), ?_⟩
      intro row mem named pending
      rw [settled.alone row mem named] at pending
      exact notStuck (merges.stuck_of_pending kept settled.mem sameId pending)

/-! ## A write that stays pending -/

/-- A write. -/
def ownWrite : Message :=
  .newLocal "c1" .user "Hi" ((Moment.of? 1700000000 0).getD default) 0

/-- The server's version of it, for which the server keeps the id. -/
def ownAnswer : Message :=
  { Message.canonical ownWrite.id "c1" 1 .user "Hi" ownWrite.createdAt with
    localId := ownWrite.localId }

/-- The log with the write. -/
def ownLog : Store :=
  ⟨[Row.ofMessage ownWrite], schemaVersion⟩

theorem ownLog_reachable : Reachable ownLog := by
  have inserted : Store.empty.insert ownWrite = .ok ownLog :=
    insert_eq_ok.mpr ⟨by simp [Store.empty], rfl⟩
  exact .written .empty inserted

theorem ownAnswer_duplicate :
    (MessageLog.reconcile ownAnswer .standard).runOn ownLog =
      (.ok (.duplicate ownWrite.id none), ownLog) := by
  have isKnown : ownLog.known ownAnswer.serverKey = .ok (some ownWrite) :=
    except_eq_ok_of_toOption (by decide +kernel)
  have isNamed : ownLog.named ownAnswer = .ok (some ownWrite) :=
    except_eq_ok_of_toOption (by decide +kernel)
  exact (Merges.known isKnown (Or.inr ⟨ownWrite, isNamed, rfl⟩)).reconcile_eq

theorem reconcile_settles_ownAnswer :
    ownLog.rows.countP (fun row => row.id == ownWrite.id) = 1 ∧
      ((∀ row ∈ ownLog.rows, row.id = ownWrite.id → ¬row.Pending) ∧
          (∀ row ∈ ownLog.rows, row.NamedBy ownAnswer → ¬row.Pending) ↔
        ¬ownLog.Stuck ownAnswer) := by
  have settles := reconcile_settles ownLog_reachable ownAnswer_duplicate
  simp only [Outcome.id] at settles
  exact settles

/-- A write that the server acknowledges under the id that it was given here stays pending. -/
theorem pending_after_reconcile :
    ¬∀ (store after : Store) (incoming : Message) (window : MatchWindow) (outcome : Outcome),
      Reachable store →
      (MessageLog.reconcile incoming window).runOn store = (.ok outcome, after) →
      after.rows.countP (fun row => row.id == outcome.id) = 1 ∧
        (∀ row ∈ after.rows, row.id = outcome.id → ¬row.Pending) ∧
          (∀ row ∈ after.rows, row.NamedBy incoming → ¬row.Pending) := by
  intro settles
  have settled := settles ownLog ownLog ownAnswer .standard _ ownLog_reachable ownAnswer_duplicate
  exact settled.2.1 (Row.ofMessage ownWrite) (by simp [ownLog]) rfl rfl

end Store

end MessageSync
