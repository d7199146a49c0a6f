import MessageSync.Proofs.Reconcile.Calls
import MessageSync.Proofs.Reconcile.Report

/-!
# Calls that fail

A call that fails leaves every row as it was. The operations of a store are one statement, or several
in a transaction, which undoes what was done before the statement that fails. A reconciliation is not
a transaction: it may merge two records and then fail to set the sync state of the one that is left,
because its row was rewritten and one of its times does not read back. That is the only way in which
a call that fails leaves a trace.
-/

namespace MessageSync

namespace LogM

variable {σ α : Type}

/-- A computation in a transaction: if it fails, what it did is undone. -/
def transaction (body : LogM σ α) : LogM σ α :=
  fun log =>
    match body.runOn log with
    | (.ok result, after) => (.ok result, after)
    | (.error error, _) => (.error error, log)

theorem runOn_transaction {body : LogM σ α} {log : σ} :
    (transaction body).runOn log =
      match body.runOn log with
      | (.ok result, after) => (.ok result, after)
      | (.error error, _) => (.error error, log) := rfl

end LogM

namespace Store

variable {store after : Store} {incoming : Message} {window : MatchWindow}

/-! ## Statement by statement -/

/-- The statements that give a record a new id. -/
def replaceIdStatements (oldId newId : String) (patch : MessagePatch) : LogM Store Message := do
  let message ← LogM.query (load · oldId)
  let taken ← LogM.query fun store => .ok (store.rows.any fun row => row.id == newId)
  if newId ≠ oldId ∧ taken then throw (.duplicate newId)
  let message := { patch.apply message with id := newId }
  LogM.modify (overwrite · oldId message newId)
  LogM.modify fun store => .ok (store.renamePrevious oldId newId)
  return message

/-- The statements that merge a record into another. -/
def absorbStatements (duplicateId canonicalId : String) : LogM Store Message := do
  if duplicateId = canonicalId then
    throw (.invalidInput ("cannot absorb message " ++ duplicateId ++ " into itself"))
  let duplicate ← LogM.query (load · duplicateId)
  let canonical ← LogM.query (load · canonicalId)
  LogM.modify fun store =>
    .ok { store with rows := store.rows.filter fun row => row.id ≠ duplicateId }
  if canonical.localId.isNone ∧ duplicate.conversationId = canonical.conversationId then
    let canonical := { canonical with localId := duplicate.localId }
    LogM.modify (overwrite · canonicalId canonical canonicalId)
    LogM.modify fun store => .ok (store.renamePrevious duplicateId canonicalId)
    return canonical
  else
    LogM.modify fun store => .ok (store.renamePrevious duplicateId canonicalId)
    return canonical

theorem runOn_transaction_replaceIdStatements {oldId newId : String} {patch : MessagePatch} :
    (LogM.transaction (replaceIdStatements oldId newId patch)).runOn store =
      (LogM.change (replaceId · oldId newId patch)).runOn store := by
  simp only [LogM.runOn_transaction, replaceIdStatements, LogM.runOn_bind, LogM.runOn_query,
    LogM.runOn_change, replaceId]
  cases store.load oldId with
  | error error => rfl
  | ok message =>
      by_cases taken : newId ≠ oldId ∧ (store.rows.any fun row => row.id == newId) = true
      · simp only [if_pos taken]
        rfl
      · simp only [if_neg taken, LogM.runOn_bind, LogM.runOn_modify]
        cases written : store.overwrite oldId { patch.apply message with id := newId } newId <;>
          simp only [bind, Except.bind, written]
        all_goals rfl

theorem runOn_transaction_absorbStatements {duplicateId canonicalId : String} :
    (LogM.transaction (absorbStatements duplicateId canonicalId)).runOn store =
      (LogM.change (absorb · duplicateId canonicalId)).runOn store := by
  simp only [LogM.runOn_transaction, absorbStatements, LogM.runOn_change, absorb]
  by_cases same : duplicateId = canonicalId
  · simp only [if_pos same]
    rfl
  simp only [if_neg same, LogM.runOn_bind, LogM.runOn_query]
  cases store.load duplicateId with
  | error error => rfl
  | ok duplicate =>
  cases loaded : store.load canonicalId with
  | error error =>
      simp only [loaded]
      rfl
  | ok canonical =>
      simp only [loaded, LogM.runOn_modify]
      by_cases takes : canonical.localId.isNone = true ∧
          duplicate.conversationId = canonical.conversationId
      · simp only [if_pos takes, LogM.runOn_bind, LogM.runOn_modify]
        cases written : overwrite { store with
            rows := store.rows.filter fun row => row.id ≠ duplicateId } canonicalId
            { canonical with localId := duplicate.localId } canonicalId <;>
          simp only [bind, Except.bind, if_pos takes, written]
        all_goals rfl
      · simp only [bind, Except.bind, if_neg takes]
        rfl

/-- The call statement by statement, with the transactions that the operations use. Reconciling is one
operation after the other, with no transaction around them. -/
def Call.statements : Call → LogM Store Unit
  | replaceId oldId newId patch => do
    let _ ← LogM.transaction (replaceIdStatements oldId newId patch)
  | absorb duplicateId canonicalId => do
    let _ ← LogM.transaction (absorbStatements duplicateId canonicalId)
  | call => call.perform

theorem Call.runOn_statements (call : Call) :
    call.statements.runOn store = call.perform.runOn store := by
  cases call with
  | replaceId oldId newId patch =>
      simp only [statements, perform, LogM.runOn_bind]
      rw [runOn_transaction_replaceIdStatements]
      rfl
  | absorb duplicateId canonicalId =>
      simp only [statements, perform, LogM.runOn_bind]
      rw [runOn_transaction_absorbStatements]
      rfl
  | insert | update | upsert | reconcile => rfl

/-! ## What is left after a failure -/

/-- The call is to reconcile a record that spoils a row. -/
def Call.Spoils (store : Store) : Call → Prop
  | reconcile incoming _ => store.Spoils incoming
  | _ => False

theorem eq_of_change_error {α : Type} {operation : Store → Except LogError (α × Store)}
    {error : LogError}
    (failed : (do let _ ← LogM.change operation : LogM Store Unit).runOn store =
      (.error error, after)) : after = store := by
  rcases LogM.runOn_bind_eq_error.mp failed with failed | ⟨result, middle, -, done⟩
  · exact (LogM.runOn_change_eq_error.mp failed).2
  · cases done

theorem runOn_absorbNamed_of_unset {existing other merged : Message} {status : SyncStatus}
    {error : LogError} (isNamed : store.named incoming = .ok (some other))
    (different : other.id ≠ existing.id)
    (absorbs : store.absorb other.id existing.id = .ok (merged, after))
    (unsettled : existing.syncStatus ≠ status)
    (unset : after.update existing.id (.status status) = .error error) :
    (MessageLog.absorbNamed incoming existing status).runOn store = (.error error, after) := by
  refine LogM.runOn_bind_eq_error.mpr
    (Or.inr ⟨some other, store, by rw [runOn_findNamed, isNamed], ?_⟩)
  simp only [if_neg different]
  refine LogM.runOn_bind_eq_error.mpr
    (Or.inr ⟨merged, after, LogM.runOn_change_eq_ok.mpr absorbs, ?_⟩)
  rw [if_pos unsettled]
  exact LogM.runOn_bind_eq_error.mpr (Or.inl (LogM.runOn_change_eq_error.mpr ⟨unset, rfl⟩))

/-- A reconciliation that spoils a row merges two records and then fails. -/
theorem Spoils.exists_failed (unique : store.UniqueKeys) (spoils : store.Spoils incoming) :
    ∃ error after, (MessageLog.reconcile incoming window).runOn store = (.error error, after) ∧
      after.rows.length + 1 = store.rows.length := by
  rcases spoils with
    ⟨existing, other, isKnown, isNamed, different, takes, unsettled, notStorable⟩
  rcases exists_row_of_known isKnown with ⟨knownRow, knownMem, -, knownHolds⟩
  rcases exists_row_of_named isNamed with ⟨namedRow, namedMem, -, namedHolds⟩
  rcases unique.exists_absorb namedMem namedHolds knownMem knownHolds different with
    ⟨merged, middle, absorbs⟩
  have unread : ¬∃ final, Settles existing incoming.settledStatus middle final := by
    rw [exists_settles_iff unique knownMem knownHolds namedMem namedHolds absorbs]
    exact fun readsBack => notStorable (readsBack unsettled takes)
  cases updated : middle.update existing.id (.status incoming.settledStatus) with
  | ok settled => exact absurd ⟨settled.2, Or.inr ⟨unsettled, settled.1, updated⟩⟩ unread
  | error error =>
      refine ⟨error, middle, ?_, length_absorb unique absorbs⟩
      refine LogM.runOn_bind_eq_error.mpr
        (Or.inr ⟨some existing, store, by rw [runOn_findKnown, isKnown], ?_⟩)
      exact LogM.runOn_bind_eq_error.mpr
        (Or.inl (runOn_absorbNamed_of_unset isNamed different absorbs unsettled updated))

/-- A reconciliation that fails and changes the store has spoiled a row. -/
theorem spoils_of_failed (unique : store.UniqueKeys) {error : LogError}
    (failed : (MessageLog.reconcile incoming window).runOn store = (.error error, after))
    (changed : after ≠ store) : store.Spoils incoming := by
  rcases reconcile_eq_error failed with
    same | ⟨existing, other, merged, isKnown, isNamed, different, absorbs, unsettled, unset⟩
  · exact absurd same changed
  rcases exists_row_of_known isKnown with ⟨knownRow, knownMem, -, knownHolds⟩
  rcases exists_row_of_named isNamed with ⟨namedRow, namedMem, -, namedHolds⟩
  have unread : ¬∃ final, Settles existing incoming.settledStatus after final := by
    rintro ⟨final, ⟨settled, -⟩ | ⟨-, result, updated⟩⟩
    · exact unsettled settled
    · cases updated.symm.trans unset
  rw [exists_settles_iff unique knownMem knownHolds namedMem namedHolds absorbs] at unread
  push Not at unread
  rcases unread with ⟨-, takes, notStorable⟩
  exact ⟨existing, other, isKnown, isNamed, different, takes, unsettled, notStorable⟩

theorem unchanged_of_performed_iff (unique : store.UniqueKeys) (call : Call) :
    (∀ error after, call.perform.runOn store = (.error error, after) → after = store) ↔
      ¬call.Spoils store := by
  cases call with
  | insert message | upsert message =>
      refine iff_of_true (fun error after failed => ?_) not_false
      exact (LogM.runOn_change_eq_error.mp failed).2
  | update | replaceId | absorb =>
      refine iff_of_true (fun error after failed => ?_) not_false
      exact eq_of_change_error failed
  | reconcile incoming window =>
      constructor
      · intro kept spoils
        rcases spoils.exists_failed unique with ⟨error, after, ran, shorter⟩
        have same := kept error after (LogM.runOn_bind_eq_error.mpr (Or.inl ran))
        rw [same] at shorter
        omega
      · intro sound error after failed
        rcases LogM.runOn_bind_eq_error.mp failed with ran | ⟨outcome, middle, -, done⟩
        · by_contra changed
          exact sound (spoils_of_failed unique ran changed)
        · cases done

/-- What a call does is what its statements do, one after the other. If one of them fails, a store
with unique keys is left as it was, unless the call is to reconcile a record that spoils a row. -/
theorem unchanged_of_failed_iff (unique : store.UniqueKeys) (call : Call) :
    call.perform.runOn store = call.statements.runOn store ∧
      ((∀ error after, call.statements.runOn store = (.error error, after) → after = store) ↔
        ¬call.Spoils store) := by
  refine ⟨call.runOn_statements.symm, ?_⟩
  rw [call.runOn_statements]
  exact unchanged_of_performed_iff unique call

theorem unchanged_of_failed_unreadable :
    let store := doubled "yesterday"
    let call := Call.reconcile replacement .standard
    store.UniqueKeys ∧ ¬call.Spoils store ∧
      ∃ error, call.perform.runOn store = (.error error, store) := by
  intro store call
  have unread : (store.known replacement.serverKey).toOption = none := by decide +kernel
  have sound : ¬call.Spoils store := by
    rintro ⟨existing, other, isKnown, -⟩
    rw [isKnown] at unread
    cases unread
  have unique : store.UniqueKeys := doubled_unique _
  rcases unchanged_of_failed_iff unique call with ⟨performs, kept⟩
  have failed : (call.perform.runOn store).1.toOption = none := by decide +kernel
  refine ⟨unique, sound, ?_⟩
  rcases ran : call.perform.runOn store with ⟨error | result, after⟩
  · exact ⟨error, by rw [kept.mpr sound error after (performs.symm.trans ran)]⟩
  · rw [ran] at failed
    cases failed

/-- The server's version names a record written here, whose row goes. The row that is left was stored
with an offset, and cannot be read once it is rewritten. -/
theorem replacement_fails_midway :
    ¬∀ (store : Store) (call : Call), store.UniqueKeys → ∀ error after,
      call.perform.runOn store = (.error error, after) → after.rows = store.rows := by
  intro unchanged
  let store := doubled "0000-01-01T00:00:00+01:00"
  let call := Call.reconcile replacement .standard
  have failed : (call.perform.runOn store).1.toOption = none := by decide +kernel
  have oneLeft : (call.perform.runOn store).2.rows.length = 1 := by decide +kernel
  rcases ran : call.perform.runOn store with ⟨error | result, after⟩
  · rw [ran] at oneLeft
    have same := unchanged store call (doubled_unique _) error after ran
    rw [same] at oneLeft
    cases oneLeft
  · rw [ran] at failed
    cases failed

end Store

end MessageSync
