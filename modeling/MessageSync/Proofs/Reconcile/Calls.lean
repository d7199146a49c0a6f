import MessageSync.Proofs.Reconcile.Unsent

/-!
# Calls that change a store

The five operations that change a store, and reconciling, with any arguments and in any order. What
such calls make of an empty store has unique keys, and each of its rows was written for a record, so
that the fingerprint of a row is that of its own role and contents. A call that fails is a call like
any other here: what it leaves is kept.
-/

namespace MessageSync

namespace Row

/-- The fingerprint is that of the row's role and contents. -/
def Fingerprinted (row : Row) : Prop :=
  ∃ role : Role, row.role = role.name ∧ row.fingerprint = Fingerprint.of role row.contents

/-- The row was written for a record. -/
def Recorded (row : Row) : Prop :=
  ∃ message, row = ofMessage message

variable {row : Row}

theorem Recorded.fingerprinted (recorded : row.Recorded) : row.Fingerprinted := by
  rcases recorded with ⟨message, rfl⟩
  exact ⟨message.role, rfl, rfl⟩

theorem Recorded.renamePrevious (recorded : row.Recorded) (oldId newId : String) :
    (row.renamePrevious oldId newId).Recorded := by
  rcases recorded with ⟨message, rfl⟩
  rw [renamePrevious_ofMessage]
  exact ⟨_, rfl⟩

end Row

namespace Store

/-- A call that changes a store. -/
inductive Call where
  | insert (message : Message)
  | update (id : String) (patch : MessagePatch)
  | upsert (message : Message)
  | replaceId (oldId newId : String) (patch : MessagePatch)
  | absorb (duplicateId canonicalId : String)
  | reconcile (incoming : Message) (window : MatchWindow)

/-- What the call does to a store. What it returns when it succeeds is left out. -/
def Call.perform : Call → LogM Store Unit
  | insert message => LogM.modify (MessageLog.insert · message)
  | update id patch => do let _ ← LogM.change (MessageLog.update · id patch)
  | upsert message => LogM.modify (MessageLog.upsert · message)
  | replaceId oldId newId patch => do
    let _ ← LogM.change (MessageLog.replaceId · oldId newId patch)
  | absorb duplicateId canonicalId => do
    let _ ← LogM.change (MessageLog.absorb · duplicateId canonicalId)
  | reconcile incoming window => do let _ ← MessageLog.reconcile incoming window

/-- The store that a call leaves, whether or not it succeeds. -/
def afterCall (store : Store) (call : Call) : Store :=
  (call.perform.runOn store).2

/-- The keys are unique, and every row was written for a record. -/
structure Orderly (store : Store) : Prop where
  unique : store.UniqueKeys
  recorded : ∀ row ∈ store.rows, row.Recorded

variable {store after : Store}

theorem orderly_empty : empty.Orderly :=
  ⟨List.Pairwise.nil, by simp [empty]⟩

/-! ## One operation -/

theorem Orderly.insert (orderly : store.Orderly) {message : Message}
    (inserted : store.insert message = .ok after) : after.Orderly := by
  refine ⟨orderly.unique.insert inserted, ?_⟩
  rcases insert_eq_ok.mp inserted with ⟨-, rfl⟩
  intro row mem
  rcases List.mem_append.mp mem with old | new
  · exact orderly.recorded row old
  · exact ⟨message, List.mem_singleton.mp new⟩

theorem Orderly.overwrite (orderly : store.Orderly) {id blamed : String} {message : Message}
    (written : store.overwrite id message blamed = .ok after) : after.Orderly := by
  refine ⟨orderly.unique.overwrite written, ?_⟩
  rcases overwrite_eq_ok.mp written with ⟨-, rfl⟩
  intro row mem
  rcases List.mem_map.mp mem with ⟨other, otherMem, rfl⟩
  simp only [overwritten]
  split
  · exact ⟨message, rfl⟩
  · exact orderly.recorded other otherMem

theorem Orderly.upsert (orderly : store.Orderly) {message : Message}
    (upserted : store.upsert message = .ok after) : after.Orderly := by
  simp only [Store.upsert] at upserted
  split at upserted
  · exact orderly.overwrite upserted
  · exact orderly.insert upserted

theorem Orderly.renamePrevious (orderly : store.Orderly) (oldId newId : String) :
    (store.renamePrevious oldId newId).Orderly := by
  refine ⟨orderly.unique.renamePrevious oldId newId, ?_⟩
  intro row mem
  rcases mem_renamePrevious.mp mem with ⟨source, sourceMem, rfl⟩
  exact (orderly.recorded source sourceMem).renamePrevious oldId newId

theorem Orderly.filter (orderly : store.Orderly) (test : Row → Bool) :
    Orderly { store with rows := store.rows.filter test } :=
  ⟨orderly.unique.filter test, fun row mem => orderly.recorded row (List.mem_filter.mp mem).1⟩

theorem Orderly.update (orderly : store.Orderly) {id : String} {patch : MessagePatch}
    {result : Message} (updated : store.update id patch = .ok (result, after)) :
    after.Orderly := by
  rcases update_eq_ok.mp updated with ⟨message, -, -, written⟩
  exact orderly.overwrite written

theorem Orderly.replaceId (orderly : store.Orderly) {oldId newId : String} {patch : MessagePatch}
    {result : Message} (replaced : store.replaceId oldId newId patch = .ok (result, after)) :
    after.Orderly := by
  rcases replaceId_eq_ok.mp replaced with ⟨message, written, -, -, -, overwrote, rfl⟩
  exact (orderly.overwrite overwrote).renamePrevious oldId newId

theorem Orderly.absorb (orderly : store.Orderly) {duplicateId canonicalId : String}
    {result : Message} (absorbed : store.absorb duplicateId canonicalId = .ok (result, after)) :
    after.Orderly := by
  rcases absorb_eq_ok.mp absorbed with ⟨-, duplicate, canonical, kept, -, -, rfl, outcome⟩
  apply Orderly.renamePrevious
  have removed := orderly.filter fun row => row.id ≠ duplicateId
  rcases outcome with ⟨-, -, overwrote⟩ | ⟨-, -, rfl⟩
  · exact removed.overwrite overwrote
  · exact removed

/-! ## Sequences of calls -/

theorem Call.keeps_orderly (call : Call) : LogM.Keeps Orderly call.perform := by
  cases call with
  | insert message => exact LogM.keeps_modify fun store after orderly => orderly.insert
  | upsert message => exact LogM.keeps_modify fun store after orderly => orderly.upsert
  | update id patch =>
      exact .bind (LogM.keeps_change fun store result after orderly => orderly.update)
        fun _ => LogM.keeps_pure _
  | replaceId oldId newId patch =>
      exact .bind (LogM.keeps_change fun store result after orderly => orderly.replaceId)
        fun _ => LogM.keeps_pure _
  | absorb duplicateId canonicalId =>
      exact .bind (LogM.keeps_change fun store result after orderly => orderly.absorb)
        fun _ => LogM.keeps_pure _
  | reconcile incoming window =>
      refine .bind (MessageLog.keeps_reconcile_of ?_ ?_ ?_ ?_) fun _ => LogM.keeps_pure _
      · exact fun log duplicateId canonicalId result after orderly => orderly.absorb
      · exact fun log id result after orderly => orderly.update
      · exact fun log oldId patch result after orderly _ => orderly.replaceId
      · exact fun log after orderly => orderly.insert

theorem Orderly.afterCalls (orderly : store.Orderly) (calls : List Call) :
    (calls.foldl afterCall store).Orderly := by
  induction calls generalizing store with
  | nil => exact orderly
  | cons call calls ih => exact ih (call.keeps_orderly store orderly)

/-- Whatever calls are made of a new store, no two of its rows share a key, and the fingerprint of
each is that of its own role and contents. -/
theorem keyed_and_fingerprinted_afterCalls (calls : List Call) :
    let store := calls.foldl afterCall empty
    store.UniqueKeys ∧ ∀ row ∈ store.rows, row.Fingerprinted := by
  have orderly := orderly_empty.afterCalls calls
  exact ⟨orderly.unique, fun row mem => (orderly.recorded row mem).fingerprinted⟩

end Store

end MessageSync
