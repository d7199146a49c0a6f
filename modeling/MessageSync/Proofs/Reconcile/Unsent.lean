import MessageSync.Proofs.Reconcile.Pending
import MessageSync.Proofs.Time.StoredOrder
import MessageSync.Simulation.Fixtures

/-!
# Records that wait to be sent

Records become pending only where they are written here, with a local id. Nothing that is merged
from the server is stored as pending, and nothing that was pending is stored as pending under
another conversation. This holds of every log that keeps its records in a store, also if some of its
operations fail and a reconciliation ends halfway.

The pending records of a conversation are listed oldest first.
-/

namespace MessageSync

namespace Row

/-- The record that the row stands for is pending. -/
def ReadsPending (row : Row) : Prop :=
  SyncStatus.ofName? row.syncStatus = some .pending

instance (row : Row) : Decidable row.ReadsPending :=
  inferInstanceAs (Decidable (_ = _))

/-- The row was written for a pending record with a local id. -/
def Unsent (row : Row) : Prop :=
  ∃ message, row = ofMessage message ∧ message.syncStatus = .pending ∧ message.localId.isSome

theorem readsPending_ofMessage {message : Message} :
    (ofMessage message).ReadsPending ↔ message.syncStatus = .pending := by
  simp only [ReadsPending, ofMessage, SyncStatus.ofName?_name, Option.some.injEq]

theorem Pending.reads {row : Row} (pending : row.Pending) : row.ReadsPending :=
  (congrArg SyncStatus.ofName? pending).trans (SyncStatus.ofName?_name .pending)

theorem Unsent.pending {row : Row} (unsent : row.Unsent) : row.Pending := by
  rcases unsent with ⟨message, rfl, pending, -⟩
  exact pending_ofMessage.mpr pending

@[simp]
theorem renamePrevious_readsPending {row : Row} {oldId newId : String} :
    (row.renamePrevious oldId newId).ReadsPending ↔ row.ReadsPending := by
  simp only [ReadsPending, renamePrevious_syncStatus]

theorem Unsent.renamePrevious {row : Row} (unsent : row.Unsent) (oldId newId : String) :
    (row.renamePrevious oldId newId).Unsent := by
  rcases unsent with ⟨message, rfl, pending, named⟩
  rw [renamePrevious_ofMessage]
  exact ⟨_, rfl, pending, named⟩

end Row

namespace Store

/-- Every pending record was written here, in one of the conversations. -/
def PendingWithin (store : Store) (conversations : String → Prop) : Prop :=
  ∀ row ∈ store.rows, row.ReadsPending → row.Unsent ∧ conversations row.conversationId

variable {store after : Store} {conversations : String → Prop}

theorem PendingWithin.mono {others : String → Prop} (within : store.PendingWithin conversations)
    (wider : ∀ conversationId, conversations conversationId → others conversationId) :
    store.PendingWithin others := by
  intro row mem pending
  rcases within row mem pending with ⟨unsent, inside⟩
  exact ⟨unsent, wider _ inside⟩

/-! ## Operations of a store -/

theorem PendingWithin.insert (within : store.PendingWithin conversations) {message : Message}
    (unsent : message.syncStatus = .pending →
      message.localId.isSome ∧ conversations message.conversationId)
    (inserted : store.insert message = .ok after) : after.PendingWithin conversations := by
  rcases insert_eq_ok.mp inserted with ⟨-, rfl⟩
  intro row mem pending
  rcases List.mem_append.mp mem with mem | mem
  · exact within row mem pending
  · rw [List.mem_singleton] at mem
    subst mem
    rw [Row.readsPending_ofMessage] at pending
    rcases unsent pending with ⟨named, inside⟩
    exact ⟨⟨message, rfl, pending, named⟩, inside⟩

theorem PendingWithin.overwrite (within : store.PendingWithin conversations) {id blamed : String}
    {message : Message} (settled : message.syncStatus ≠ .pending)
    (overwrote : store.overwrite id message blamed = .ok after) :
    after.PendingWithin conversations := by
  rcases overwrite_eq_ok.mp overwrote with ⟨-, rfl⟩
  intro row mem pending
  rcases List.mem_map.mp mem with ⟨other, otherMem, rfl⟩
  simp only [overwritten] at pending ⊢
  split at pending
  · rw [Row.readsPending_ofMessage] at pending
    exact absurd pending settled
  · next elsewhere =>
      rw [if_neg elsewhere]
      exact within other otherMem pending

theorem PendingWithin.renamePrevious (within : store.PendingWithin conversations)
    (oldId newId : String) : (store.renamePrevious oldId newId).PendingWithin conversations := by
  intro row mem pending
  rcases List.mem_map.mp mem with ⟨other, otherMem, rfl⟩
  rw [Row.renamePrevious_readsPending] at pending
  rw [Row.renamePrevious_conversationId]
  rcases within other otherMem pending with ⟨unsent, inside⟩
  exact ⟨unsent.renamePrevious oldId newId, inside⟩

theorem PendingWithin.update (within : store.PendingWithin conversations) {id : String}
    {status : SyncStatus} {result : Message} (settled : status ≠ .pending)
    (updated : store.update id (.status status) = .ok (result, after)) :
    after.PendingWithin conversations := by
  rcases update_eq_ok.mp updated with ⟨message, -, rfl, overwrote⟩
  exact within.overwrite settled overwrote

theorem PendingWithin.replaceId (within : store.PendingWithin conversations)
    {oldId newId : String} {patch : MessagePatch} {status : SyncStatus} {result : Message}
    (settles : patch.syncStatus = some status) (settled : status ≠ .pending)
    (replaced : store.replaceId oldId newId patch = .ok (result, after)) :
    after.PendingWithin conversations := by
  rcases replaceId_eq_ok.mp replaced with ⟨message, written, -, -, rfl, overwrote, rfl⟩
  refine (within.overwrite ?_ overwrote).renamePrevious oldId newId
  simpa [MessagePatch.apply, settles] using settled

/-- The record that takes over a local id had none, so it is not one that was written here. -/
theorem PendingWithin.absorb (within : store.PendingWithin conversations)
    {duplicateId canonicalId : String} {result : Message}
    (absorbed : store.absorb duplicateId canonicalId = .ok (result, after)) :
    after.PendingWithin conversations := by
  rcases absorb_eq_ok.mp absorbed with
    ⟨-, duplicate, canonical, kept, -, canonicalLoaded, rfl, outcome⟩
  have left : PendingWithin { store with
      rows := store.rows.filter fun row => row.id ≠ duplicateId } conversations :=
    fun row mem => within row (List.mem_filter.mp mem).1
  refine PendingWithin.renamePrevious ?_ duplicateId canonicalId
  rcases outcome with ⟨takes, rfl, overwrote⟩ | ⟨-, -, rfl⟩
  · refine left.overwrite ?_ overwrote
    intro pending
    rcases exists_row_of_load canonicalLoaded with ⟨row, mem, -, holds⟩
    have reads : row.ReadsPending := holds.syncStatus.trans (congrArg some pending)
    rcases within row mem reads with ⟨⟨message, rfl, -, named⟩, -⟩
    have unnamed := takes.1
    rw [holds.localId, Option.isNone_iff_eq_none] at unnamed
    rw [show message.localId = none from unnamed] at named
    cases named
  · exact left

/-! ## The records that are listed -/

/-- The records are those of the pending rows of the conversation, each once and oldest first. -/
structure ListsPending (store : Store) (conversationId : String) (records : List Message) :
    Prop where
  rows : (records.map Row.ofMessage).Perm
    (store.rows.filter fun row => row.conversationId = conversationId ∧ row.ReadsPending)
  oldestFirst : records.Pairwise fun first second => ¬second.createdAt.Before first.createdAt
  named : ∀ record ∈ records, record.localId.isSome

/-- Rows in the order of their creation hold records in the order of time. -/
theorem not_before_of_inCreationOrder {first second : Message}
    (order : (Row.ofMessage first).inCreationOrder (Row.ofMessage second) = true)
    (firstStorable : first.Storable) (secondStorable : second.Storable) :
    ¬second.createdAt.Before first.createdAt := by
  intro before
  have later := Timestamp.storedText_lt before secondStorable.created firstStorable.created
  rcases Row.inCreationOrder_iff.mp order with earlier | ⟨same, -⟩
  · exact String.lt_irrefl _ (String.lt_trans earlier later)
  · have same : Timestamp.storedText first.createdAt = Timestamp.storedText second.createdAt := same
    rw [same] at later
    exact String.lt_irrefl _ later

theorem PendingWithin.listsPending (within : store.PendingWithin conversations)
    {conversationId : String} {records : List Message}
    (listed : store.pending conversationId = .ok records) :
    store.ListsPending conversationId records := by
  rcases exists_rows_of_pending listed with ⟨rows, allRead, sorted, same⟩
  have unsent : ∀ row ∈ rows, row.Unsent := by
    intro row mem
    rcases mem_filter_pending.mp (same.mem_iff.mp mem) with ⟨stored, -, pending⟩
    exact (within row stored pending.reads).1
  have written : records.map Row.ofMessage = rows := by
    refine map_of_mapM_eq_ok allRead ?_
    intro row mem record read
    rcases unsent row mem with ⟨message, rfl, -, -⟩
    rw [(Row.toMessage_ofMessage.mp read).2]
  have storable : ∀ record ∈ records, record.Storable := by
    intro record mem
    rcases mem_of_mapM_eq_ok allRead mem with ⟨row, rowMem, read⟩
    rcases unsent row rowMem with ⟨message, rfl, -, -⟩
    rcases Row.toMessage_ofMessage.mp read with ⟨storable, rfl⟩
    exact storable
  refine ⟨?_, ?_, ?_⟩
  · rw [written]
    refine same.trans (.of_eq (List.filter_congr fun row mem => ?_))
    rw [Bool.eq_iff_iff, decide_eq_true_eq, Bool.and_eq_true, beq_iff_eq, beq_iff_eq]
    refine and_congr_right fun _ => ⟨Row.Pending.reads, fun reads => ?_⟩
    exact (within row mem reads).1.pending
  · rw [← written, List.pairwise_map] at sorted
    apply List.Pairwise.imp_of_mem _ sorted
    intro first second firstMem secondMem order
    exact not_before_of_inCreationOrder order (storable first firstMem) (storable second secondMem)
  · intro record mem
    have rowMem : Row.ofMessage record ∈ rows := written ▸ List.mem_map_of_mem mem
    rcases unsent _ rowMem with ⟨message, rowEq, -, named⟩
    have same : record.localId = message.localId := congrArg Row.localId rowEq
    rw [same]
    exact named

end Store

/-! ## Computations on a log -/

namespace LogM

variable {σ α β : Type} {holds : σ → Prop}

/-- If the property holds of a log, it holds of the log that the computation leaves. -/
def Keeps (holds : σ → Prop) (computation : LogM σ α) : Prop :=
  ∀ log, holds log → holds (computation.runOn log).2

theorem keeps_pure (value : α) : Keeps holds (pure value : LogM σ α) :=
  fun _ held => held

theorem keeps_query (question : σ → Except LogError α) : Keeps holds (query question) :=
  fun _ held => held

theorem Keeps.bind {first : LogM σ α} {next : α → LogM σ β} (kept : Keeps holds first)
    (keptNext : ∀ value, Keeps holds (next value)) : Keeps holds (first >>= next) := by
  intro log held
  have middle := kept log held
  rw [runOn_bind]
  generalize first.runOn log = ran at middle ⊢
  rcases ran with ⟨_ | value, left⟩
  · exact middle
  · exact keptNext value left middle

theorem keeps_change {operation : σ → Except LogError (α × σ)}
    (kept : ∀ log result after, holds log → operation log = .ok (result, after) → holds after) :
    Keeps holds (change operation) := by
  intro log held
  simp only [runOn, change]
  split
  · next result after done => exact kept log result after held done
  · exact held

theorem keeps_modify {operation : σ → Except LogError σ}
    (kept : ∀ log after, holds log → operation log = .ok after → holds after) :
    Keeps holds (modify operation) := by
  refine keeps_change fun log result after held done => ?_
  rcases except_map_eq_ok.mp done with ⟨_, made, same⟩
  cases same
  exact kept log after held made

end LogM

/-- A log that keeps its records in a store. An operation that succeeds is the store's. -/
class StoreBacked (σ : Type) [MessageLog σ] where
  store : σ → Store
  insert {log after : σ} {message : Message} : MessageLog.insert log message = .ok after →
    (store log).insert message = .ok (store after)
  update {log after : σ} {id : String} {patch : MessagePatch} {result : Message} :
    MessageLog.update log id patch = .ok (result, after) →
      (store log).update id patch = .ok (result, store after)
  replaceId {log after : σ} {oldId newId : String} {patch : MessagePatch} {result : Message} :
    MessageLog.replaceId log oldId newId patch = .ok (result, after) →
      (store log).replaceId oldId newId patch = .ok (result, store after)
  absorb {log after : σ} {duplicateId canonicalId : String} {result : Message} :
    MessageLog.absorb log duplicateId canonicalId = .ok (result, after) →
      (store log).absorb duplicateId canonicalId = .ok (result, store after)
  pending {log : σ} {conversationId : String} {records : List Message} :
    MessageLog.pending log conversationId = .ok records →
      (store log).pending conversationId = .ok records

instance : StoreBacked Store :=
  ⟨id, id, id, id, id, id⟩

namespace FaultyStore

variable {α : Type} {log : FaultyStore} {name : String}

theorem run_of_guarded {run : Except LogError α} {result : α}
    (done : log.guarded name run = .ok result) : run = .ok result := by
  simp only [guarded] at done
  split at done
  · cases done
  · exact done

theorem run_of_afterwards {run : Except LogError (α × Store)} {result : α} {after : FaultyStore}
    (done : log.guarded name (run.map log.afterwards) = .ok (result, after)) :
    run = .ok (result, after.store) := by
  rcases except_map_eq_ok.mp (run_of_guarded done) with ⟨⟨given, store⟩, ran, same⟩
  cases same
  exact ran

instance : StoreBacked FaultyStore where
  store := FaultyStore.store
  insert done := by
    rcases except_map_eq_ok.mp (run_of_guarded done) with ⟨store, ran, same⟩
    cases same
    exact ran
  update done := run_of_afterwards done
  replaceId done := run_of_afterwards done
  absorb done := run_of_afterwards done
  pending done := run_of_guarded done

end FaultyStore

namespace MessageLog

variable {σ : Type} [MessageLog σ] {holds : σ → Prop}

theorem keeps_findKnown (serverId : String) : LogM.Keeps holds (findKnown serverId) := by
  refine .bind (LogM.keeps_query _) fun found => ?_
  cases found with
  | none => exact LogM.keeps_query _
  | some found => exact LogM.keeps_pure _

theorem keeps_findNamed (incoming : Message) : LogM.Keeps holds (findNamed incoming) := by
  simp only [findNamed]
  split
  · exact LogM.keeps_query _
  · exact LogM.keeps_pure _

theorem keeps_findEcho (incoming : Message) (window : MatchWindow) :
    LogM.Keeps holds (findEcho incoming window) := by
  simp only [findEcho]
  split
  · exact LogM.keeps_pure _
  · exact .bind (LogM.keeps_query _) fun _ => LogM.keeps_pure _

theorem keeps_absorbNamed {incoming existing : Message} {status : SyncStatus}
    (absorbs : ∀ log duplicateId result after, holds log →
      absorb log duplicateId existing.id = .ok (result, after) → holds after)
    (settles : ∀ log result after, holds log →
      update log existing.id (.status status) = .ok (result, after) → holds after) :
    LogM.Keeps holds (absorbNamed incoming existing status) := by
  refine .bind (keeps_findNamed _) fun named => ?_
  cases named with
  | none => exact LogM.keeps_pure _
  | some named =>
      simp only
      split
      · exact LogM.keeps_pure _
      · refine .bind (LogM.keeps_change fun log => absorbs log named.id) fun _ => ?_
        split
        · exact .bind (LogM.keeps_change settles) fun _ => LogM.keeps_pure _
        · exact LogM.keeps_pure _

/-- Reconciling a record keeps what the four changes that it may make keep, whether or not it
succeeds. -/
theorem keeps_reconcile_of {incoming : Message} {window : MatchWindow}
    (absorbs : ∀ log duplicateId canonicalId result after, holds log →
      absorb log duplicateId canonicalId = .ok (result, after) → holds after)
    (settles : ∀ log id result after, holds log →
      update log id (.status incoming.settledStatus) = .ok (result, after) → holds after)
    (replaces : ∀ log oldId patch result after, holds log →
      patch.syncStatus = some incoming.settledStatus →
      replaceId log oldId incoming.serverKey patch = .ok (result, after) → holds after)
    (inserts : ∀ log after, holds log → insert log incoming.acknowledged = .ok after →
      holds after) :
    LogM.Keeps holds (reconcile incoming window) := by
  simp only [reconcile]
  refine .bind (keeps_findKnown _) fun known => ?_
  cases known with
  | some existing =>
      exact .bind (keeps_absorbNamed (fun log duplicateId => absorbs log duplicateId existing.id)
        fun log => settles log existing.id) fun _ => LogM.keeps_pure _
  | none =>
  refine .bind (keeps_findNamed _) fun named => ?_
  cases named with
  | some named =>
      exact .bind (LogM.keeps_change fun log result after held =>
        replaces log named.id _ result after held rfl) fun _ => LogM.keeps_pure _
  | none =>
  refine .bind (keeps_findEcho _ _) fun echo => ?_
  cases echo with
  | some echo =>
      exact .bind (LogM.keeps_change fun log result after held =>
        replaces log echo.id _ result after held rfl) fun _ => LogM.keeps_pure _
  | none => exact .bind (LogM.keeps_modify inserts) fun _ => LogM.keeps_pure _

/-- Reconciling leaves no new pending record, whether or not it succeeds. -/
theorem keeps_reconcile [StoreBacked σ] {conversations : String → Prop} (incoming : Message)
    (window : MatchWindow) :
    LogM.Keeps (fun log : σ => (StoreBacked.store log).PendingWithin conversations)
      (reconcile incoming window) := by
  have settled := incoming.settledStatus_ne_pending
  apply keeps_reconcile_of
  · intro log duplicateId canonicalId result after within absorbed
    exact within.absorb (StoreBacked.absorb absorbed)
  · intro log id result after within updated
    exact within.update settled (StoreBacked.update updated)
  · intro log oldId patch result after within settles replaced
    exact within.replaceId settles settled (StoreBacked.replaceId replaced)
  · intro log after within inserted
    exact within.insert (fun pending => absurd pending settled) (StoreBacked.insert inserted)

end MessageLog

end MessageSync
