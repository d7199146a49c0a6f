import MessageSync.Proofs.Reconcile.Settled

/-!
# Reconciling a record again

A reconciliation leaves one row that is known by the server id of the record, and no other that the
record names. If that row can be read, reconciling the record again finds it, has nothing to absorb,
and changes nothing. Rows that are written with years of four digits stay readable.
-/

namespace MessageSync

namespace Store

/-- Every row reads as a record that can be written again. -/
def Readable (store : Store) : Prop :=
  ∀ row ∈ store.rows, ∃ message, row.toMessage = .ok message ∧ message.Storable

variable {store after : Store} {incoming : Message} {window : MatchWindow} {row : Row}

/-! ## Staying readable -/

theorem Readable.storable (readable : store.Readable) {message : Message}
    (mem : row ∈ store.rows) (holds : row.Holds message) : message.Storable := by
  rcases readable row mem with ⟨read, rowRead, storable⟩
  rw [Row.toMessage_eq_ok.mpr holds] at rowRead
  cases rowRead
  exact storable

theorem readable_renamePrevious {oldId newId : String} {message : Message}
    (holds : row.Holds message) (storable : message.Storable) :
    ∃ moved, (row.renamePrevious oldId newId).toMessage = .ok moved ∧ moved.Storable :=
  ⟨_, Row.toMessage_eq_ok.mpr (Row.renamePrevious_holds oldId newId row holds),
    ⟨storable.created, storable.updated⟩⟩

theorem readable_ofMessage {message : Message} (storable : message.Storable) :
    ∃ read, (Row.ofMessage message).toMessage = .ok read ∧ read.Storable :=
  ⟨message, Row.toMessage_ofMessage.mpr ⟨storable, rfl⟩, storable⟩

theorem Readable.insert (readable : store.Readable) {message : Message}
    (storable : message.Storable) (inserted : store.insert message = .ok after) :
    after.Readable := by
  rcases insert_eq_ok.mp inserted with ⟨-, rfl⟩
  intro row mem
  rcases List.mem_append.mp mem with old | new
  · exact readable row old
  · rw [List.mem_singleton.mp new]
    exact readable_ofMessage storable

theorem Readable.update_status (readable : store.Readable) {id : String} {status : SyncStatus}
    {result : Message} (updated : store.update id (.status status) = .ok (result, after)) :
    after.Readable := by
  intro row mem
  rcases (mem_update updated).mp mem with rfl | ⟨rowMem, -⟩
  · rcases update_eq_ok.mp updated with ⟨message, loaded, rfl, -⟩
    rcases exists_row_of_load loaded with ⟨source, sourceMem, -, holds⟩
    have storable := readable.storable sourceMem holds
    exact readable_ofMessage ⟨storable.created, storable.updated⟩
  · exact readable row rowMem

/-- A record that takes a new id keeps its creation time, and gets the time of the last change. -/
theorem Readable.replaceId (readable : store.Readable) (storable : incoming.Storable)
    {oldId newId : String} {patch : MessagePatch} {result : Message}
    (updated : patch.updatedAt = some incoming.updatedAt)
    (replaced : store.replaceId oldId newId patch = .ok (result, after)) : after.Readable := by
  intro row mem
  rcases (mem_replaceId replaced).mp mem with ⟨source, rfl | ⟨sourceMem, -⟩, rfl⟩
  · rcases replaceId_eq_ok.mp replaced with ⟨message, -, loaded, -, rfl, -, -⟩
    rcases exists_row_of_load loaded with ⟨source, sourceMem, -, holds⟩
    have resultStorable : Message.Storable { patch.apply message with id := newId } := by
      refine ⟨(readable.storable sourceMem holds).created, ?_⟩
      simpa [MessagePatch.apply, updated] using storable.updated
    exact readable_renamePrevious (Row.holds_ofMessage resultStorable) resultStorable
  · rcases readable source sourceMem with ⟨message, read, sourceStorable⟩
    exact readable_renamePrevious (Row.toMessage_eq_ok.mp read) sourceStorable

theorem Readable.absorb (readable : store.Readable) (unique : store.UniqueKeys)
    {duplicateId canonicalId : String} {result : Message}
    (absorbed : store.absorb duplicateId canonicalId = .ok (result, after)) : after.Readable := by
  rcases exists_absorbs unique absorbed with ⟨canonical, merged, canonicalLoaded, absorbs⟩
  intro row mem
  rcases (absorbs.mem row).mp mem with ⟨source, rfl | ⟨sourceMem, -, -⟩, rfl⟩
  · rcases exists_row_of_load canonicalLoaded with ⟨kept, keptMem, -, keptHolds⟩
    have storable := readable.storable keptMem keptHolds
    rcases absorbs.holds storable with ⟨localId, holds⟩
    exact readable_renamePrevious holds ⟨storable.created, storable.updated⟩
  · rcases readable source sourceMem with ⟨message, read, sourceStorable⟩
    exact readable_renamePrevious (Row.toMessage_eq_ok.mp read) sourceStorable

theorem Readable.merges (readable : store.Readable) (unique : store.UniqueKeys)
    (storable : incoming.Storable) {outcome : Outcome}
    (merges : Merges incoming window store outcome after) : after.Readable := by
  cases merges with
  | known => exact readable
  | absorbed isKnown isNamed different absorbs settles =>
      rcases settles with ⟨-, rfl⟩ | ⟨-, settled, updates⟩
      · exact readable.absorb unique absorbs
      · exact (readable.absorb unique absorbs).update_status updates
  | adopted unknown isNamed replaces => exact readable.replaceId storable rfl replaces
  | echoed unknown unnamed isEcho replaces => exact readable.replaceId storable rfl replaces
  | inserted unknown unnamed noEcho inserts =>
      have acknowledgedStorable : incoming.acknowledged.Storable :=
        ⟨storable.created, storable.updated⟩
      exact readable.insert acknowledgedStorable inserts

/-! ## The second time -/

theorem Settled.reconcile_eq_of_holds (unique : store.UniqueKeys)
    (settled : store.Settled incoming row) {existing : Message} (holds : row.Holds existing) :
    (MessageLog.reconcile incoming window).runOn store =
      (.ok (.duplicate row.id none), store) := by
  have isKnown := known_of_knownAs unique settled.mem settled.isKnown holds
  rw [← holds.id]
  -- A known row is looked for first, so no adoption and no echo comes into question.
  apply Merges.reconcile_eq
  apply Merges.known isKnown
  by_cases named : row.NamedBy incoming
  · exact Or.inr ⟨existing, named_of_namedBy unique settled.mem named holds, rfl⟩
  · left
    rw [named_eq_none]
    intro other mem otherNamed
    rw [settled.alone other mem otherNamed] at otherNamed
    exact named otherNamed

theorem Settled.reconcile_eq (unique : store.UniqueKeys) (readable : store.Readable)
    (settled : store.Settled incoming row) :
    (MessageLog.reconcile incoming window).runOn store =
      (.ok (.duplicate row.id none), store) := by
  rcases readable row settled.mem with ⟨existing, read, -⟩
  exact settled.reconcile_eq_of_holds unique (Row.toMessage_eq_ok.mp read)

/-- A record that was reconciled is a duplicate from then on: to reconcile it again, within any
window, finds the same stored record, absorbs none and changes nothing. -/
theorem reconcile_again (unique : store.UniqueKeys) (readable : store.Readable)
    (storable : incoming.Storable) {outcome : Outcome}
    (ran : (MessageLog.reconcile incoming window).runOn store = (.ok outcome, after))
    (again : MatchWindow) :
    (MessageLog.reconcile incoming again).runOn after =
      (.ok (.duplicate outcome.id none), after) := by
  have merges := merges_of_reconcile ran
  rcases merges.settled unique with ⟨row, settled, sameId⟩
  rw [← sameId]
  exact settled.reconcile_eq (unique.merges merges) (readable.merges unique storable merges)

/-- A row of a pending record, with a creation time as it is stored. -/
def pendingRow (createdAt : String) : Row where
  id := "l1"
  conversationId := "c1"
  sequenceNumber := unsequenced
  role := "user"
  contents := "Hi"
  fingerprint := Fingerprint.of .user "Hi"
  createdAt := createdAt
  updatedAt := "2023-11-14T22:13:20+00:00"
  localId := some "l1"
  serverId := none
  syncStatus := "pending"
  previousId := none

/-- The server's version of that record. -/
def acknowledgement : Message where
  id := "m1"
  conversationId := "c1"
  sequenceNumber := 1
  role := .user
  contents := "Hi"
  createdAt := (Moment.of? 1700000000 0).getD default
  updatedAt := (Moment.of? 1700000000 0).getD default
  localId := some "l1"
  serverId := some "m1"
  syncStatus := .synced
  previousId := none

/-- The record of the row, created at a number of seconds after 1970. -/
def pendingRecord (createdAt : Moment) : Message :=
  { acknowledgement with
    id := "l1"
    sequenceNumber := unsequenced
    createdAt
    serverId := none
    syncStatus := .pending }

theorem pendingRow_holds {created : Moment} {createdAt : String}
    (read : Timestamp.readStrict createdAt = some created) :
    (pendingRow createdAt).Holds (pendingRecord created) where
  id := rfl
  conversationId := rfl
  sequenceNumber := rfl
  role := Role.ofName?_name .user
  contents := rfl
  createdAt := read
  updatedAt := (by decide +kernel :
    Timestamp.readStrict "2023-11-14T22:13:20+00:00" = some acknowledgement.updatedAt)
  localId := rfl
  serverId := rfl
  syncStatus := SyncStatus.ofName?_name .pending
  previousId := rfl

theorem pendingRow_acknowledged : (pendingRow "2023-11-14T22:13:20+00:00").Holds
    (pendingRecord acknowledgement.createdAt) :=
  pendingRow_holds (by decide +kernel)

theorem acknowledgement_storable : acknowledgement.Storable :=
  ⟨by decide +kernel, by decide +kernel⟩

theorem adoption_again :
    let store : Store := ⟨[pendingRow "2023-11-14T22:13:20+00:00"], 1⟩
    let adopted := (MessageLog.reconcile acknowledgement .standard).runOn store
    adopted.1 = .ok (.adoptedLocal "l1" "m1") ∧
      (MessageLog.reconcile acknowledgement .standard).runOn adopted.2 =
        (.ok (.duplicate "m1" none), adopted.2) := by
  intro store adopted
  have readable : store.Readable := by
    intro row mem
    rw [List.mem_singleton.mp mem]
    exact ⟨_, Row.toMessage_eq_ok.mpr pendingRow_acknowledged, by decide +kernel,
      by decide +kernel⟩
  have first : adopted.1 = .ok (.adoptedLocal "l1" "m1") :=
    except_eq_ok_of_toOption (by decide +kernel)
  have unique : store.UniqueKeys := List.pairwise_singleton _ _
  exact ⟨first,
    reconcile_again unique readable acknowledgement_storable (Prod.ext first rfl) .standard⟩

/-- A creation time that is stored with an offset may be of a year that cannot be written: the row
reads once, and not again when it has been rewritten. -/
theorem adoption_unreadable_again :
    ¬∀ (store after : Store) (incoming : Message) (window again : MatchWindow) (outcome : Outcome),
      store.UniqueKeys → (∀ row ∈ store.rows, ∃ message, row.toMessage = .ok message) →
      incoming.Storable →
      (MessageLog.reconcile incoming window).runOn store = (.ok outcome, after) →
      (MessageLog.reconcile incoming again).runOn after =
        (.ok (.duplicate outcome.id none), after) := by
  intro repeatable
  let store : Store := ⟨[pendingRow "0000-01-01T00:00:00+01:00"], 1⟩
  let adopted := (MessageLog.reconcile acknowledgement .standard).runOn store
  have readable : ∀ row ∈ store.rows, ∃ message, row.toMessage = .ok message := by
    intro row mem
    rw [List.mem_singleton.mp mem]
    have read : Timestamp.readStrict "0000-01-01T00:00:00+01:00" =
        some ⟨-62167222800, 0, by decide, by decide, by decide, by decide⟩ := by decide +kernel
    exact ⟨_, Row.toMessage_eq_ok.mpr (pendingRow_holds read)⟩
  have first : adopted.1 = .ok (.adoptedLocal "l1" "m1") :=
    except_eq_ok_of_toOption (by decide +kernel)
  have unique : store.UniqueKeys := List.pairwise_singleton _ _
  have second := repeatable store adopted.2 acknowledgement .standard .standard _ unique readable
    acknowledgement_storable (Prod.ext first rfl)
  have failed : ((MessageLog.reconcile acknowledgement .standard).runOn adopted.2).1.toOption =
      none := by decide +kernel
  rw [second] at failed
  cases failed

end Store

end MessageSync
