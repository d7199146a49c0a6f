import MessageSync.Proofs.Reconcile.Pending
import MessageSync.Proofs.Reconcile.Report

/-!
# The push and the answer to a sync

The server's version of a user's message reaches this side in two ways: as a push, which does not
say which record it was written as, and in the answer to a sync, which does. The first finds the
pending record by what it says, the second by its local id, and both write the same row over it.
After that each delivery of either finds that row settled.
-/

namespace MessageSync

namespace Message

/-- The server's version as it is pushed. -/
def pushed (canonical : Message) : Message :=
  { canonical with localId := none }

/-- The server's version in the answer to a sync that sent the record with a local id. -/
def answered (canonical : Message) (localId : String) : Message :=
  { canonical with localId := some localId }

end Message

/-- Reconciles records one after another. -/
def MessageLog.deliver {σ : Type} [MessageLog σ] (deliveries : List Message)
    (window : MatchWindow) : LogM σ (List Outcome) :=
  deliveries.mapM fun delivery => reconcile delivery window

namespace Store

variable {store after : Store} {incoming : Message} {window : MatchWindow}

/-! ## Settled records -/

theorem deliver_cons {delivery : Message} {deliveries : List Message} {outcomes : List Outcome} :
    (MessageLog.deliver (delivery :: deliveries) window).runOn store = (.ok outcomes, after) ↔
      ∃ outcome middle others,
        (MessageLog.reconcile delivery window).runOn store = (.ok outcome, middle) ∧
        (MessageLog.deliver deliveries window).runOn middle = (.ok others, after) ∧
        outcomes = outcome :: others := by
  simp only [MessageLog.deliver, List.mapM_cons]
  rw [LogM.runOn_bind_eq_ok]
  constructor
  · rintro ⟨outcome, middle, ran, rest⟩
    rw [LogM.runOn_bind_eq_ok] at rest
    rcases rest with ⟨others, _, ranOthers, done⟩
    cases done
    exact ⟨outcome, middle, others, ran, ranOthers, rfl⟩
  · rintro ⟨outcome, middle, others, ran, ranOthers, rfl⟩
    exact ⟨outcome, middle, ran, LogM.runOn_bind_eq_ok.mpr ⟨others, after, ranOthers, rfl⟩⟩

theorem Settled.exists_reconcile_iff (unique : store.UniqueKeys) {row : Row}
    (settled : store.Settled incoming row) :
    (∃ outcome after,
      (MessageLog.reconcile incoming window).runOn store = (.ok outcome, after)) ↔
      ∃ message, row.Holds message := by
  constructor
  · rintro ⟨outcome, after, ran⟩
    have isKnown : ∃ existing, store.known incoming.serverKey = .ok (some existing) := by
      have stored := known_ne_none_of_knownAs settled.mem settled.isKnown
      cases merges_of_reconcile ran with
      | known isKnown => exact ⟨_, isKnown⟩
      | absorbed isKnown => exact ⟨_, isKnown⟩
      | adopted unknown => exact absurd unknown stored
      | echoed unknown => exact absurd unknown stored
      | inserted unknown => exact absurd unknown stored
    rcases isKnown with ⟨existing, isKnown⟩
    rcases exists_row_of_known isKnown with ⟨found, mem, foundKnown, holds⟩
    have same : found = row := unique.eq_of_knownAs mem settled.mem foundKnown settled.isKnown
    exact ⟨existing, same ▸ holds⟩
  · rintro ⟨message, holds⟩
    exact ⟨_, _, settled.reconcile_eq_of_holds unique holds⟩

theorem deliver_settled (unique : store.UniqueKeys) {deliveries : List Message}
    (settled : ∀ delivery ∈ deliveries, ∃ row message,
      store.Settled delivery row ∧ row.Holds message) :
    ∃ outcomes, (MessageLog.deliver deliveries window).runOn store = (.ok outcomes, store) := by
  induction deliveries with
  | nil => exact ⟨[], rfl⟩
  | cons delivery deliveries delivered =>
      rcases settled delivery List.mem_cons_self with ⟨row, message, isSettled, holds⟩
      rcases delivered fun other mem => settled other (List.mem_cons_of_mem _ mem) with
        ⟨outcomes, ran⟩
      exact ⟨_, deliver_cons.mpr
        ⟨_, store, outcomes, isSettled.reconcile_eq_of_holds unique holds, ran, rfl⟩⟩

/-! ## The first delivery -/

/-- The row that took a server id can be read if the times of its record can be stored. -/
theorem exists_row_of_replaceId {oldId newId : String} {patch : MessagePatch} {result : Message}
    (replaced : store.replaceId oldId newId patch = .ok (result, after))
    (server : patch.serverId = some newId) :
    ∃ row ∈ after.rows, row.serverId = some newId ∧
      ((∃ message, row.Holds message) ↔ result.Storable) := by
  rcases replaceId_eq_ok.mp replaced with ⟨message, -, -, -, rfl, -, -⟩
  refine ⟨_, (mem_replaceId replaced).mpr ⟨_, Or.inl rfl, rfl⟩, ?_, ?_⟩
  · simp [Row.ofMessage, MessagePatch.apply, server]
  · rw [Row.renamePrevious_ofMessage]
    simp only [← Row.toMessage_eq_ok, Row.toMessage_ofMessage]
    constructor
    · rintro ⟨read, storable, -⟩
      exact ⟨storable.created, storable.updated⟩
    · intro storable
      exact ⟨_, ⟨storable.created, storable.updated⟩, rfl⟩

/-- A pending record that the server's version is the first echo of takes its server id, whether
the version is pushed or answers the sync of that record. -/
theorem FirstEcho.exists_delivered {row : Row} {message : Message} {localId : String}
    (firstEcho : store.FirstEcho incoming window row) (unique : store.UniqueKeys)
    (legible : store.Legible) (fromUser : incoming.role = .user) (holds : row.Holds message)
    (isLocal : message.localId = some localId)
    (free : ∀ other ∈ store.rows,
      other.serverId ≠ some incoming.serverKey ∧ other.id ≠ incoming.serverKey) :
    ∃ replaced after,
      store.replaceId message.id incoming.serverKey (incoming.answered localId).adoption =
        .ok (replaced, after) ∧
      ∀ delivery, delivery = incoming.pushed ∨ delivery = incoming.answered localId →
        ∃ outcome, Merges delivery window store outcome after := by
  have unknown : store.known incoming.serverKey = .ok none := known_eq_none.mpr free
  have sameLocal :
      (incoming.answered localId).adoption.localId.or message.localId = message.localId :=
    isLocal.symm
  rcases unique.exists_replaceId firstEcho.mem holds free rfl sameLocal with
    ⟨replaced, after, replaces⟩
  refine ⟨replaced, after, replaces, ?_⟩
  rintro delivery (rfl | rfl)
  · have unnamed : store.named incoming.pushed = .ok none := rfl
    have isEcho : store.echo incoming.pushed window = .ok (some message) :=
      firstEcho.echo_eq unique legible fromUser holds
    -- A push does not name the record, but the local id that is kept is the one that is answered.
    have samePatch : { incoming.pushed.adoption with localId := message.localId } =
        (incoming.answered localId).adoption := by
      rw [isLocal]
      rfl
    exact ⟨_, .echoed unknown unnamed isEcho (by rw [samePatch]; exact replaces)⟩
  · have namedBy : row.NamedBy (incoming.answered localId) := by
      have rowLocal : row.localId = some localId := holds.localId.symm.trans isLocal
      exact ⟨firstEcho.echoes.1.1, by rw [rowLocal]; rfl, rowLocal⟩
    have isNamed := named_of_namedBy unique firstEcho.mem namedBy holds
    exact ⟨_, .adopted unknown isNamed replaces⟩

/-- However often the push and the answer are delivered, and in whatever order, every delivery
succeeds and they leave what the answer alone leaves. The exception is a pending record that was
created in a year which cannot be written so that it reads back. -/
theorem FirstEcho.deliver_iff {row : Row} {message : Message} {localId : String}
    (firstEcho : store.FirstEcho incoming window row) (unique : store.UniqueKeys)
    (legible : store.Legible) (fromUser : incoming.role = .user) (storable : incoming.Storable)
    (holds : row.Holds message) (isLocal : message.localId = some localId)
    (free : ∀ other ∈ store.rows,
      other.serverId ≠ some incoming.serverKey ∧ other.id ≠ incoming.serverKey) :
    (∃ outcome after,
      (MessageLog.reconcile (incoming.answered localId) window).runOn store =
        (.ok outcome, after) ∧
      ∀ deliveries : List Message, deliveries ≠ [] →
        (∀ delivery ∈ deliveries,
          delivery = incoming.pushed ∨ delivery = incoming.answered localId) →
        ∃ outcomes,
          (MessageLog.deliver deliveries window).runOn store = (.ok outcomes, after)) ↔
      0 ≤ message.createdAt.year ∧ message.createdAt.year ≤ 9999 := by
  rcases firstEcho.exists_delivered unique legible fromUser holds isLocal free with
    ⟨replaced, after, replaces, delivered⟩
  rcases delivered _ (Or.inr rfl) with ⟨answer, answerMerges⟩
  have afterUnique := unique.merges answerMerges
  rcases exists_row_of_replaceId replaces rfl with ⟨taken, takenMem, takenServer, takenHolds⟩
  have created : (∃ read, taken.Holds read) ↔
      0 ≤ message.createdAt.year ∧ message.createdAt.year ≤ 9999 := by
    rcases replaceId_eq_ok.mp replaces with ⟨source, -, loaded, -, rfl, -, -⟩
    cases (load_of_holds unique firstEcho.mem holds).symm.trans loaded
    rw [takenHolds]
    exact ⟨fun resultStorable => resultStorable.created, fun inYears => ⟨inYears, storable.updated⟩⟩
  -- Whichever is delivered first, the settled row is the one that took the server id.
  have settled : ∀ delivery,
      delivery = incoming.pushed ∨ delivery = incoming.answered localId →
        after.Settled delivery taken := by
    intro delivery either
    rcases delivered delivery either with ⟨outcome, merges⟩
    rcases merges.settled unique with ⟨settledRow, isSettled, -⟩
    have sameKey : delivery.serverKey = incoming.serverKey := by
      rcases either with rfl | rfl <;> rfl
    have same : settledRow = taken :=
      afterUnique.eq_of_knownAs isSettled.mem takenMem isSettled.isKnown
        (Or.inl (takenServer.trans (congrArg some sameKey.symm)))
    exact same ▸ isSettled
  rw [← created]
  constructor
  · rintro ⟨outcome, left, ran, confluent⟩
    cases answerMerges.reconcile_eq.symm.trans ran
    rcases confluent [incoming.answered localId, incoming.answered localId] (by simp) (by simp)
      with ⟨outcomes, ranTwice⟩
    rcases deliver_cons.mp ranTwice with ⟨_, middle, others, ranFirst, rest, -⟩
    cases answerMerges.reconcile_eq.symm.trans ranFirst
    rcases deliver_cons.mp rest with ⟨second, last, -, ranSecond, -, -⟩
    exact ((settled _ (Or.inr rfl)).exists_reconcile_iff afterUnique).mp ⟨second, last, ranSecond⟩
  · rintro ⟨read, readHolds⟩
    refine ⟨answer, after, answerMerges.reconcile_eq, ?_⟩
    intro deliveries nonempty either
    cases deliveries with
    | nil => exact absurd rfl nonempty
    | cons first rest =>
        rcases delivered first (either first List.mem_cons_self) with ⟨outcome, merges⟩
        have restSettled : ∀ delivery ∈ rest, ∃ row message,
            after.Settled delivery row ∧ row.Holds message := fun delivery mem =>
          ⟨taken, read, settled delivery (either delivery (List.mem_cons_of_mem _ mem)), readHolds⟩
        rcases deliver_settled afterUnique restSettled with ⟨outcomes, ran⟩
        exact ⟨_, deliver_cons.mpr ⟨outcome, after, outcomes, merges.reconcile_eq, ran, rfl⟩⟩

/-- The row of a record written here, and one of the same contents that was created at another
time. -/
def sentTwice (createdAt : String) : Store :=
  ⟨[{ pendingRow createdAt with id := "l2", localId := some "l2" },
    pendingRow "2023-11-14T22:13:20+00:00"], schemaVersion⟩

theorem sentTwice_unique (createdAt : String) : (sentTwice createdAt).UniqueKeys := by
  simp [sentTwice, UniqueKeys, Row.Clashes, pendingRow]

theorem sentTwice_legible {created : Moment} {createdAt : String}
    (read : Timestamp.readStrict createdAt = some created) : (sentTwice createdAt).Legible := by
  have holds := pendingRow_holds read
  intro row mem
  simp only [sentTwice, List.mem_cons, List.not_mem_nil, or_false] at mem
  rcases mem with rfl | rfl
  · exact ⟨{ pendingRecord created with id := "l2", localId := some "l2" },
      { holds with id := rfl, localId := rfl }⟩
  · exact ⟨_, pendingRow_acknowledged⟩

/-- The log with the record written here and the same one written a second later. -/
def writtenTwice : Store :=
  let later := pendingRow "2023-11-14T22:13:21+00:00"
  ⟨[{ later with id := "l2", localId := some "l2" }, pendingRow "2023-11-14T22:13:20+00:00"],
    schemaVersion⟩

theorem FirstEcho.deliver_writtenTwice :
    writtenTwice.FirstEcho acknowledgement .standard (pendingRow "2023-11-14T22:13:20+00:00") ∧
      ∃ outcome after,
        (MessageLog.reconcile (acknowledgement.answered "l1") .standard).runOn writtenTwice =
          (.ok outcome, after) ∧
        ∀ deliveries : List Message, deliveries ≠ [] →
          (∀ delivery ∈ deliveries,
            delivery = acknowledgement.pushed ∨ delivery = acknowledgement.answered "l1") →
          ∃ outcomes, (MessageLog.deliver deliveries .standard).runOn writtenTwice =
            (.ok outcomes, after) := by
  have holds := pendingRow_acknowledged
  have unique : writtenTwice.UniqueKeys := sentTwice_unique _
  have legible : writtenTwice.Legible := sentTwice_legible
    (show Timestamp.readStrict _ = some ⟨1700000001, 0, by decide, by decide, by decide, by decide⟩
      by decide +kernel)
  have firstEcho : writtenTwice.FirstEcho acknowledgement .standard
      (pendingRow "2023-11-14T22:13:20+00:00") := by
    refine ⟨by simp [writtenTwice], ⟨⟨rfl, rfl⟩, _, holds, rfl, rfl, by decide +kernel⟩, ?_⟩
    rintro other mem -
    simp only [writtenTwice, List.mem_cons, List.not_mem_nil, or_false] at mem
    rcases mem with rfl | rfl <;> decide +kernel
  have free : ∀ other ∈ writtenTwice.rows, other.serverId ≠ some acknowledgement.serverKey ∧
      other.id ≠ acknowledgement.serverKey := by decide +kernel
  exact ⟨firstEcho, (firstEcho.deliver_iff unique legible rfl acknowledgement_storable holds rfl
    free).mpr ⟨by decide +kernel, by decide +kernel⟩⟩

/-- A pending record whose creation time was stored with an offset may take the server id and then
not be readable when the answer is delivered again. -/
theorem answer_not_redelivered :
    ¬∀ (store : Store) (incoming : Message) (window : MatchWindow) (row : Row) (message : Message)
      (localId : String), store.UniqueKeys → store.Legible →
      store.FirstEcho incoming window row → incoming.role = .user → incoming.Storable →
      row.Holds message → message.localId = some localId →
      (∀ other ∈ store.rows,
        other.serverId ≠ some incoming.serverKey ∧ other.id ≠ incoming.serverKey) →
      ∃ outcome after,
        (MessageLog.reconcile (incoming.answered localId) window).runOn store =
          (.ok outcome, after) ∧
        ∀ deliveries : List Message, deliveries ≠ [] →
          (∀ delivery ∈ deliveries,
            delivery = incoming.pushed ∨ delivery = incoming.answered localId) →
          ∃ outcomes,
            (MessageLog.deliver deliveries window).runOn store = (.ok outcomes, after) := by
  intro confluent
  let row := pendingRow "0000-01-01T00:59:30+01:00"
  let store : Store := ⟨[row], schemaVersion⟩
  let created : Moment := ⟨-62167219200, 0, by decide, by decide, by decide, by decide⟩
  let incoming : Message := { acknowledgement with createdAt := created }
  have read : Timestamp.readStrict "0000-01-01T00:59:30+01:00" =
      some ⟨-62167219230, 0, by decide, by decide, by decide, by decide⟩ := by decide +kernel
  have holds := pendingRow_holds read
  have only : ∀ other ∈ store.rows, other = row := fun other mem => List.mem_singleton.mp mem
  have unique : store.UniqueKeys := List.pairwise_singleton _ _
  have legible : store.Legible := by
    intro other mem
    rw [only other mem]
    exact ⟨_, holds⟩
  have firstEcho : store.FirstEcho incoming .standard row := by
    refine ⟨List.mem_singleton_self _,
      ⟨⟨rfl, rfl⟩, _, holds, rfl, rfl, by decide +kernel⟩, ?_⟩
    rintro other mem -
    rw [only other mem]
    decide +kernel
  have storable : incoming.Storable := ⟨by decide +kernel, by decide +kernel⟩
  have free : ∀ other ∈ store.rows, other.serverId ≠ some incoming.serverKey ∧
      other.id ≠ incoming.serverKey := by decide +kernel
  rcases confluent store incoming .standard row _ "l1" unique legible firstEcho rfl storable holds
    rfl free with ⟨outcome, after, -, delivered⟩
  rcases delivered [incoming.answered "l1", incoming.answered "l1"] (by simp) (by simp) with
    ⟨outcomes, ran⟩
  have failed : ((MessageLog.deliver [incoming.answered "l1", incoming.answered "l1"]
      .standard).runOn store).1.toOption = none := by decide +kernel
  rw [ran] at failed
  cases failed

end Store

end MessageSync
