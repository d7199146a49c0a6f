import MessageSync.Proofs.Reconcile.Reachable

/-!
# Server ids that stay in the log

A reconciliation keeps the server ids that the rows of a log carry, with one exception: the row that
the incoming record names by its local id is consumed even if the server knows it by another id. A
row gets there when an echo took the local id of a write that it does not answer.
-/

namespace MessageSync

namespace Store

/-- Some row has the server id. -/
def Carries (store : Store) (serverId : String) : Prop :=
  ∃ row ∈ store.rows, row.serverId = some serverId

/-- The incoming record names a row that the server knows by another id. -/
def Displaces (store : Store) (incoming : Message) (serverId : String) : Prop :=
  serverId ≠ incoming.serverKey ∧
    ∃ row ∈ store.rows, row.NamedBy incoming ∧ row.serverId = some serverId

instance (store : Store) (serverId : String) : Decidable (store.Carries serverId) :=
  inferInstanceAs (Decidable (∃ row ∈ store.rows, _))

instance (store : Store) (incoming : Message) (serverId : String) :
    Decidable (store.Displaces incoming serverId) :=
  inferInstanceAs (Decidable (_ ∧ ∃ row ∈ store.rows, _))

variable {store after : Store} {incoming : Message} {window : MatchWindow} {serverId : String}

theorem not_displaces_of_unnamed (unnamed : store.named incoming = .ok none) :
    ¬store.Displaces incoming serverId := by
  rintro ⟨-, row, mem, named, -⟩
  exact named_eq_none.mp unnamed row mem named

/-- The server id of the only row that an incoming record names is displaced, unless it is the
incoming one. -/
theorem displaces_iff_of_named (unique : store.UniqueKeys) {row : Row} (mem : row ∈ store.rows)
    (named : row.NamedBy incoming) (different : row.serverId ≠ some incoming.serverKey) :
    store.Displaces incoming serverId ↔ row.serverId = some serverId := by
  constructor
  · rintro ⟨-, other, otherMem, otherNamed, server⟩
    rw [← unique.eq_of_namedBy otherMem mem otherNamed named]
    exact server
  · intro server
    refine ⟨?_, row, mem, named, server⟩
    rintro rfl
    exact different server

/-! ## What the changes keep -/

/-- Setting a sync state keeps every server id. -/
theorem carries_update_status (unique : store.UniqueKeys) {id : String} {status : SyncStatus}
    {result : Message} (updated : store.update id (.status status) = .ok (result, after)) :
    after.Carries serverId ↔ store.Carries serverId := by
  rcases update_eq_ok.mp updated with ⟨message, loaded, rfl, -⟩
  rcases exists_row_of_load loaded with ⟨source, sourceMem, sameId, holds⟩
  have sameServer : (Row.ofMessage (MessagePatch.apply (.status status) message)).serverId =
      source.serverId := holds.serverId
  constructor
  · rintro ⟨row, mem, server⟩
    rcases (mem_update updated).mp mem with rfl | ⟨rowMem, -⟩
    · exact ⟨source, sourceMem, sameServer.symm.trans server⟩
    · exact ⟨row, rowMem, server⟩
  · rintro ⟨row, mem, server⟩
    by_cases here : row.id = id
    · rw [unique.eq_of_id mem sourceMem (here.trans sameId.symm)] at server
      exact ⟨_, (mem_update updated).mpr (Or.inl rfl), sameServer.trans server⟩
    · exact ⟨row, (mem_update updated).mpr (Or.inr ⟨mem, here⟩), server⟩

/-- A record that takes a new server id gives up the one that its row had. -/
theorem carries_replaceId (unique : store.UniqueKeys) {oldId newId : String}
    {patch : MessagePatch} {result : Message} {source : Row} (sourceMem : source ∈ store.rows)
    (sourceId : source.id = oldId) (different : serverId ≠ newId)
    (server : patch.serverId = some newId)
    (replaced : store.replaceId oldId newId patch = .ok (result, after)) :
    after.Carries serverId ↔ store.Carries serverId ∧ source.serverId ≠ some serverId := by
  rcases replaceId_eq_ok.mp replaced with ⟨message, -, -, -, rfl, -, -⟩
  constructor
  · rintro ⟨row, mem, rowServer⟩
    rcases (mem_replaceId replaced).mp mem with ⟨other, rfl | ⟨otherMem, elsewhere⟩, rfl⟩
    · simp only [Row.renamePrevious_serverId, Row.ofMessage, MessagePatch.apply, server,
        Option.some_or, Option.some.injEq] at rowServer
      exact absurd rowServer.symm different
    · rw [Row.renamePrevious_serverId] at rowServer
      refine ⟨⟨other, otherMem, rowServer⟩, ?_⟩
      intro sourceServer
      rw [unique.eq_of_serverId otherMem sourceMem rowServer sourceServer] at elsewhere
      exact elsewhere sourceId
  · rintro ⟨⟨row, mem, rowServer⟩, givenUp⟩
    refine ⟨row.renamePrevious oldId newId, (mem_replaceId replaced).mpr ⟨row, Or.inr ⟨mem, ?_⟩,
      rfl⟩, by rw [Row.renamePrevious_serverId, rowServer]⟩
    intro here
    rw [unique.eq_of_id mem sourceMem (here.trans sourceId.symm)] at rowServer
    exact givenUp rowServer

/-- The server id of an absorbed row goes with it. -/
theorem carries_absorb (unique : store.UniqueKeys) {duplicateId canonicalId : String}
    {result : Message} {source : Row} (sourceMem : source ∈ store.rows)
    (sourceId : source.id = duplicateId)
    (absorbed : store.absorb duplicateId canonicalId = .ok (result, after)) :
    after.Carries serverId ↔ store.Carries serverId ∧ source.serverId ≠ some serverId := by
  have different := (absorb_eq_ok.mp absorbed).1
  rcases exists_absorbs unique absorbed with ⟨canonical, merged, canonicalLoaded, absorbs⟩
  rcases exists_row_of_load canonicalLoaded with ⟨kept, keptMem, keptId, keptHolds⟩
  have mergedServer : merged.serverId = kept.serverId :=
    absorbs.serverId.trans keptHolds.serverId
  have apart : ∀ row ∈ store.rows, row.id ≠ duplicateId → row.serverId = some serverId →
      source.serverId ≠ some serverId := by
    intro row mem elsewhere rowServer sourceServer
    rw [unique.eq_of_serverId mem sourceMem rowServer sourceServer] at elsewhere
    exact elsewhere sourceId
  constructor
  · rintro ⟨row, mem, rowServer⟩
    rcases (absorbs.mem row).mp mem with ⟨other, rfl | ⟨otherMem, elsewhere, -⟩, rfl⟩
    · rw [Row.renamePrevious_serverId, mergedServer] at rowServer
      exact ⟨⟨kept, keptMem, rowServer⟩,
        apart kept keptMem (by rw [keptId]; exact different.symm) rowServer⟩
    · rw [Row.renamePrevious_serverId] at rowServer
      exact ⟨⟨other, otherMem, rowServer⟩, apart other otherMem elsewhere rowServer⟩
  · rintro ⟨⟨row, mem, rowServer⟩, givenUp⟩
    by_cases here : row.id = canonicalId
    · rw [unique.eq_of_id mem keptMem (here.trans keptId.symm)] at rowServer
      exact ⟨_, (absorbs.mem _).mpr ⟨merged, Or.inl rfl, rfl⟩,
        by rw [Row.renamePrevious_serverId, mergedServer, rowServer]⟩
    · refine ⟨_, (absorbs.mem _).mpr ⟨row, Or.inr ⟨mem, ?_, here⟩, rfl⟩,
        by rw [Row.renamePrevious_serverId, rowServer]⟩
      intro duplicate
      rw [unique.eq_of_id mem sourceMem (duplicate.trans sourceId.symm)] at rowServer
      exact givenUp rowServer

/-! ## What a reconciliation keeps -/

/-- The row that is known by a server id does not carry another one. -/
theorem WellKept.serverId_of_knownAs (kept : store.WellKept) {row : Row} {key : String}
    (mem : row ∈ store.rows) (knownAs : store.KnownAs key row)
    (server : row.serverId = some serverId) : serverId = key := by
  rcases knownAs with atServer | ⟨atId, -⟩
  · exact Option.some.inj (server.symm.trans atServer)
  · exact ((kept.written row mem).id_of_serverId server).symm.trans atId

theorem WellKept.merges_carries (kept : store.WellKept) {outcome : Outcome}
    (carries : store.Carries serverId) (merges : Merges incoming window store outcome after) :
    after.Carries serverId ↔ ¬store.Displaces incoming serverId := by
  cases merges with
  | known isKnown alone =>
      rcases exists_row_of_known isKnown with ⟨knownRow, knownMem, knownAs, knownHolds⟩
      refine iff_of_true carries ?_
      rcases alone with unnamed | ⟨other, isNamed, same⟩
      · exact not_displaces_of_unnamed unnamed
      · rintro ⟨different, row, mem, named, server⟩
        rcases exists_row_of_named isNamed with ⟨namedRow, namedMem, namedBy, namedHolds⟩
        have rowEq : row = knownRow := by
          rw [kept.unique.eq_of_namedBy mem namedMem named namedBy]
          exact kept.unique.eq_of_id namedMem knownMem
            (namedHolds.id.symm.trans (same.trans knownHolds.id))
        subst row
        exact different (kept.serverId_of_knownAs mem knownAs server)
  | @absorbed existing other merged middle _ isKnown isNamed different absorbs settles =>
      rcases exists_row_of_known isKnown with ⟨knownRow, knownMem, knownAs, knownHolds⟩
      rcases exists_row_of_named isNamed with ⟨namedRow, namedMem, namedBy, namedHolds⟩
      -- Either the other row has the incoming server id, or none has it.
      have notKey : namedRow.serverId ≠ some incoming.serverKey := by
        intro server
        rcases knownAs with atServer | ⟨-, noServer⟩
        · rw [kept.unique.eq_of_serverId namedMem knownMem server atServer] at namedHolds
          exact different (namedHolds.id.trans knownHolds.id.symm)
        · exact noServer namedRow namedMem server
      have middleCarries : middle.Carries serverId ↔ ¬store.Displaces incoming serverId := by
        rw [carries_absorb kept.unique namedMem namedHolds.id.symm absorbs,
          displaces_iff_of_named kept.unique namedMem namedBy notKey, and_iff_right carries]
      rcases settles with ⟨-, rfl⟩ | ⟨-, settled, updates⟩
      · exact middleCarries
      · rw [carries_update_status (kept.unique.absorb absorbs) updates, middleCarries]
  | adopted unknown isNamed replaces =>
      rcases exists_row_of_named isNamed with ⟨namedRow, namedMem, namedBy, namedHolds⟩
      rcases carries with ⟨row, mem, server⟩
      have different : serverId ≠ incoming.serverKey := by
        rintro rfl
        exact (known_eq_none.mp unknown row mem).1 server
      rw [carries_replaceId kept.unique namedMem namedHolds.id.symm different rfl replaces,
        displaces_iff_of_named kept.unique namedMem namedBy (known_eq_none.mp unknown _ namedMem).1,
        and_iff_right ⟨row, mem, server⟩]
  | echoed unknown unnamed isEcho replaces =>
      rcases exists_row_of_echo isEcho with
        ⟨-, echoRow, echoMem, echoHolds, ⟨-, pending⟩, -⟩
      rcases carries with ⟨row, mem, server⟩
      have different : serverId ≠ incoming.serverKey := by
        rintro rfl
        exact (known_eq_none.mp unknown row mem).1 server
      have noServer := (kept.written echoRow echoMem).serverId_of_pending pending
      rw [carries_replaceId kept.unique echoMem echoHolds.id.symm different rfl replaces]
      refine iff_of_true ⟨⟨row, mem, server⟩, ?_⟩ (not_displaces_of_unnamed unnamed)
      simp [noServer]
  | inserted unknown unnamed noEcho inserts =>
      rcases insert_eq_ok.mp inserts with ⟨-, rfl⟩
      rcases carries with ⟨row, mem, server⟩
      exact iff_of_true ⟨row, by simp [mem], server⟩ (not_displaces_of_unnamed unnamed)

/-- Of the server ids that a log carries, a reconciliation loses exactly those it displaces, and
none if it fails. -/
theorem carries_reconcile (reachable : Reachable store) (carries : store.Carries serverId)
    {result : Except LogError Outcome}
    (ran : (MessageLog.reconcile incoming window).runOn store = (result, after)) :
    after.Carries serverId ↔
      ¬(store.Displaces incoming serverId ∧ ∃ outcome, result = .ok outcome) := by
  have kept := WellKept.of_reachable reachable
  cases result with
  | ok outcome =>
      rw [kept.merges_carries carries (merges_of_reconcile ran)]
      simp
  | error error =>
      rw [kept.eq_of_error ran]
      simpa using carries

/-! ## A record that is lost -/

/-- The first of two writes with the same contents. -/
def firstWrite : Message :=
  .newLocal "c1" .user "Hi" ((Moment.of? 1700000000 0).getD default) 0

/-- The second one, a second later. -/
def secondWrite : Message :=
  .newLocal "c1" .user "Hi" ((Moment.of? 1700000001 0).getD default) 1

/-- The server's version of the second write, without the local id. -/
def secondPush : Message :=
  .canonical "m2" "c1" 2 .user "Hi" secondWrite.createdAt

/-- The server's version of the first write, which names it. -/
def firstAnswer : Message :=
  { Message.canonical "m1" "c1" 1 .user "Hi" firstWrite.createdAt with
    localId := firstWrite.localId }

/-- The log once both are written. -/
def written : Store :=
  ⟨[Row.ofMessage firstWrite, Row.ofMessage secondWrite], schemaVersion⟩

/-- The record that takes the push for an echo of the first write. -/
def mistaken : Message :=
  { secondPush with createdAt := firstWrite.createdAt, localId := firstWrite.localId }

/-- The log once the push is taken for an echo. -/
def pushed : Store :=
  ⟨[Row.ofMessage mistaken, Row.ofMessage secondWrite], schemaVersion⟩

theorem written_reachable : Reachable written := by
  have first : Store.empty.insert firstWrite =
      .ok ⟨[Row.ofMessage firstWrite], schemaVersion⟩ :=
    insert_eq_ok.mpr ⟨by simp [Store.empty], rfl⟩
  have second : insert ⟨[Row.ofMessage firstWrite], schemaVersion⟩ secondWrite = .ok written := by
    refine insert_eq_ok.mpr ⟨?_, rfl⟩
    intro other mem
    rw [List.mem_singleton.mp mem]
    decide +kernel
  exact .written (.written .empty first) second

theorem pushed_reachable : Reachable pushed := by
  have isPending : written.pending "c1" = .ok [firstWrite, secondWrite] := by
    have sorted : written.rows.mergeSort Row.inCreationOrder = written.rows :=
      List.mergeSort_of_pairwise (by decide +kernel)
    have inConversation : (written.rows.filter fun row => row.conversationId == "c1" &&
      row.syncStatus == SyncStatus.pending.name) = written.rows := by decide +kernel
    rw [pending, inConversation, sorted]
    exact except_eq_ok_of_toOption (by decide +kernel)
  have isEcho : written.echo secondPush .standard = .ok (some firstWrite) := by
    simp only [echo, show secondPush.conversationId = "c1" from rfl, isPending]
    exact except_eq_ok_of_toOption (by decide +kernel)
  have unknown : written.known "m2" = .ok none := except_eq_ok_of_toOption (by decide +kernel)
  have replaces : written.replaceId firstWrite.id "m2"
      { secondPush.adoption with localId := firstWrite.localId } = .ok (mistaken, pushed) :=
    except_eq_ok_of_toOption (by decide +kernel)
  have ran := (Merges.echoed unknown rfl isEcho replaces).reconcile_eq
  have reached := Reachable.reconciled written_reachable secondPush .standard
  rw [ran] at reached
  exact reached

theorem pushed_carries : pushed.Carries "m2" := by
  decide +kernel

theorem carries_reconcile_firstAnswer :
    ((MessageLog.reconcile firstAnswer .standard).runOn pushed).2.Carries "m2" ↔
      ¬(pushed.Displaces firstAnswer "m2" ∧ ∃ outcome,
        ((MessageLog.reconcile firstAnswer .standard).runOn pushed).1 = .ok outcome) :=
  carries_reconcile pushed_reachable pushed_carries (Prod.eta _).symm

/-- Two writes with the same contents are answered by a push of the second and an answer to the
first: the answer takes the row that the push took, and the server id of the push is lost. -/
theorem not_carries_after_reconcile :
    ¬∀ (store : Store) (incoming : Message) (window : MatchWindow) (serverId : String),
      Reachable store → store.Carries serverId →
        ((MessageLog.reconcile incoming window).runOn store).2.Carries serverId := by
  intro carried
  have stays := carried pushed firstAnswer .standard "m2" pushed_reachable pushed_carries
  have lost : ¬((MessageLog.reconcile firstAnswer .standard).runOn pushed).2.Carries "m2" := by
    decide +kernel
  exact lost stays

end Store

end MessageSync
