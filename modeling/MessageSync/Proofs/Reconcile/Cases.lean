import MessageSync.Proofs.Reconcile.Lookups

/-!
# The ways in which a record is reconciled

A reconciliation that succeeds goes one of five ways, and each says what was looked up and what was
changed. One that fails leaves the store as it was, unless a record has already absorbed another
when its sync state cannot be set.
-/

namespace MessageSync

namespace Message

/-- The sync state that a record has once the server's version of it is stored. -/
def settledStatus (incoming : Message) : SyncStatus :=
  if incoming.syncStatus = .pending then .synced else incoming.syncStatus

/-- The patch that makes a stored record the same as the server's version of it. -/
def adoption (incoming : Message) : MessagePatch :=
  { MessagePatch.adopt incoming with syncStatus := some incoming.settledStatus }

/-- The server's record as it is inserted. -/
def acknowledged (incoming : Message) : Message :=
  { incoming with
    id := incoming.serverKey
    serverId := some incoming.serverKey
    syncStatus := incoming.settledStatus }

theorem settledStatus_ne_pending (incoming : Message) : incoming.settledStatus ≠ .pending := by
  simp only [settledStatus]
  split
  · decide
  · assumption

end Message

namespace Store

variable {store after : Store} {incoming : Message} {window : MatchWindow}

/-- The sync state of a record that has absorbed another is set where it differs. -/
def Settles (existing : Message) (status : SyncStatus) (middle after : Store) : Prop :=
  existing.syncStatus = status ∧ after = middle ∨
    existing.syncStatus ≠ status ∧ ∃ settled,
      middle.update existing.id (.status status) = .ok (settled, after)

/-- A reconciliation that succeeds, with its outcome and the store that it leaves. -/
inductive Merges (incoming : Message) (window : MatchWindow) (store : Store) :
    Outcome → Store → Prop where
  | known {existing : Message}
      (isKnown : store.known incoming.serverKey = .ok (some existing))
      (alone : store.named incoming = .ok none ∨
        ∃ other, store.named incoming = .ok (some other) ∧ other.id = existing.id) :
      Merges incoming window store (.duplicate existing.id none) store
  | absorbed {existing other merged : Message} {middle after : Store}
      (isKnown : store.known incoming.serverKey = .ok (some existing))
      (isNamed : store.named incoming = .ok (some other))
      (different : other.id ≠ existing.id)
      (absorbs : store.absorb other.id existing.id = .ok (merged, middle))
      (settles : Settles existing incoming.settledStatus middle after) :
      Merges incoming window store (.duplicate existing.id (some other.id)) after
  | adopted {other replaced : Message} {after : Store}
      (unknown : store.known incoming.serverKey = .ok none)
      (isNamed : store.named incoming = .ok (some other))
      (replaces : store.replaceId other.id incoming.serverKey incoming.adoption =
        .ok (replaced, after)) :
      Merges incoming window store (.adoptedLocal other.id incoming.serverKey) after
  | echoed {other replaced : Message} {after : Store}
      (unknown : store.known incoming.serverKey = .ok none)
      (unnamed : store.named incoming = .ok none)
      (isEcho : store.echo incoming window = .ok (some other))
      (replaces : store.replaceId other.id incoming.serverKey
        { incoming.adoption with localId := other.localId } = .ok (replaced, after)) :
      Merges incoming window store (.matchedEcho other.id incoming.serverKey) after
  | inserted {after : Store}
      (unknown : store.known incoming.serverKey = .ok none)
      (unnamed : store.named incoming = .ok none)
      (noEcho : store.echo incoming window = .ok none)
      (inserts : store.insert incoming.acknowledged = .ok after) :
      Merges incoming window store (.inserted incoming.serverKey) after

/-! ## How a reconciliation goes -/

variable {existing : Message} {status : SyncStatus} {absorbed : Option String}

theorem runOn_absorbNamed_alone (alone : store.named incoming = .ok none ∨
      ∃ other, store.named incoming = .ok (some other) ∧ other.id = existing.id) :
    (MessageLog.absorbNamed incoming existing status).runOn store = (.ok none, store) := by
  simp only [MessageLog.absorbNamed]
  rw [LogM.runOn_bind, runOn_findNamed]
  rcases alone with unnamed | ⟨other, isNamed, same⟩
  · rw [unnamed]
    rfl
  · rw [isNamed]
    simp only [if_pos same]
    rfl

theorem runOn_absorbNamed_eq_ok
    (ran : (MessageLog.absorbNamed incoming existing status).runOn store = (.ok absorbed, after)) :
    (store.named incoming = .ok none ∨
        ∃ other, store.named incoming = .ok (some other) ∧ other.id = existing.id) ∧
      absorbed = none ∧ after = store ∨
    ∃ other merged middle, store.named incoming = .ok (some other) ∧ other.id ≠ existing.id ∧
      store.absorb other.id existing.id = .ok (merged, middle) ∧
      Settles existing status middle after ∧ absorbed = some other.id := by
  simp only [MessageLog.absorbNamed, LogM.runOn_bind_eq_ok, runOn_findNamed, Prod.mk.injEq] at ran
  rcases ran with ⟨found, _, ⟨isNamed, rfl⟩, rest⟩
  cases found with
  | none =>
      cases rest
      exact Or.inl ⟨Or.inl isNamed, rfl, rfl⟩
  | some other =>
      simp only at rest
      split at rest
      · next same =>
          cases rest
          exact Or.inl ⟨Or.inr ⟨other, isNamed, same⟩, rfl, rfl⟩
      · next different =>
          simp only [LogM.runOn_bind_eq_ok, LogM.runOn_change_eq_ok] at rest
          rcases rest with ⟨merged, middle, absorbs, rest⟩
          refine Or.inr ⟨other, merged, middle, isNamed, different, absorbs, ?_⟩
          split at rest
          · next unsettled =>
              simp only [LogM.runOn_bind_eq_ok, LogM.runOn_change_eq_ok] at rest
              rcases rest with ⟨settled, _, updates, done⟩
              cases done
              exact ⟨Or.inr ⟨unsettled, settled, updates⟩, rfl⟩
          · next settled =>
              cases rest
              exact ⟨Or.inl ⟨not_not.mp settled, rfl⟩, rfl⟩

theorem runOn_absorbNamed_eq_error {error : LogError}
    (ran : (MessageLog.absorbNamed incoming existing status).runOn store =
      (.error error, after)) :
    after = store ∨
      ∃ other merged, store.named incoming = .ok (some other) ∧ other.id ≠ existing.id ∧
        store.absorb other.id existing.id = .ok (merged, after) ∧
        existing.syncStatus ≠ status ∧
        after.update existing.id (.status status) = .error error := by
  simp only [MessageLog.absorbNamed, LogM.runOn_bind_eq_error, runOn_findNamed,
    Prod.mk.injEq] at ran
  rcases ran with ⟨-, rfl⟩ | ⟨found, _, ⟨isNamed, rfl⟩, rest⟩
  · exact Or.inl rfl
  cases found with
  | none => cases rest
  | some other =>
      simp only at rest
      split at rest
      · cases rest
      · next different =>
          simp only [LogM.runOn_bind_eq_error, LogM.runOn_change_eq_ok,
            LogM.runOn_change_eq_error] at rest
          rcases rest with ⟨-, rfl⟩ | ⟨merged, middle, absorbs, rest⟩
          · exact Or.inl rfl
          split at rest
          · next unsettled =>
              simp only [LogM.runOn_bind_eq_error, LogM.runOn_change_eq_ok,
                LogM.runOn_change_eq_error] at rest
              rcases rest with ⟨failed, rfl⟩ | ⟨settled, _, -, done⟩
              · exact Or.inr ⟨other, merged, isNamed, different, absorbs, unsettled, failed⟩
              · cases done
          · cases rest

theorem runOn_absorbNamed_of_settles {other merged : Message} {middle : Store}
    (isNamed : store.named incoming = .ok (some other)) (different : other.id ≠ existing.id)
    (absorbs : store.absorb other.id existing.id = .ok (merged, middle))
    (settles : Settles existing status middle after) :
    (MessageLog.absorbNamed incoming existing status).runOn store =
      (.ok (some other.id), after) := by
  simp only [MessageLog.absorbNamed]
  rw [LogM.runOn_bind, runOn_findNamed, isNamed]
  simp only [if_neg different]
  rw [LogM.runOn_bind_eq_ok]
  refine ⟨merged, middle, LogM.runOn_change_eq_ok.mpr absorbs, ?_⟩
  rcases settles with ⟨settled, rfl⟩ | ⟨unsettled, result, updates⟩
  · rw [if_neg (not_not.mpr settled)]
    rfl
  · rw [if_pos unsettled, LogM.runOn_bind_eq_ok]
    exact ⟨result, after, LogM.runOn_change_eq_ok.mpr updates, rfl⟩

/-- Each of the five ways is one that a reconciliation goes. -/
theorem Merges.reconcile_eq {outcome : Outcome}
    (merges : Merges incoming window store outcome after) :
    (MessageLog.reconcile incoming window).runOn store = (.ok outcome, after) := by
  cases merges with
  | known isKnown alone =>
      refine LogM.runOn_bind_eq_ok.mpr ⟨_, store, by rw [runOn_findKnown, isKnown], ?_⟩
      exact LogM.runOn_bind_eq_ok.mpr ⟨none, store, runOn_absorbNamed_alone alone, rfl⟩
  | absorbed isKnown isNamed different absorbs settles =>
      refine LogM.runOn_bind_eq_ok.mpr ⟨_, store, by rw [runOn_findKnown, isKnown], ?_⟩
      exact LogM.runOn_bind_eq_ok.mpr
        ⟨_, after, runOn_absorbNamed_of_settles isNamed different absorbs settles, rfl⟩
  | @adopted other replaced _ unknown isNamed replaces =>
      refine LogM.runOn_bind_eq_ok.mpr ⟨none, store, by rw [runOn_findKnown, unknown], ?_⟩
      refine LogM.runOn_bind_eq_ok.mpr ⟨some other, store, by rw [runOn_findNamed, isNamed], ?_⟩
      exact LogM.runOn_bind_eq_ok.mpr
        ⟨replaced, after, LogM.runOn_change_eq_ok.mpr replaces, rfl⟩
  | @echoed other replaced _ unknown unnamed isEcho replaces =>
      refine LogM.runOn_bind_eq_ok.mpr ⟨none, store, by rw [runOn_findKnown, unknown], ?_⟩
      refine LogM.runOn_bind_eq_ok.mpr ⟨none, store, by rw [runOn_findNamed, unnamed], ?_⟩
      refine LogM.runOn_bind_eq_ok.mpr ⟨some other, store, by rw [runOn_findEcho, isEcho], ?_⟩
      exact LogM.runOn_bind_eq_ok.mpr
        ⟨replaced, after, LogM.runOn_change_eq_ok.mpr replaces, rfl⟩
  | inserted unknown unnamed noEcho inserts =>
      refine LogM.runOn_bind_eq_ok.mpr ⟨none, store, by rw [runOn_findKnown, unknown], ?_⟩
      refine LogM.runOn_bind_eq_ok.mpr ⟨none, store, by rw [runOn_findNamed, unnamed], ?_⟩
      refine LogM.runOn_bind_eq_ok.mpr ⟨none, store, by rw [runOn_findEcho, noEcho], ?_⟩
      exact LogM.runOn_bind_eq_ok.mpr ⟨(), after, LogM.runOn_modify_eq_ok.mpr inserts, rfl⟩

/-- A reconciliation that succeeds goes one of the five ways. -/
theorem merges_of_reconcile {outcome : Outcome}
    (ran : (MessageLog.reconcile incoming window).runOn store = (.ok outcome, after)) :
    Merges incoming window store outcome after := by
  simp only [MessageLog.reconcile, LogM.runOn_bind_eq_ok, runOn_findKnown, Prod.mk.injEq] at ran
  rcases ran with ⟨found, _, ⟨lookedUp, rfl⟩, rest⟩
  cases found with
  | some existing =>
      simp only [LogM.runOn_bind_eq_ok] at rest
      rcases rest with ⟨absorbed, _, ran, done⟩
      cases done
      rcases runOn_absorbNamed_eq_ok ran with
        ⟨alone, rfl, rfl⟩ | ⟨other, merged, middle, isNamed, different, absorbs, settles, rfl⟩
      · exact .known lookedUp alone
      · exact .absorbed lookedUp isNamed different absorbs settles
  | none =>
  simp only [LogM.runOn_bind_eq_ok, runOn_findNamed, Prod.mk.injEq] at rest
  rcases rest with ⟨found, _, ⟨isNamed, rfl⟩, rest⟩
  cases found with
  | some other =>
      simp only [LogM.runOn_bind_eq_ok, LogM.runOn_change_eq_ok] at rest
      rcases rest with ⟨replaced, _, replaces, done⟩
      cases done
      exact .adopted lookedUp isNamed replaces
  | none =>
  simp only [LogM.runOn_bind_eq_ok, runOn_findEcho, Prod.mk.injEq] at rest
  rcases rest with ⟨found, _, ⟨isEcho, rfl⟩, rest⟩
  cases found with
  | some other =>
      simp only [LogM.runOn_bind_eq_ok, LogM.runOn_change_eq_ok] at rest
      rcases rest with ⟨replaced, _, replaces, done⟩
      cases done
      exact .echoed lookedUp isNamed isEcho replaces
  | none =>
      simp only [LogM.runOn_bind_eq_ok, LogM.runOn_modify_eq_ok] at rest
      rcases rest with ⟨_, _, inserts, done⟩
      cases done
      exact .inserted lookedUp isNamed isEcho inserts

/-- A reconciliation that fails leaves the store as it was, or has made a record absorb another and
could not set its sync state. -/
theorem reconcile_eq_error {error : LogError}
    (ran : (MessageLog.reconcile incoming window).runOn store = (.error error, after)) :
    after = store ∨
      ∃ existing other merged, store.known incoming.serverKey = .ok (some existing) ∧
        store.named incoming = .ok (some other) ∧ other.id ≠ existing.id ∧
        store.absorb other.id existing.id = .ok (merged, after) ∧
        existing.syncStatus ≠ incoming.settledStatus ∧
        after.update existing.id (.status incoming.settledStatus) = .error error := by
  simp only [MessageLog.reconcile, LogM.runOn_bind_eq_error, runOn_findKnown, Prod.mk.injEq] at ran
  rcases ran with ⟨-, rfl⟩ | ⟨found, _, ⟨lookedUp, rfl⟩, rest⟩
  · exact Or.inl rfl
  cases found with
  | some existing =>
      simp only [LogM.runOn_bind_eq_error] at rest
      rcases rest with failed | ⟨absorbed, _, absorbs, done⟩
      · rcases runOn_absorbNamed_eq_error failed with
          rfl | ⟨other, merged, isNamed, different, absorbs, unsettled, failed⟩
        · exact Or.inl rfl
        · exact Or.inr ⟨existing, other, merged, lookedUp, isNamed, different, absorbs, unsettled,
            failed⟩
      · cases done
  | none =>
  left
  simp only [LogM.runOn_bind_eq_error, runOn_findNamed, Prod.mk.injEq] at rest
  rcases rest with ⟨-, rfl⟩ | ⟨found, _, ⟨isNamed, rfl⟩, rest⟩
  · rfl
  cases found with
  | some other =>
      simp only [LogM.runOn_bind_eq_error, LogM.runOn_change_eq_error] at rest
      rcases rest with ⟨-, rfl⟩ | ⟨replaced, _, replaces, done⟩
      · rfl
      · cases done
  | none =>
  simp only [LogM.runOn_bind_eq_error, runOn_findEcho, Prod.mk.injEq] at rest
  rcases rest with ⟨-, rfl⟩ | ⟨found, _, ⟨isEcho, rfl⟩, rest⟩
  · rfl
  cases found with
  | some other =>
      simp only [LogM.runOn_bind_eq_error, LogM.runOn_change_eq_error] at rest
      rcases rest with ⟨-, rfl⟩ | ⟨replaced, _, replaces, done⟩
      · rfl
      · cases done
  | none =>
      simp only [LogM.runOn_bind_eq_error, LogM.modify, LogM.runOn_change_eq_error] at rest
      rcases rest with ⟨-, rfl⟩ | ⟨_, _, inserts, done⟩
      · rfl
      · cases done

/-- No way to reconcile a record makes two rows share a key. -/
theorem UniqueKeys.merges (unique : store.UniqueKeys) {outcome : Outcome}
    (merges : Merges incoming window store outcome after) : after.UniqueKeys := by
  cases merges with
  | known => exact unique
  | absorbed isKnown isNamed different absorbs settles =>
      rcases settles with ⟨-, rfl⟩ | ⟨-, settled, updates⟩
      · exact unique.absorb absorbs
      · exact (unique.absorb absorbs).update updates
  | adopted unknown isNamed replaces => exact unique.replaceId replaces
  | echoed unknown unnamed isEcho replaces => exact unique.replaceId replaces
  | inserted unknown unnamed noEcho inserts => exact unique.insert inserts

end Store

end MessageSync
