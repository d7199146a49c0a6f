import MessageSync.Proofs.Reconcile.Report
import MessageSync.Proofs.Reconcile.Unsent
import MessageSync.Proofs.Store.References

/-!
# What merging a record does to the rows

Merging a record does one of four things. It leaves the rows alone; it adds a row under the server
id; it gives the record that is named, or taken for the same message, the server id; or it merges
the record that is named into the one that has the server id. In the last two an id gives way to
another one, and the references of all rows follow. A merge that fails leaves the rows alone, or
ends after the last of these before the sync state is set.
-/

namespace MessageSync

theorem Row.renamePrevious_of_ne {oldId newId : String} {row : Row}
    (different : row.previousId ≠ some oldId) : row.renamePrevious oldId newId = row :=
  if_neg different

/-- The id that gave way in a merge, with the one that it gave way to. -/
def Outcome.move? : Outcome → Option (String × String)
  | .duplicate id absorbed => absorbed.map (·, id)
  | .adoptedLocal previousId id | .matchedEcho previousId id => some (previousId, id)
  | .inserted _ => none

namespace Store

variable {store after : Store} {incoming : Message} {window : MatchWindow}

/-- The id that gives way when a record is merged, with the one that it gives way to. -/
def move? (store : Store) (incoming : Message) (window : MatchWindow) : Option (String × String) :=
  match store.known incoming.serverKey, store.named incoming with
  | .ok (some existing), .ok (some other) =>
      if other.id = existing.id then none else some (other.id, existing.id)
  | .ok none, .ok (some other) => some (other.id, incoming.serverKey)
  | .ok none, .ok none =>
      match store.echo incoming window with
      | .ok (some other) => some (other.id, incoming.serverKey)
      | _ => none
  | _, _ => none

/-- The record of one row, which is named, was merged into that of another. The row that was written
in the place of that is of its conversation, and has its local id or took over the one that it did
not have. -/
structure Merging (incoming : Message) (store : Store) (existing : Message) (former place row : Row)
    (after : Store) : Prop where
  isKnown : store.known incoming.serverKey = .ok (some existing)
  holds : place.Holds existing
  mem : former ∈ store.rows
  namedBy : former.NamedBy incoming
  different : former.id ≠ place.id
  stays : row.conversationId = place.conversationId
  localId : row.localId = place.localId ∨ place.localId = none ∧ row.localId = incoming.localId
  pending : row.ReadsPending → place.ReadsPending
  rewrites : Rewrites store after former.id place.id place row

/-- What merging a record does to the rows of a store, with its result. -/
inductive Effect (incoming : Message) (window : MatchWindow) (store : Store) :
    Except LogError Outcome → Store → Prop where
  | unchanged {result : Except LogError Outcome} (still : store.move? incoming window = none)
      (same : ∀ outcome, result = .ok outcome → outcome.changed = false) :
      Effect incoming window store result store
  | inserted (still : store.move? incoming window = none)
      (unknown : store.known incoming.serverKey = .ok none) :
      Effect incoming window store (.ok (.inserted incoming.serverKey))
        { store with rows := store.rows ++ [Row.ofMessage incoming.acknowledged] }
  | moved {place row : Row} {outcome : Outcome} {after : Store}
      (moves : store.move? incoming window = some (place.id, incoming.serverKey))
      (reports : outcome.move? = some (place.id, incoming.serverKey))
      (unknown : store.known incoming.serverKey = .ok none)
      (within : place.conversationId = incoming.conversationId)
      (chosen : place.NamedBy incoming ∨ place.ReadsPending)
      (stays : row.conversationId = place.conversationId) (localId : row.localId = place.localId)
      (settled : ¬row.ReadsPending)
      (rewrites : Rewrites store after place.id incoming.serverKey place row) :
      Effect incoming window store (.ok outcome) after
  | merged {former place row : Row} {existing : Message} {after : Store}
      (moves : store.move? incoming window = some (former.id, place.id))
      (settled : ¬row.ReadsPending)
      (elsewhere : place.conversationId ≠ incoming.conversationId →
        existing.syncStatus = incoming.settledStatus ∧ row = place ∨
          existing.syncStatus ≠ incoming.settledStatus ∧
            row.syncStatus = incoming.settledStatus.name)
      (merging : Merging incoming store existing former place row after) :
      Effect incoming window store (.ok (.duplicate place.id (some former.id))) after
  /-- A merge that ends before the sync state is set. The row took over a local id. -/
  | spoiled {former place row : Row} {existing : Message} {error : LogError} {after : Store}
      (moves : store.move? incoming window = some (former.id, place.id))
      (within : place.conversationId = incoming.conversationId) (free : place.localId = none)
      (takes : row.localId = incoming.localId)
      (merging : Merging incoming store existing former place row after) :
      Effect incoming window store (.error error) after

/-! ## Setting the sync state after a merge -/

/-- A record that is patched after references were moved is as if it had been written so at once. -/
theorem Rewrites.update {before middle : Store} {oldId newId : String} {place row : Row}
    (rewrites : Rewrites before middle oldId newId place row) (unique : before.UniqueIds)
    (different : oldId ≠ newId) {status : SyncStatus} {result : Message}
    (updated : middle.update newId (.status status) = .ok (result, after)) :
    Rewrites before after oldId newId place (Row.ofMessage result) ∧
      result.conversationId = row.conversationId ∧ result.localId = row.localId ∧
        result.syncStatus = status := by
  rcases update_eq_ok.mp updated with ⟨message, loaded, rfl, overwrote⟩
  rcases overwrite_eq_ok.mp overwrote with ⟨-, rfl⟩
  rw [load_of_withId (rewrites.withId unique), Row.toMessage_eq_ok] at loaded
  have sameId : message.id = newId := by
    rw [loaded.id, Row.renamePrevious_id, rewrites.id]
  have conversation : message.conversationId = row.conversationId := by
    rw [loaded.conversationId, Row.renamePrevious_conversationId]
  have localId : message.localId = row.localId := by
    rw [loaded.localId, Row.renamePrevious_localId]
  refine ⟨⟨rewrites.mem, rewrites.placed, sameId, ?_⟩, conversation, localId, rfl⟩
  simp only [rewrites.rows, List.map_map]
  apply List.map_congr_left
  intro other mem
  rw [List.mem_filter, decide_eq_true_eq] at mem
  simp only [Function.comp_apply, overwritten, Row.renamePrevious_id]
  by_cases here : other.id = place.id
  · -- The record was read after its reference had been moved.
    have moved : (Row.ofMessage (MessagePatch.apply (.status status) message)).previousId ≠
        some oldId := by
      change message.previousId ≠ some oldId
      rw [loaded.previousId]
      exact Row.renamePrevious_previousId_ne different
    simp only [here, reduceIte, rewrites.id, Row.renamePrevious_of_ne moved]
  · have elsewhere : other.id ≠ newId := by
      rintro rfl
      exact mem.2.resolve_left here (by simp)
    simp only [here, elsewhere, reduceIte]

/-! ## The ways of a merge -/

/-- The outcome names the id that gives way. -/
theorem Merges.move?_eq {outcome : Outcome} (merges : Merges incoming window store outcome after) :
    store.move? incoming window = outcome.move? := by
  cases merges with
  | known isKnown alone =>
      rcases alone with unnamed | ⟨other, isNamed, same⟩
      · simp only [move?, isKnown, unnamed, Outcome.move?, Option.map_none]
      · simp only [move?, isKnown, isNamed, same, reduceIte, Outcome.move?, Option.map_none]
  | absorbed isKnown isNamed different =>
      simp only [move?, isKnown, isNamed, different, reduceIte, Outcome.move?, Option.map_some]
  | adopted unknown isNamed => simp only [move?, unknown, isNamed, Outcome.move?]
  | echoed unknown unnamed isEcho => simp only [move?, unknown, unnamed, isEcho, Outcome.move?]
  | inserted unknown unnamed noEcho => simp only [move?, unknown, unnamed, noEcho, Outcome.move?]

/-- A record that takes the server id displaces its row. -/
theorem effect_of_replaceId (unique : store.UniqueKeys) {place : Row} {other result : Message}
    {patch : MessagePatch} {outcome : Outcome} (mem : place ∈ store.rows)
    (holds : place.Holds other) (within : place.conversationId = incoming.conversationId)
    (chosen : place.NamedBy incoming ∨ place.ReadsPending)
    (sameLocal : patch.localId.or other.localId = other.localId)
    (status : patch.syncStatus = some incoming.settledStatus)
    (replaces : store.replaceId other.id incoming.serverKey patch = .ok (result, after))
    (unknown : store.known incoming.serverKey = .ok none)
    (reports : outcome.move? = some (other.id, incoming.serverKey))
    (merges : Merges incoming window store outcome after) :
    Effect incoming window store (.ok outcome) after := by
  have different : other.id ≠ incoming.serverKey := by
    rw [holds.id]
    exact (known_eq_none.mp unknown place mem).2
  rcases exists_rewrites_of_replaceId replaces different with
    ⟨message, found, -, foundHolds, foundId, -, rewrites⟩
  cases unique.eq_of_id mem rewrites.mem (holds.id.symm.trans foundId.symm)
  have localId : patch.localId.or message.localId = place.localId := by
    rw [foundHolds.localId, ← holds.localId, sameLocal]
  have settled : ¬(Row.ofMessage
      { patch.apply message with id := incoming.serverKey }).ReadsPending := by
    rw [Row.readsPending_ofMessage]
    change patch.syncStatus.getD message.syncStatus ≠ .pending
    rw [status]
    exact incoming.settledStatus_ne_pending
  rw [holds.id] at reports rewrites
  exact .moved (merges.move?_eq.trans reports) reports unknown within chosen
    foundHolds.conversationId localId settled rewrites

/-- Setting the sync state after a merge. -/
theorem Merging.update {existing : Message} {former place row : Row} {middle : Store}
    (merging : Merging incoming store existing former place row middle) (unique : store.UniqueKeys)
    {status : SyncStatus} (notPending : status ≠ .pending) {result : Message}
    (updated : middle.update place.id (.status status) = .ok (result, after)) :
    result.syncStatus = status ∧
      Merging incoming store existing former place (Row.ofMessage result) after := by
  rcases merging.rewrites.update unique.uniqueIds merging.different updated with
    ⟨rewrites, conversation, localId, isSet⟩
  refine ⟨isSet, merging.isKnown, merging.holds, merging.mem, merging.namedBy, merging.different,
    conversation.trans merging.stays, ?_, ?_, rewrites⟩
  · change result.localId = place.localId ∨ _ ∧ result.localId = incoming.localId
    rw [localId]
    exact merging.localId
  · intro pending
    rw [Row.readsPending_ofMessage, isSet] at pending
    exact absurd pending notPending

section Absorbing

variable (unique : store.UniqueKeys) {existing other merged : Message} {middle : Store}
  (isKnown : store.known incoming.serverKey = .ok (some existing))
  (isNamed : store.named incoming = .ok (some other)) (different : other.id ≠ existing.id)
  (absorbs : store.absorb other.id existing.id = .ok (merged, middle))

include unique isKnown isNamed different absorbs

/-- A record that is merged into another goes. The other one takes over its local id, if it has none
and is of its conversation. -/
theorem merging_of_absorb (window : MatchWindow) :
    ∃ former place row, former.Holds other ∧
      store.move? incoming window = some (former.id, place.id) ∧
      (place.conversationId = incoming.conversationId ∧ place.localId = none ∧
          row = Row.ofMessage { existing with localId := incoming.localId } ∨
        ¬TakesAlias other existing ∧ row = place) ∧
      Merging incoming store existing former place row middle := by
  rcases exists_row_of_known isKnown with ⟨knownRow, knownMem, -, knownHolds⟩
  rcases exists_row_of_named isNamed with ⟨former, formerMem, namedBy, formerHolds⟩
  rcases exists_rewrites_of_absorb unique.uniqueIds absorbs with
    ⟨-, duplicate, canonical, place, row, duplicateLoaded, canonicalLoaded, -, placeId, written,
      rewrites⟩
  cases (load_of_holds unique knownMem knownHolds).symm.trans canonicalLoaded
  cases (load_of_holds unique formerMem formerHolds).symm.trans duplicateLoaded
  cases unique.eq_of_id knownMem rewrites.mem (knownHolds.id.symm.trans placeId.symm)
  have moves : store.move? incoming window = some (other.id, existing.id) := by
    simp only [move?, isKnown, isNamed, different, reduceIte]
  rw [formerHolds.id, knownHolds.id] at different rewrites moves
  refine ⟨former, knownRow, row, formerHolds, moves, ?_⟩
  rcases written with ⟨⟨isNone, sameConversation⟩, rfl⟩ | ⟨refused, rfl⟩
  · have localId : other.localId = incoming.localId := formerHolds.localId.trans namedBy.2.2
    have free : knownRow.localId = none := by
      rw [← knownHolds.localId, Option.isNone_iff_eq_none.mp isNone]
    have within : knownRow.conversationId = incoming.conversationId := by
      rw [← knownHolds.conversationId, ← sameConversation, formerHolds.conversationId, namedBy.1]
    rw [localId] at rewrites ⊢
    refine ⟨Or.inl ⟨within, free, rfl⟩, isKnown, knownHolds, formerMem, namedBy, different,
      knownHolds.conversationId, Or.inr ⟨free, rfl⟩, ?_, rewrites⟩
    intro pending
    rw [Row.readsPending_ofMessage] at pending
    exact knownHolds.syncStatus.trans (congrArg some pending)
  · exact ⟨Or.inr ⟨refused, rfl⟩, isKnown, knownHolds, formerMem, namedBy, different, rfl,
      Or.inl rfl, id, rewrites⟩

/-- A merge that is carried through. -/
theorem effect_of_settles (settles : Settles existing incoming.settledStatus middle after) :
    Effect incoming window store (.ok (.duplicate existing.id (some other.id))) after := by
  rcases merging_of_absorb unique isKnown isNamed different absorbs window with
    ⟨former, place, row, formerHolds, moves, written, merging⟩
  have holds := merging.holds
  have notPending := incoming.settledStatus_ne_pending
  rw [formerHolds.id, holds.id]
  rcases settles with ⟨settled, rfl⟩ | ⟨unsettled, result, updates⟩
  · refine .merged moves ?_ ?_ merging
    · rintro pending
      have placePending := merging.pending pending
      rw [Row.ReadsPending, holds.syncStatus, Option.some.injEq, settled] at placePending
      exact notPending placePending
    · intro elsewhere
      rcases written with ⟨within, -⟩ | ⟨-, same⟩
      · exact absurd within elsewhere
      · exact Or.inl ⟨settled, same⟩
  · rw [holds.id] at updates
    rcases merging.update unique notPending updates with ⟨status, updated⟩
    refine .merged moves ?_ (fun _ => Or.inr ⟨unsettled, ?_⟩) updated
    · rw [Row.readsPending_ofMessage, status]
      exact notPending
    · rw [Row.ofMessage, status]

/-- A merge that ends before the sync state is set, since the record cannot be read any more. -/
theorem effect_of_not_settles
    (stuck : ¬∃ settled, Settles existing incoming.settledStatus middle settled)
    (error : LogError) : Effect incoming window store (.error error) middle := by
  rcases merging_of_absorb unique isKnown isNamed different absorbs window with
    ⟨former, place, row, formerHolds, moves, written, merging⟩
  have holds := merging.holds
  rcases written with ⟨within, free, rfl⟩ | ⟨refused, -⟩
  · exact .spoiled moves within free rfl merging
  · refine absurd ?_ stuck
    exact (exists_settles_iff unique merging.rewrites.mem holds merging.mem formerHolds
      absorbs).mpr fun _ takes => absurd takes refused

end Absorbing

/-- A merge fails after a record was merged into another if the sync state of that cannot be set. -/
theorem runOn_absorbNamed_of_not_settles {existing other merged : Message} {middle : Store}
    {status : SyncStatus} (isNamed : store.named incoming = .ok (some other))
    (different : other.id ≠ existing.id)
    (absorbs : store.absorb other.id existing.id = .ok (merged, middle))
    (stuck : ¬∃ settled, Settles existing status middle settled) :
    ∃ error, (MessageLog.absorbNamed incoming existing status).runOn store =
      (.error error, middle) := by
  have unsettled : existing.syncStatus ≠ status := fun same => stuck ⟨middle, Or.inl ⟨same, rfl⟩⟩
  cases updates : middle.update existing.id (.status status) with
  | ok done => exact absurd ⟨done.2, Or.inr ⟨unsettled, done.1, updates⟩⟩ stuck
  | error error =>
      refine ⟨error, ?_⟩
      simp only [MessageLog.absorbNamed]
      rw [LogM.runOn_bind, runOn_findNamed, isNamed]
      simp only [if_neg different]
      refine LogM.runOn_bind_eq_error.mpr (Or.inr ⟨merged, middle, ?_, ?_⟩)
      · exact LogM.runOn_change_eq_ok.mpr absorbs
      · rw [if_pos unsettled]
        exact LogM.runOn_bind_eq_error.mpr
          (Or.inl (LogM.runOn_change_eq_error.mpr ⟨updates, rfl⟩))

/-- A record whose server id and local id are those of different records. -/
theorem effect_of_known (unique : store.UniqueKeys) {existing other : Message}
    (isKnown : store.known incoming.serverKey = .ok (some existing))
    (isNamed : store.named incoming = .ok (some other)) (different : other.id ≠ existing.id) :
    Effect incoming window store ((MessageLog.reconcile incoming window).runOn store).1
      ((MessageLog.reconcile incoming window).runOn store).2 := by
  rcases exists_row_of_known isKnown with ⟨knownRow, knownMem, -, knownHolds⟩
  rcases exists_row_of_named isNamed with ⟨former, formerMem, -, formerHolds⟩
  rcases unique.exists_absorb formerMem formerHolds knownMem knownHolds different with
    ⟨merged, middle, absorbs⟩
  by_cases settles : ∃ after, Settles existing incoming.settledStatus middle after
  · rcases settles with ⟨after, settles⟩
    rw [(Merges.absorbed isKnown isNamed different absorbs settles).reconcile_eq]
    exact effect_of_settles unique isKnown isNamed different absorbs settles
  · rcases runOn_absorbNamed_of_not_settles isNamed different absorbs settles with ⟨error, ran⟩
    have failed : (MessageLog.reconcile incoming window).runOn store = (.error error, middle) := by
      refine LogM.runOn_bind_eq_error.mpr
        (Or.inr ⟨_, store, by rw [runOn_findKnown, isKnown], ?_⟩)
      exact LogM.runOn_bind_eq_error.mpr (Or.inl ran)
    rw [failed]
    exact effect_of_not_settles unique isKnown isNamed different absorbs settles error

/-- A record whose server id is new, and whose local id is that of a record. -/
theorem effect_of_named (unique : store.UniqueKeys) {other : Message}
    (unknown : store.known incoming.serverKey = .ok none)
    (isNamed : store.named incoming = .ok (some other)) :
    Effect incoming window store ((MessageLog.reconcile incoming window).runOn store).1
      ((MessageLog.reconcile incoming window).runOn store).2 := by
  rcases exists_row_of_named isNamed with ⟨row, mem, namedBy, holds⟩
  have sameLocal : incoming.adoption.localId.or other.localId = other.localId := by
    change incoming.localId.or other.localId = other.localId
    rw [holds.localId, ← namedBy.2.2]
    cases row.localId <;> rfl
  rcases unique.exists_replaceId mem holds (known_eq_none.mp unknown) rfl sameLocal with
    ⟨replaced, after, replaces⟩
  have merges : Merges incoming window store _ after := .adopted unknown isNamed replaces
  rw [merges.reconcile_eq]
  exact effect_of_replaceId unique mem holds namedBy.1 (Or.inl namedBy) sameLocal rfl replaces
    unknown rfl merges

/-- A record whose ids are new, and which is taken for one that was written here. -/
theorem effect_of_echo (unique : store.UniqueKeys) {other : Message}
    (unknown : store.known incoming.serverKey = .ok none)
    (unnamed : store.named incoming = .ok none)
    (isEcho : store.echo incoming window = .ok (some other)) :
    Effect incoming window store ((MessageLog.reconcile incoming window).runOn store).1
      ((MessageLog.reconcile incoming window).runOn store).2 := by
  rcases exists_row_of_echo isEcho with ⟨-, row, mem, holds, ⟨within, pending⟩, -⟩
  have sameLocal : other.localId.or other.localId = other.localId := by
    cases other.localId <;> rfl
  have replaces : ∃ replaced after, store.replaceId other.id incoming.serverKey
      { incoming.adoption with localId := other.localId } = .ok (replaced, after) :=
    unique.exists_replaceId mem holds (known_eq_none.mp unknown) rfl sameLocal
  rcases replaces with ⟨replaced, after, replaces⟩
  have merges : Merges incoming window store _ after := .echoed unknown unnamed isEcho replaces
  rw [merges.reconcile_eq]
  exact effect_of_replaceId unique mem holds within (Or.inr (Row.Pending.reads pending)) sameLocal
    rfl replaces unknown rfl merges

/-- Once the id that gives way is found, it does give way. -/
theorem effect_of_moves (unique : store.UniqueKeys) {move : String × String}
    (moves : store.move? incoming window = some move) :
    Effect incoming window store ((MessageLog.reconcile incoming window).runOn store).1
      ((MessageLog.reconcile incoming window).runOn store).2 := by
  simp only [move?] at moves
  split at moves
  · next existing other isKnown isNamed =>
      split at moves
      · cases moves
      · next different => exact effect_of_known unique isKnown isNamed different
  · next other unknown isNamed => exact effect_of_named unique unknown isNamed
  · next unknown unnamed =>
      split at moves
      · next other isEcho => exact effect_of_echo unique unknown unnamed isEcho
      · cases moves
  · cases moves

/-- Merging a record, whether it succeeds or not, does one of five things to the rows. -/
theorem effect_of_reconcile (unique : store.UniqueKeys) (incoming : Message)
    (window : MatchWindow) :
    Effect incoming window store ((MessageLog.reconcile incoming window).runOn store).1
      ((MessageLog.reconcile incoming window).runOn store).2 := by
  cases moves : store.move? incoming window with
  | some move => exact effect_of_moves unique moves
  | none =>
      rcases ran : (MessageLog.reconcile incoming window).runOn store with ⟨error | outcome, after⟩
      · rcases reconcile_eq_error ran with
          rfl | ⟨existing, other, -, isKnown, isNamed, different, -⟩
        · exact .unchanged moves fun outcome same => nomatch same
        · simp only [move?, isKnown, isNamed, different, reduceIte, reduceCtorEq] at moves
      · have merges := merges_of_reconcile ran
        have kind := merges.move?_eq.symm.trans moves
        cases merges with
        | known =>
            refine .unchanged moves ?_
            rintro _ ⟨⟩
            rfl
        | absorbed | adopted | echoed => cases kind
        | inserted unknown unnamed noEcho inserts =>
            rcases insert_eq_ok.mp inserts with ⟨-, rfl⟩
            exact .inserted moves unknown

end Store

end MessageSync
