import MessageSync.Proofs.Reconcile.Repetition
import MessageSync.Proofs.Store.Success

/-!
# What a reconciliation reports

A reconciliation succeeds, and its outcome says truly what became of the store. The lookups that
come first rule out that any key which is written is in use. The only way to fail is that a record
absorbs another and then cannot be read again to set its sync state: its row was rewritten, and the
new text of one of its times has a year that a stored time cannot have.
-/

namespace MessageSync

/-- By how much the number of rows grows. -/
def Outcome.growth : Outcome → Int
  | .duplicate _ none | .adoptedLocal _ _ | .matchedEcho _ _ => 0
  | .duplicate _ (some _) => -1
  | .inserted _ => 1

namespace Store

/-- The outcome is a true report of what became of a store. -/
structure Reports (before : Store) (outcome : Outcome) (after : Store) : Prop where
  unique : after.UniqueKeys
  stored : ∃ row ∈ after.rows, row.id = outcome.id
  growth : (after.rows.length : Int) = before.rows.length + outcome.growth
  changed : outcome.changed = true ↔ ¬after.rows.Perm before.rows

/-- The record known by the incoming server id is to take over a local id and a sync state, but has
a time that cannot be written so that it reads back. -/
def Spoils (store : Store) (incoming : Message) : Prop :=
  ∃ existing other, store.known incoming.serverKey = .ok (some existing) ∧
    store.named incoming = .ok (some other) ∧ other.id ≠ existing.id ∧
    TakesAlias other existing ∧ existing.syncStatus ≠ incoming.settledStatus ∧
    ¬existing.Storable

variable {store after : Store} {incoming : Message} {window : MatchWindow}

/-! ## Every lookup has an answer -/

theorem Readable.legible (readable : store.Readable) : store.Legible := by
  intro row mem
  rcases readable row mem with ⟨message, read, -⟩
  exact ⟨message, Row.toMessage_eq_ok.mp read⟩

theorem Legible.exists_known (legible : store.Legible) (serverId : String) :
    ∃ found, store.known serverId = .ok found := by
  rcases legible.exists_find? fun row => row.serverId == some serverId with ⟨found, read⟩
  simp only [known, findByServerId, findById]
  rw [read]
  cases found with
  | some existing => exact ⟨some existing, rfl⟩
  | none => exact legible.exists_find? _

theorem Legible.exists_named (legible : store.Legible) (incoming : Message) :
    ∃ found, store.named incoming = .ok found := by
  simp only [named, findByLocalId]
  split
  · exact legible.exists_find? _
  · exact ⟨none, rfl⟩

theorem Legible.exists_echo (legible : store.Legible) (incoming : Message)
    (window : MatchWindow) : ∃ found, store.echo incoming window = .ok found := by
  rcases legible.exists_pending incoming.conversationId with ⟨candidates, read⟩
  simp only [echo]
  split
  · exact ⟨none, rfl⟩
  · rw [read]
    exact ⟨_, rfl⟩

/-! ## The number of rows -/

theorem length_overwrite {id blamed : String} {message : Message}
    (written : store.overwrite id message blamed = .ok after) :
    after.rows.length = store.rows.length := by
  rcases overwrite_eq_ok.mp written with ⟨-, rfl⟩
  exact List.length_map _

theorem length_renamePrevious (oldId newId : String) :
    (store.renamePrevious oldId newId).rows.length = store.rows.length :=
  List.length_map _

theorem length_replaceId {oldId newId : String} {patch : MessagePatch} {result : Message}
    (replaced : store.replaceId oldId newId patch = .ok (result, after)) :
    after.rows.length = store.rows.length := by
  rcases replaceId_eq_ok.mp replaced with ⟨message, written, -, -, -, overwrote, rfl⟩
  rw [length_renamePrevious, length_overwrite overwrote]

theorem length_update {id : String} {patch : MessagePatch} {result : Message}
    (updated : store.update id patch = .ok (result, after)) :
    after.rows.length = store.rows.length := by
  rcases update_eq_ok.mp updated with ⟨message, -, -, written⟩
  exact length_overwrite written

theorem UniqueKeys.length_filter_id (unique : store.UniqueKeys) {row : Row}
    (mem : row ∈ store.rows) :
    (store.rows.filter fun other => other.id ≠ row.id).length + 1 = store.rows.length := by
  have parts : store.rows.length = store.rows.countP (fun other => other.id == row.id) +
      store.rows.countP (fun other => decide ¬(other.id == row.id) = true) :=
    List.length_eq_countP_add_countP _
  rw [unique.countP_id mem] at parts
  simp only [beq_iff_eq] at parts
  rw [← List.countP_eq_length_filter, parts, Nat.add_comm]

theorem length_absorb (unique : store.UniqueKeys) {duplicateId canonicalId : String}
    {result : Message} (absorbed : store.absorb duplicateId canonicalId = .ok (result, after)) :
    after.rows.length + 1 = store.rows.length := by
  rcases absorb_eq_ok.mp absorbed with ⟨-, duplicate, canonical, kept, loaded, -, rfl, outcome⟩
  rcases exists_row_of_load loaded with ⟨row, mem, sameId, -⟩
  have removed := unique.length_filter_id mem
  rw [sameId] at removed
  rw [length_renamePrevious]
  rcases outcome with ⟨-, -, overwrote⟩ | ⟨-, -, rfl⟩
  · rw [length_overwrite overwrote]
    exact removed
  · exact removed

/-! ## A true report -/

theorem not_perm_of_new_id {id : String} (found : ∃ row ∈ after.rows, row.id = id)
    (free : ∀ row ∈ store.rows, row.id ≠ id) : ¬after.rows.Perm store.rows := by
  rintro same
  rcases found with ⟨row, mem, sameId⟩
  exact free row (same.mem_iff.mp mem) sameId

theorem Merges.growth (unique : store.UniqueKeys) {outcome : Outcome}
    (merges : Merges incoming window store outcome after) :
    (after.rows.length : Int) = store.rows.length + outcome.growth := by
  cases merges with
  | known => simp [Outcome.growth]
  | absorbed isKnown isNamed different absorbs settles =>
      have removed := length_absorb unique absorbs
      rcases settles with ⟨-, rfl⟩ | ⟨-, settled, updates⟩
      · simp only [Outcome.growth]
        omega
      · rw [length_update updates]
        simp only [Outcome.growth]
        omega
  | adopted unknown isNamed replaces => simp [length_replaceId replaces, Outcome.growth]
  | echoed unknown unnamed isEcho replaces => simp [length_replaceId replaces, Outcome.growth]
  | inserted unknown unnamed noEcho inserts =>
      rcases insert_eq_ok.mp inserts with ⟨-, rfl⟩
      simp [Outcome.growth]

theorem Merges.reports (unique : store.UniqueKeys) {outcome : Outcome}
    (merges : Merges incoming window store outcome after) : Reports store outcome after := by
  have stored : ∃ row ∈ after.rows, row.id = outcome.id := by
    rcases merges.settled unique with ⟨row, settled, sameId⟩
    exact ⟨row, settled.mem, sameId⟩
  have growth := merges.growth unique
  refine ⟨unique.merges merges, stored, growth, ?_⟩
  cases merges with
  | known => simp [Outcome.changed]
  | absorbed =>
      refine iff_of_true rfl fun same => ?_
      rw [same.length_eq, Outcome.growth] at growth
      omega
  | adopted unknown =>
      exact iff_of_true rfl
        (not_perm_of_new_id stored fun row mem => (known_eq_none.mp unknown row mem).2)
  | echoed unknown =>
      exact iff_of_true rfl
        (not_perm_of_new_id stored fun row mem => (known_eq_none.mp unknown row mem).2)
  | inserted unknown =>
      exact iff_of_true rfl
        (not_perm_of_new_id stored fun row mem => (known_eq_none.mp unknown row mem).2)

/-! ## There is always a way -/

/-- The row of a record that absorbed another can be read, unless it was rewritten to take over the
local id and one of its times cannot be written so that it reads back. -/
theorem exists_absorbed_row (unique : store.UniqueKeys) {knownRow namedRow : Row}
    {existing other merged : Message} (knownMem : knownRow ∈ store.rows)
    (knownHolds : knownRow.Holds existing) (namedMem : namedRow ∈ store.rows)
    (namedHolds : namedRow.Holds other)
    (absorbs : store.absorb other.id existing.id = .ok (merged, after)) :
    ∃ row ∈ after.rows, row.id = existing.id ∧
      ((∃ message, row.Holds message) ↔ (TakesAlias other existing → existing.Storable)) := by
  rcases absorb_eq_ok.mp absorbs with
    ⟨different, duplicate, canonical, kept, duplicateLoaded, canonicalLoaded, rfl, outcome⟩
  cases (load_of_holds unique namedMem namedHolds).symm.trans duplicateLoaded
  cases (load_of_holds unique knownMem knownHolds).symm.trans canonicalLoaded
  have keptMem : knownRow ∈ store.rows.filter fun row => row.id ≠ other.id := by
    rw [List.mem_filter, decide_eq_true_eq, ← knownHolds.id]
    exact ⟨knownMem, different.symm⟩
  simp only [mem_renamePrevious]
  rcases outcome with ⟨takes, rfl, overwrote⟩ | ⟨refused, rfl, rfl⟩
  · refine ⟨_, ⟨_, (mem_overwrite overwrote ⟨knownRow, keptMem, knownHolds.id.symm⟩).mpr
      (Or.inl rfl), rfl⟩, Row.renamePrevious_id _ _ _, ?_⟩
    rw [Row.renamePrevious_ofMessage]
    constructor
    · rintro ⟨message, holds⟩ -
      have storable := (Row.toMessage_ofMessage.mp (Row.toMessage_eq_ok.mpr holds)).1
      exact ⟨storable.created, storable.updated⟩
    · intro readsBack
      exact ⟨_, Row.holds_ofMessage ⟨(readsBack takes).created, (readsBack takes).updated⟩⟩
  · refine ⟨_, ⟨knownRow, keptMem, rfl⟩, ?_, ?_⟩
    · rw [Row.renamePrevious_id, knownHolds.id]
    · exact iff_of_true ⟨_, Row.renamePrevious_holds _ _ _ knownHolds⟩ fun takes =>
        absurd takes refused

/-- A record that absorbed another has its sync state set exactly if its row can be read, or there
is nothing to set. -/
theorem exists_settles_iff (unique : store.UniqueKeys) {knownRow namedRow : Row}
    {existing other merged : Message} {middle : Store} (knownMem : knownRow ∈ store.rows)
    (knownHolds : knownRow.Holds existing) (namedMem : namedRow ∈ store.rows)
    (namedHolds : namedRow.Holds other)
    (absorbs : store.absorb other.id existing.id = .ok (merged, middle)) {status : SyncStatus} :
    (∃ after, Settles existing status middle after) ↔
      (existing.syncStatus ≠ status → TakesAlias other existing → existing.Storable) := by
  rcases exists_absorbed_row unique knownMem knownHolds namedMem namedHolds absorbs with
    ⟨row, mem, sameId, readable⟩
  have middleUnique := unique.absorb absorbs
  constructor
  · rintro ⟨after, ⟨settled, -⟩ | ⟨-, result, updated⟩⟩ unsettled
    · exact absurd settled unsettled
    · rcases update_eq_ok.mp updated with ⟨message, loaded, -, -⟩
      rcases exists_row_of_load loaded with ⟨loadedRow, loadedMem, loadedId, holds⟩
      rw [middleUnique.eq_of_id loadedMem mem (loadedId.trans sameId.symm)] at holds
      exact readable.mp ⟨message, holds⟩
  · intro readsBack
    by_cases settled : existing.syncStatus = status
    · exact ⟨middle, Or.inl ⟨settled, rfl⟩⟩
    · rcases readable.mpr (readsBack settled) with ⟨message, holds⟩
      rcases middleUnique.exists_update mem holds status with ⟨result, after, updated⟩
      rw [holds.id, sameId] at updated
      exact ⟨after, Or.inr ⟨settled, result, updated⟩⟩

/-- A legible store with unique keys takes in every record, unless that spoils a row. -/
theorem exists_merges (unique : store.UniqueKeys) (legible : store.Legible)
    (sound : ¬store.Spoils incoming) :
    ∃ outcome after, Merges incoming window store outcome after := by
  rcases legible.exists_known incoming.serverKey with ⟨_ | existing, isKnown⟩
  · have free := known_eq_none.mp isKnown
    rcases legible.exists_named incoming with ⟨_ | other, isNamed⟩
    · rcases legible.exists_echo incoming window with ⟨_ | other, isEcho⟩
      · have apart : ∀ row ∈ store.rows, ¬(Row.ofMessage incoming.acknowledged).Clashes row := by
          rintro row mem (sameId | ⟨-, sameServer⟩ | ⟨sameConversation, isSome, sameLocal⟩)
          · exact (free row mem).2 sameId.symm
          · exact (free row mem).1 sameServer.symm
          · refine named_eq_none.mp isNamed row mem ⟨sameConversation.symm, ?_, sameLocal.symm⟩
            rw [← sameLocal]
            exact isSome
        rcases exists_insert apart with ⟨after, inserts⟩
        exact ⟨_, after, .inserted isKnown isNamed isEcho inserts⟩
      · rcases exists_row_of_echo isEcho with ⟨-, row, mem, holds, -⟩
        have replaces : ∃ replaced after, store.replaceId other.id incoming.serverKey
            { incoming.adoption with localId := other.localId } = .ok (replaced, after) :=
          unique.exists_replaceId mem holds free rfl (by cases other.localId <;> rfl)
        rcases replaces with ⟨replaced, after, replaces⟩
        exact ⟨_, after, .echoed isKnown isNamed isEcho replaces⟩
    · rcases exists_row_of_named isNamed with ⟨row, mem, namedBy, holds⟩
      have sameLocal : incoming.adoption.localId.or other.localId = other.localId := by
        change incoming.localId.or other.localId = other.localId
        rw [holds.localId, ← namedBy.2.2]
        cases row.localId <;> rfl
      rcases unique.exists_replaceId mem holds free rfl sameLocal with ⟨replaced, after, replaces⟩
      exact ⟨_, after, .adopted isKnown isNamed replaces⟩
  · rcases exists_row_of_known isKnown with ⟨knownRow, knownMem, -, knownHolds⟩
    rcases legible.exists_named incoming with ⟨_ | other, isNamed⟩
    · exact ⟨_, store, .known isKnown (Or.inl isNamed)⟩
    · by_cases same : other.id = existing.id
      · exact ⟨_, store, .known isKnown (Or.inr ⟨other, isNamed, same⟩)⟩
      rcases exists_row_of_named isNamed with ⟨row, mem, namedBy, holds⟩
      rcases unique.exists_absorb mem holds knownMem knownHolds same with
        ⟨merged, middle, absorbs⟩
      have readsBack : existing.syncStatus ≠ incoming.settledStatus →
          TakesAlias other existing → existing.Storable := by
        intro unsettled takes
        by_contra notStorable
        exact sound ⟨existing, other, isKnown, isNamed, same, takes, unsettled, notStorable⟩
      rcases (exists_settles_iff unique knownMem knownHolds mem holds absorbs).mpr readsBack with
        ⟨after, settles⟩
      exact ⟨_, after, .absorbed isKnown isNamed same absorbs settles⟩

/-- Merging a record never ends halfway in a readable store. -/
theorem Readable.not_spoils (readable : store.Readable) (incoming : Message) :
    ¬store.Spoils incoming := by
  rintro ⟨existing, other, isKnown, -, -, -, -, notStorable⟩
  rcases exists_row_of_known isKnown with ⟨row, mem, -, holds⟩
  exact notStorable (readable.storable mem holds)

theorem Merges.not_spoils (unique : store.UniqueKeys) {outcome : Outcome}
    (merges : Merges incoming window store outcome after) : ¬store.Spoils incoming := by
  rintro ⟨existing, other, isKnown, isNamed, different, takes, unsettled, notStorable⟩
  cases merges with
  | known isKnown' alone =>
      cases isKnown.symm.trans isKnown'
      rcases alone with unnamed | ⟨other', isNamed', same⟩
      · cases isNamed.symm.trans unnamed
      · cases isNamed.symm.trans isNamed'
        exact different same
  | @absorbed existing' other' merged middle _ isKnown' isNamed' _ absorbs settles =>
      cases isKnown.symm.trans isKnown'
      cases isNamed.symm.trans isNamed'
      rcases exists_row_of_known isKnown with ⟨knownRow, knownMem, -, knownHolds⟩
      rcases exists_row_of_named isNamed with ⟨namedRow, namedMem, -, namedHolds⟩
      have readsBack := (exists_settles_iff unique knownMem knownHolds namedMem namedHolds
        absorbs).mp ⟨_, settles⟩
      exact notStorable (readsBack unsettled takes)
  | adopted unknown => cases isKnown.symm.trans unknown
  | echoed unknown => cases isKnown.symm.trans unknown
  | inserted unknown => cases isKnown.symm.trans unknown

/-- Every record can be reconciled with a legible store with unique keys, with an outcome that is a
true report, unless that spoils a row. -/
theorem reconcile_reports (unique : store.UniqueKeys) (legible : store.Legible) :
    (∃ outcome after,
      (MessageLog.reconcile incoming window).runOn store = (.ok outcome, after) ∧
        Reports store outcome after) ↔
      ¬store.Spoils incoming := by
  constructor
  · rintro ⟨outcome, after, ran, -⟩
    exact (merges_of_reconcile ran).not_spoils unique
  · intro sound
    rcases exists_merges unique legible sound with ⟨outcome, after, merges⟩
    exact ⟨outcome, after, merges.reconcile_eq, merges.reports unique⟩

/-! ## A row that is spoiled -/

/-- A row of a record that the server has named, with a creation time as it is stored. -/
def syncedRow (createdAt : String) : Row :=
  { pendingRow createdAt with
    id := "m1"
    sequenceNumber := 1
    localId := none
    serverId := some "m1"
    syncStatus := "synced" }

/-- The record of that row, created at the time of the acknowledgement. -/
def syncedRecord : Message :=
  { acknowledgement with localId := none }

/-- The server's version that replaced the record written here. -/
def replacement : Message :=
  { acknowledgement with syncStatus := .conflict }

/-- The log with the row and the record that was written here. -/
def doubled (createdAt : String) : Store :=
  ⟨[syncedRow createdAt, pendingRow "2023-11-14T22:13:20+00:00"], schemaVersion⟩

theorem doubled_unique (createdAt : String) : (doubled createdAt).UniqueKeys := by
  simp [doubled, UniqueKeys, Row.Clashes, syncedRow, pendingRow]

theorem doubled_legible {createdAt : String}
    (readable : ∃ message, (syncedRow createdAt).Holds message) : (doubled createdAt).Legible := by
  intro row mem
  simp only [doubled, List.mem_cons, List.not_mem_nil, or_false] at mem
  rcases mem with rfl | rfl
  · exact readable
  · exact ⟨_, pendingRow_acknowledged⟩

theorem reconcile_reports_replacement :
    let store := doubled "2023-11-14T22:13:20+00:00"
    ¬store.Spoils replacement ∧ ∃ outcome after,
      (MessageLog.reconcile replacement .standard).runOn store = (.ok outcome, after) ∧
        Reports store outcome after := by
  intro store
  have syncedRead : (syncedRow "2023-11-14T22:13:20+00:00").toMessage = .ok syncedRecord :=
    except_eq_ok_of_toOption (by decide +kernel)
  have isKnown : store.known replacement.serverKey = .ok (some syncedRecord) :=
    except_eq_ok_of_toOption (by decide +kernel)
  have storable : syncedRecord.Storable := ⟨by decide +kernel, by decide +kernel⟩
  have sound : ¬store.Spoils replacement := by
    rintro ⟨existing, other, isKnown', -, -, -, -, notStorable⟩
    cases isKnown.symm.trans isKnown'
    exact notStorable storable
  have legible := doubled_legible ⟨_, Row.toMessage_eq_ok.mp syncedRead⟩
  exact ⟨sound, (reconcile_reports (doubled_unique _) legible).mpr sound⟩

/-- A row that was stored with an offset may be rewritten with a year that cannot be read. The sync
state is set after that, and the reconciliation fails. -/
theorem replacement_unreported :
    ¬∀ (store : Store) (incoming : Message) (window : MatchWindow),
      store.UniqueKeys → store.Legible → ∃ outcome after,
        (MessageLog.reconcile incoming window).runOn store = (.ok outcome, after) ∧
          Reports store outcome after := by
  intro reported
  have syncedRead : (syncedRow "0000-01-01T00:00:00+01:00").toMessage = .ok
      { syncedRecord with
        createdAt := ⟨-62167222800, 0, by decide, by decide, by decide, by decide⟩ } :=
    except_eq_ok_of_toOption (by decide +kernel)
  have legible := doubled_legible ⟨_, Row.toMessage_eq_ok.mp syncedRead⟩
  rcases reported _ replacement .standard (doubled_unique _) legible with ⟨outcome, after, ran, -⟩
  have failed : ((MessageLog.reconcile replacement .standard).runOn
      (doubled "0000-01-01T00:00:00+01:00")).1.toOption = none := by decide +kernel
  rw [ran] at failed
  cases failed

end Store

end MessageSync
