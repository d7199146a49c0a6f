import MessageSync.Proofs.Except
import MessageSync.Proofs.Time.StoredText
import MessageSync.Store.Row

/-!
# Rows and the records they hold

A row that was written for a record reads back as that record when its times have a year of four
digits, and does not read at all otherwise. The rest of a row, its keys above all, can be told
without reading it. Moving references from one id to another leaves every key alone.
-/

namespace MessageSync

theorem Role.ofName?_name (role : Role) : Role.ofName? role.name = some role := by
  cases role <;> decide +kernel

theorem Role.name_inj {first second : Role} : first.name = second.name ↔ first = second := by
  constructor
  · intro same
    have := congrArg Role.ofName? same
    simpa [Role.ofName?_name] using this
  · rintro rfl
    rfl

theorem SyncStatus.ofName?_name (status : SyncStatus) :
    SyncStatus.ofName? status.name = some status := by
  cases status <;> decide +kernel

theorem SyncStatus.name_inj {first second : SyncStatus} :
    first.name = second.name ↔ first = second := by
  constructor
  · intro same
    have := congrArg SyncStatus.ofName? same
    simpa [SyncStatus.ofName?_name] using this
  · rintro rfl
    rfl

/-- The times of the record have years of four digits, so that a row can hold them. -/
structure Message.Storable (message : Message) : Prop where
  created : 0 ≤ message.createdAt.year ∧ message.createdAt.year ≤ 9999
  updated : 0 ≤ message.updatedAt.year ∧ message.updatedAt.year ≤ 9999

/-- The id by which the row with an id is found once the old id gave way to the new one. -/
def heir (oldId newId id : String) : String :=
  if id = oldId then newId else id

namespace Row

/-! ## Reading a row -/

/-- What a row says of the record that it reads as. -/
structure Holds (row : Row) (message : Message) : Prop where
  id : message.id = row.id
  conversationId : message.conversationId = row.conversationId
  sequenceNumber : message.sequenceNumber = row.sequenceNumber
  role : Role.ofName? row.role = some message.role
  contents : message.contents = row.contents
  createdAt : Timestamp.readStrict row.createdAt = some message.createdAt
  updatedAt : Timestamp.readStrict row.updatedAt = some message.updatedAt
  localId : message.localId = row.localId
  serverId : message.serverId = row.serverId
  syncStatus : SyncStatus.ofName? row.syncStatus = some message.syncStatus
  previousId : message.previousId = row.previousId

theorem readColumn_eq_ok {α : Type} {value? : Option α} {cause : Unreadable} {value : α} :
    readColumn value? cause = .ok value ↔ value? = some value := by
  cases value? <;> simp [readColumn]

theorem toMessage_eq_ok {row : Row} {message : Message} :
    row.toMessage = .ok message ↔ row.Holds message := by
  simp only [toMessage, except_bind_eq_ok, readColumn_eq_ok, pure, Except.pure, Except.ok.injEq]
  constructor
  · rintro ⟨role, roleRead, createdAt, createdRead, updatedAt, updatedRead, syncStatus, statusRead,
      rfl⟩
    exact ⟨rfl, rfl, rfl, roleRead, rfl, createdRead, updatedRead, rfl, rfl, statusRead, rfl⟩
  · intro holds
    refine ⟨_, holds.role, _, holds.createdAt, _, holds.updatedAt, _, holds.syncStatus, ?_⟩
    rw [← holds.id, ← holds.conversationId, ← holds.sequenceNumber, ← holds.contents,
      ← holds.localId, ← holds.serverId, ← holds.previousId]

/-- A row written for a record reads back as nothing but that record, and only if its times can
be stored. -/
theorem toMessage_ofMessage {written read : Message} :
    (ofMessage written).toMessage = .ok read ↔ written.Storable ∧ read = written := by
  rw [toMessage_eq_ok]
  constructor
  · rintro ⟨id, conversationId, sequenceNumber, role, contents, createdAt, updatedAt, localId,
      serverId, syncStatus, previousId⟩
    simp only [ofMessage, Role.ofName?_name, SyncStatus.ofName?_name, Option.some.injEq,
      Timestamp.readStrict_storedText, Option.ite_none_right_eq_some] at *
    refine ⟨⟨createdAt.1, updatedAt.1⟩, ?_⟩
    cases read
    cases written
    simp_all
  · rintro ⟨⟨created, updated⟩, rfl⟩
    constructor <;>
      simp [ofMessage, Role.ofName?_name, SyncStatus.ofName?_name,
        Timestamp.readStrict_storedText, created, updated]

/-- A row written for a record that can be stored holds that record. -/
theorem holds_ofMessage {message : Message} (storable : message.Storable) :
    (ofMessage message).Holds message :=
  toMessage_eq_ok.mp (toMessage_ofMessage.mpr ⟨storable, rfl⟩)

/-! ## Moving references -/

variable (oldId newId : String) (row : Row)

@[simp]
theorem renamePrevious_id : (row.renamePrevious oldId newId).id = row.id := by
  simp only [renamePrevious]
  split <;> rfl

@[simp]
theorem renamePrevious_conversationId :
    (row.renamePrevious oldId newId).conversationId = row.conversationId := by
  simp only [renamePrevious]
  split <;> rfl

@[simp]
theorem renamePrevious_localId : (row.renamePrevious oldId newId).localId = row.localId := by
  simp only [renamePrevious]
  split <;> rfl

@[simp]
theorem renamePrevious_serverId : (row.renamePrevious oldId newId).serverId = row.serverId := by
  simp only [renamePrevious]
  split <;> rfl

@[simp]
theorem renamePrevious_syncStatus :
    (row.renamePrevious oldId newId).syncStatus = row.syncStatus := by
  simp only [renamePrevious]
  split <;> rfl

/-- A reference does not decide whether a row can be read. -/
theorem renamePrevious_holds {message : Message} (holds : row.Holds message) :
    (row.renamePrevious oldId newId).Holds
      { message with previousId := (row.renamePrevious oldId newId).previousId } := by
  simp only [renamePrevious]
  split <;> exact { holds with previousId := rfl }

theorem renamePrevious_previousId :
    (row.renamePrevious oldId newId).previousId = row.previousId.map (heir oldId newId) := by
  simp only [renamePrevious]
  split
  · next same => simp [same, heir]
  · next other =>
      cases reference : row.previousId with
      | none => rfl
      | some id =>
          have different : id ≠ oldId := by
            rintro rfl
            exact other reference
          simp [heir, different]

/-- Moving the references of a row that was written for a record is moving those of the record. -/
theorem renamePrevious_ofMessage (message : Message) :
    (ofMessage message).renamePrevious oldId newId =
      ofMessage { message with previousId := message.previousId.map (heir oldId newId) } := by
  have reference := renamePrevious_previousId oldId newId (ofMessage message)
  revert reference
  simp only [renamePrevious]
  split
  · intro reference
    simp only [ofMessage, Message.fingerprint] at *
    rw [reference]
  · intro reference
    simp only [ofMessage, Message.fingerprint] at *
    rw [← reference]

variable {oldId newId row}

theorem renamePrevious_previousId_ne (different : oldId ≠ newId) :
    (row.renamePrevious oldId newId).previousId ≠ some oldId := by
  rw [renamePrevious_previousId]
  intro same
  rcases Option.map_eq_some_iff.mp same with ⟨id, -, follows⟩
  rw [heir] at follows
  split at follows
  · exact different follows.symm
  · next elsewhere => exact elsewhere follows

/-! ## Sharing a key -/

variable {first second : Row}

theorem Clashes.symm (clashes : first.Clashes second) : second.Clashes first := by
  rcases clashes with sameId | ⟨isSome, sameServer⟩ | ⟨sameConversation, isSome, sameLocal⟩
  · exact Or.inl sameId.symm
  · exact Or.inr (Or.inl ⟨sameServer ▸ isSome, sameServer.symm⟩)
  · exact Or.inr (Or.inr ⟨sameConversation.symm, sameLocal ▸ isSome, sameLocal.symm⟩)

@[simp]
theorem renamePrevious_clashes :
    (first.renamePrevious oldId newId).Clashes (second.renamePrevious oldId newId) ↔
      first.Clashes second := by
  simp [Clashes]

end Row

end MessageSync
