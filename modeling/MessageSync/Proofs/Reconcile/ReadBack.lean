import MessageSync.Proofs.Reconcile.Cases

/-!
# Reading what was stored

A new row reads as the record that it was written for, and its conversation can still be listed, if
the years of its times have four digits. Any other time is written in a form that is not read: then
neither the record nor its conversation can be read any more.
-/

namespace MessageSync

namespace Store

/-- A new row was written for a record: the record was inserted, or the server's version of it was
reconciled and nothing was stored that it could be merged with. -/
inductive Adds (store : Store) : Message → Store → Prop where
  | inserted {message : Message} {after : Store} (inserts : store.insert message = .ok after) :
      Adds store message after
  | reconciled {incoming : Message} {window : MatchWindow} {id : String} {after : Store}
      (ran : (MessageLog.reconcile incoming window).runOn store = (.ok (.inserted id), after)) :
      Adds store incoming.acknowledged after

variable {store after : Store} {written : Message} {messages : List Message}
  {conversationId : String} {row : Row}

theorem Adds.inserts (adds : store.Adds written after) : store.insert written = .ok after := by
  cases adds with
  | inserted inserts => exact inserts
  | reconciled ran =>
      cases merges_of_reconcile ran with
      | inserted unknown unnamed noEcho inserts => exact inserts

/-! ## Listing a conversation -/

theorem mem_listing : (row ∈ (store.rows.filter fun row =>
      row.conversationId == conversationId).mergeSort Row.inConversationOrder) ↔
    row ∈ store.rows ∧ row.conversationId = conversationId := by
  simp only [List.mem_mergeSort, List.mem_filter, beq_iff_eq]

/-- The rows of a conversation that can be listed can be read, and are listed. -/
theorem exists_mem_of_findByConversation
    (listed : store.findByConversation conversationId = .ok messages) (mem : row ∈ store.rows)
    (same : row.conversationId = conversationId) :
    ∃ message ∈ messages, row.toMessage = .ok message :=
  exists_mem_of_mapM_eq_ok listed (mem_listing.mpr ⟨mem, same⟩)

/-- A conversation can be listed if all of its rows can be read. -/
theorem exists_findByConversation (readable : ∀ row ∈ store.rows,
      row.conversationId = conversationId → ∃ message, row.toMessage = .ok message) :
    ∃ messages, store.findByConversation conversationId = .ok messages := by
  refine exists_mapM_eq_ok fun row mem => ?_
  rcases mem_listing.mp mem with ⟨stored, same⟩
  exact readable row stored same

/-! ## New rows -/

theorem findById_of_insert (inserts : store.insert written = .ok after) :
    after.findById written.id = (Row.ofMessage written).toMessage.map some := by
  rcases insert_eq_ok.mp inserts with ⟨free, rfl⟩
  -- No other row has the id, so the look-up goes on to the last row, which is the new one.
  have others : store.rows.find? (fun row => row.id == written.id) = none := by
    rw [List.find?_eq_none]
    intro other mem same
    exact free other mem (Or.inl (eq_of_beq same).symm)
  have found : (store.rows ++ [Row.ofMessage written]).find? (fun row => row.id == written.id) =
      some (Row.ofMessage written) := by
    rw [List.find?_append, others, Option.none_or, List.find?_singleton]
    exact if_pos (beq_self_eq_true written.id)
  simp only [findById, find?, found]

theorem mem_of_insert (inserts : store.insert written = .ok after) :
    Row.ofMessage written ∈ after.rows := by
  rcases insert_eq_ok.mp inserts with ⟨-, rfl⟩
  simp

/-- If the new row can be read, its conversation can be listed as before. -/
theorem listed_of_insert (inserts : store.insert written = .ok after)
    (listed : store.findByConversation written.conversationId = .ok messages)
    (read : (Row.ofMessage written).toMessage = .ok written) :
    ∃ later, after.findByConversation written.conversationId = .ok later ∧ written ∈ later := by
  have readable : ∀ row ∈ after.rows, row.conversationId = written.conversationId →
      ∃ message, row.toMessage = .ok message := by
    rcases insert_eq_ok.mp inserts with ⟨-, rfl⟩
    intro row mem same
    rcases List.mem_append.mp mem with old | new
    · rcases exists_mem_of_findByConversation listed old same with ⟨message, -, oldRead⟩
      exact ⟨message, oldRead⟩
    · rw [List.mem_singleton.mp new]
      exact ⟨written, read⟩
  rcases exists_findByConversation readable with ⟨later, listedLater⟩
  rcases exists_mem_of_findByConversation listedLater (mem_of_insert inserts) rfl with
    ⟨message, among, again⟩
  cases again.symm.trans read
  exact ⟨later, listedLater, among⟩

/-- A new row is read back as it was written, and listed with its conversation, if its times have
years of four digits. Otherwise neither it nor its conversation can be read. -/
theorem readsBack_of_adds (adds : store.Adds written after)
    (listed : store.findByConversation written.conversationId = .ok messages) :
    (written.Storable → after.findById written.id = .ok (some written) ∧
      ∃ later, after.findByConversation written.conversationId = .ok later ∧ written ∈ later) ∧
    (¬written.Storable → (∃ error, after.findById written.id = .error error) ∧
      ∃ error, after.findByConversation written.conversationId = .error error) := by
  have byId := findById_of_insert adds.inserts
  constructor
  · intro storable
    have read : (Row.ofMessage written).toMessage = .ok written :=
      Row.toMessage_ofMessage.mpr ⟨storable, rfl⟩
    rw [read] at byId
    exact ⟨byId, listed_of_insert adds.inserts listed read⟩
  · intro outside
    have unreadable (message : Message) : (Row.ofMessage written).toMessage ≠ .ok message :=
      fun read => outside (Row.toMessage_ofMessage.mp read).1
    constructor
    · cases read : (Row.ofMessage written).toMessage with
      | error error => exact ⟨error, by rw [byId, read]; rfl⟩
      | ok message => exact absurd read (unreadable message)
    · cases listedLater : after.findByConversation written.conversationId with
      | error error => exact ⟨error, rfl⟩
      | ok later =>
          rcases exists_mem_of_findByConversation listedLater (mem_of_insert adds.inserts) rfl with
            ⟨message, -, read⟩
          exact absurd read (unreadable message)

def dated (id : String) (sequenceNumber : Int64) (createdAt : Moment) : Message :=
  .canonical id "c1" sequenceNumber .user "Hi" createdAt

def oneDated : Store :=
  ⟨[Row.ofMessage (dated "m1" 1 default)], schemaVersion⟩

theorem findByConversation_oneDated :
    oneDated.findByConversation "c1" = .ok [dated "m1" 1 default] :=
  except_eq_ok_of_toOption (by decide +kernel)

theorem readsBack_of_adds_leapSecond :
    let written := dated "m2" 2 ⟨1483228799, 1500000000, by decide, by decide, by decide, by decide⟩
    ∃ after, (MessageLog.reconcile written .standard).runOn oneDated = (.ok (.inserted "m2"), after) ∧
      after.findById "m2" = .ok (some written) ∧
        ∃ later, after.findByConversation "c1" = .ok later ∧ written ∈ later := by
  intro written
  have ran : (MessageLog.reconcile written .standard).runOn oneDated =
      (.ok (.inserted "m2"), ((MessageLog.reconcile written .standard).runOn oneDated).2) :=
    Prod.ext (except_eq_ok_of_toOption (by decide +kernel)) rfl
  have storable : written.acknowledged.Storable := ⟨by decide +kernel, by decide +kernel⟩
  exact ⟨_, ran, (readsBack_of_adds (.reconciled ran) findByConversation_oneDated).1 storable⟩

/-- A time of the year 10000 can come in a message, and is stored, but not read. -/
theorem not_readsBack_of_fiveDigits :
    ¬∀ (store after : Store) (written : Message) (messages : List Message) (text : String),
      Timestamp.readLenient text = some written.createdAt →
      written.updatedAt = written.createdAt →
      store.findByConversation written.conversationId = .ok messages →
      store.Adds written after →
      after.findById written.id = .ok (some written) ∧
        ∃ later, after.findByConversation written.conversationId = .ok later ∧ written ∈ later := by
  intro readsBack
  let far : Moment := ⟨253402300800, 0, by decide, by decide, by decide, by decide⟩
  let written := dated "m2" 2 far
  let after : Store :=
    { oneDated with rows := oneDated.rows ++ [Row.ofMessage written] }
  have accepted : Timestamp.readLenient "+10000-01-01T00:00:00Z" = some far := by decide +kernel
  have inserts : oneDated.insert written = .ok after :=
    insert_eq_ok.mpr ⟨by decide +kernel, rfl⟩
  have byId := (readsBack oneDated after written _ _ accepted rfl findByConversation_oneDated
    (.inserted inserts)).1
  have unreadable : (after.findById "m2").toOption = none := by decide +kernel
  change after.findById "m2" = _ at byId
  rw [byId] at unreadable
  cases unreadable

end Store

end MessageSync
