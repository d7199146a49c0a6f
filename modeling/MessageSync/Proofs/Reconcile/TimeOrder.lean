import MessageSync.Proofs.Reconcile.Calls
import MessageSync.Proofs.Reconcile.ReadBack
import MessageSync.Proofs.Text.ByteOrder

/-!
# Listings in the order of time

Rows are put in order by the texts of their creation times. Where these are spelled as this library
spells them, which they are whatever calls wrote them, the records that are listed are in the order
of time: a conversation after the sequence numbers, pending records outright. A database that was
written by someone else may hold the same times with other offsets, and then is listed in another
order; it may also hold a status in capitals, which reads as pending but is not listed as such.
-/

namespace MessageSync

namespace Message

/-- The first record was created earlier, or at the same time with an id that comes first byte by
byte. -/
def CreatedInOrder (first second : Message) : Prop :=
  first.createdAt.Before second.createdAt ∨
    first.createdAt = second.createdAt ∧ Utf8.encode first.id ≤ Utf8.encode second.id

instance (first second : Message) : Decidable (first.CreatedInOrder second) :=
  inferInstanceAs (Decidable (_ ∨ _))

/-- Records that the server has numbered come before the others, and in both parts the numbers
decide, then the times, then the ids. -/
def InConversationOrder (first second : Message) : Prop :=
  0 ≤ first.sequenceNumber ∧ second.sequenceNumber < 0 ∨
    (0 ≤ first.sequenceNumber ↔ 0 ≤ second.sequenceNumber) ∧
      (first.sequenceNumber < second.sequenceNumber ∨
        first.sequenceNumber = second.sequenceNumber ∧ first.CreatedInOrder second)

instance (first second : Message) : Decidable (first.InConversationOrder second) :=
  inferInstanceAs (Decidable (_ ∨ _))

end Message

namespace Row

variable {row first second third : Row}

/-! ## The order of a conversation -/

theorem inConversationOrder_iff :
    first.inConversationOrder second = true ↔
      0 ≤ first.sequenceNumber ∧ second.sequenceNumber < 0 ∨
        (0 ≤ first.sequenceNumber ↔ 0 ≤ second.sequenceNumber) ∧
          (first.sequenceNumber < second.sequenceNumber ∨
            first.sequenceNumber = second.sequenceNumber ∧
              first.inCreationOrder second = true) := by
  change (if _ then decide _ else if _ then _ else first.inCreationOrder second) = true ↔ _
  simp only [Int64.le_iff_toInt_le, Int64.lt_iff_toInt_lt, ← Int64.toInt_inj, ne_eq, bne_iff_ne,
    decide_eq_decide, Int64.toInt_zero]
  generalize first.sequenceNumber.toInt = one
  generalize second.sequenceNumber.toInt = other
  split
  · rw [decide_eq_true_eq]
    omega
  · split
    · rw [decide_eq_true_eq]
      omega
    · next same =>
        have same : one = other := not_not.mp same
        simp [same]

theorem inConversationOrder_trans (firstBefore : first.inConversationOrder second = true)
    (secondBefore : second.inConversationOrder third = true) :
    first.inConversationOrder third = true := by
  have creation := @inCreationOrder_trans first second third
  rw [inConversationOrder_iff] at *
  simp only [Int64.le_iff_toInt_le, Int64.lt_iff_toInt_lt, ← Int64.toInt_inj, Int64.toInt_zero] at *
  grind

theorem inConversationOrder_total (first second : Row) :
    (first.inConversationOrder second || second.inConversationOrder first) = true := by
  have creation := inCreationOrder_total first second
  rw [Bool.or_eq_true] at *
  rw [inConversationOrder_iff, inConversationOrder_iff]
  simp only [Int64.le_iff_toInt_le, Int64.lt_iff_toInt_lt, ← Int64.toInt_inj, Int64.toInt_zero]
  grind

/-! ## Rows in the order of their records -/

/-- The creation time is spelled as this library spells it. -/
def PlainlyDated (row : Row) : Prop :=
  ∃ moment, row.createdAt = Timestamp.storedText moment

theorem Recorded.plainlyDated (recorded : row.Recorded) : row.PlainlyDated := by
  rcases recorded with ⟨message, rfl⟩
  exact ⟨message.createdAt, rfl⟩

theorem Recorded.pending (recorded : row.Recorded) (reads : row.ReadsPending) : row.Pending := by
  rcases recorded with ⟨message, rfl⟩
  rw [readsPending_ofMessage] at reads
  exact pending_ofMessage.mpr reads

variable {message firstMessage secondMessage : Message}

theorem PlainlyDated.createdAt_eq (dated : row.PlainlyDated) (holds : row.Holds message) :
    row.createdAt = Timestamp.storedText message.createdAt ∧
      0 ≤ message.createdAt.year ∧ message.createdAt.year ≤ 9999 := by
  rcases dated with ⟨moment, spelled⟩
  have read := holds.createdAt
  rw [spelled, Timestamp.readStrict_storedText, Option.ite_none_right_eq_some] at read
  rcases read with ⟨years, same⟩
  cases same
  exact ⟨spelled, years⟩

theorem createdInOrder_of_inCreationOrder (order : first.inCreationOrder second = true)
    (firstDated : first.PlainlyDated) (secondDated : second.PlainlyDated)
    (firstHolds : first.Holds firstMessage) (secondHolds : second.Holds secondMessage) :
    firstMessage.CreatedInOrder secondMessage := by
  rcases firstDated.createdAt_eq firstHolds with ⟨firstSpelled, firstYear⟩
  rcases secondDated.createdAt_eq secondHolds with ⟨secondSpelled, secondYear⟩
  rw [inCreationOrder_iff, firstSpelled, secondSpelled] at order
  rw [Timestamp.storedText_lt_iff firstYear secondYear,
    Timestamp.storedText_inj firstYear secondYear] at order
  apply order.imp_right
  rintro ⟨same, ids⟩
  refine ⟨same, ?_⟩
  rw [firstHolds.id, secondHolds.id]
  exact Utf8.encode_le_encode ids

theorem inConversationOrder_of_rows (order : first.inConversationOrder second = true)
    (firstDated : first.PlainlyDated) (secondDated : second.PlainlyDated)
    (firstHolds : first.Holds firstMessage) (secondHolds : second.Holds secondMessage) :
    firstMessage.InConversationOrder secondMessage := by
  rw [inConversationOrder_iff, ← firstHolds.sequenceNumber, ← secondHolds.sequenceNumber] at order
  apply order.imp_right
  rintro ⟨sameGroup, numbers⟩
  refine ⟨sameGroup, numbers.imp_right ?_⟩
  rintro ⟨same, creation⟩
  exact ⟨same, createdInOrder_of_inCreationOrder creation firstDated secondDated firstHolds
    secondHolds⟩

end Row

namespace Store

variable {store : Store} {conversationId : String} {messages : List Message} {rows : List Row}

/-! ## What is listed -/

/-- The records are those that the rows read as, and each row is there once. -/
def ReadsAs (rows : List Row) (messages : List Message) : Prop :=
  (messages.map Except.ok).Perm (rows.map Row.toMessage)

/-- Every row of the conversation is listed once, in the order of sequence numbers, times and
ids. -/
structure ListsConversation (store : Store) (conversationId : String) (messages : List Message) :
    Prop where
  once : ReadsAs (store.rows.filter fun row => row.conversationId = conversationId) messages
  ordered : messages.Pairwise Message.InConversationOrder

/-- Every row of the conversation that reads as pending is listed once, in the order of times and
ids. -/
structure ListsWaiting (store : Store) (conversationId : String) (messages : List Message) :
    Prop where
  once : ReadsAs (store.rows.filter fun row =>
    row.conversationId = conversationId ∧ row.ReadsPending) messages
  ordered : messages.Pairwise Message.CreatedInOrder

/-- The creation times of the conversation are spelled as this library spells them. -/
def PlainlyDated (store : Store) (conversationId : String) : Prop :=
  ∀ row ∈ store.rows, row.conversationId = conversationId → row.PlainlyDated

/-- What reads as pending in the conversation is spelled as this library spells it. -/
def PlainlyMarked (store : Store) (conversationId : String) : Prop :=
  ∀ row ∈ store.rows, row.conversationId = conversationId → row.ReadsPending → row.Pending

theorem readsAs_of_mapM {read : List Row} (allRead : read.mapM Row.toMessage = .ok messages)
    (same : read.Perm rows) : ReadsAs rows messages := by
  rw [ReadsAs, map_ok_of_mapM_eq_ok allRead]
  exact same.map Row.toMessage

theorem exists_rows_of_findByConversation
    (listed : store.findByConversation conversationId = .ok messages) :
    ∃ rows : List Row, rows.mapM Row.toMessage = .ok messages ∧
      rows.Pairwise (fun first second => first.inConversationOrder second = true) ∧
      rows.Perm (store.rows.filter fun row => row.conversationId = conversationId) :=
  ⟨_, listed,
    List.pairwise_mergeSort
      (fun first second third => @Row.inConversationOrder_trans first second third)
      Row.inConversationOrder_total _,
    List.mergeSort_perm _ _⟩

theorem findByConversation_of_sorted
    (inside : (store.rows.filter fun row => row.conversationId == conversationId) = rows)
    (sorted : rows.Pairwise fun first second => first.inConversationOrder second = true) :
    store.findByConversation conversationId = rows.mapM Row.toMessage := by
  rw [findByConversation, inside, List.mergeSort_of_pairwise sorted]

theorem pending_of_sorted
    (waiting : (store.rows.filter fun row =>
      row.conversationId == conversationId && row.syncStatus == SyncStatus.pending.name) = rows)
    (sorted : rows.Pairwise fun first second => first.inCreationOrder second = true) :
    store.pending conversationId = rows.mapM Row.toMessage := by
  rw [pending, waiting, List.mergeSort_of_pairwise sorted]

theorem PlainlyDated.listsConversation (dated : store.PlainlyDated conversationId)
    (listed : store.findByConversation conversationId = .ok messages) :
    store.ListsConversation conversationId messages := by
  rcases exists_rows_of_findByConversation listed with ⟨rows, allRead, sorted, same⟩
  have datedRow : ∀ row ∈ rows, row.PlainlyDated := by
    intro row mem
    have stored := same.mem_iff.mp mem
    rw [List.mem_filter, decide_eq_true_eq] at stored
    exact dated row stored.1 stored.2
  refine ⟨readsAs_of_mapM allRead same, pairwise_of_mapM_eq_ok allRead ?_⟩
  apply List.Pairwise.imp_of_mem _ sorted
  intro first second firstMem secondMem order value other firstRead secondRead
  exact Row.inConversationOrder_of_rows order (datedRow first firstMem) (datedRow second secondMem)
    (Row.toMessage_eq_ok.mp firstRead) (Row.toMessage_eq_ok.mp secondRead)

theorem PlainlyDated.listsWaiting (dated : store.PlainlyDated conversationId)
    (marked : store.PlainlyMarked conversationId)
    (listed : store.pending conversationId = .ok messages) :
    store.ListsWaiting conversationId messages := by
  rcases exists_rows_of_pending listed with ⟨rows, allRead, sorted, same⟩
  have datedRow : ∀ row ∈ rows, row.PlainlyDated := by
    intro row mem
    rcases mem_filter_pending.mp (same.mem_iff.mp mem) with ⟨stored, inside, -⟩
    exact dated row stored inside
  have waiting : (store.rows.filter fun row =>
        row.conversationId == conversationId && row.syncStatus == SyncStatus.pending.name) =
      store.rows.filter fun row => row.conversationId = conversationId ∧ row.ReadsPending := by
    apply List.filter_congr
    intro row mem
    rw [Bool.eq_iff_iff]
    simp only [Bool.and_eq_true, beq_iff_eq, decide_eq_true_eq]
    apply and_congr_right
    intro inside
    exact ⟨Row.Pending.reads, marked row mem inside⟩
  rw [waiting] at same
  refine ⟨readsAs_of_mapM allRead same, pairwise_of_mapM_eq_ok allRead ?_⟩
  apply List.Pairwise.imp_of_mem _ sorted
  intro first second firstMem secondMem order value other firstRead secondRead
  exact Row.createdInOrder_of_inCreationOrder order (datedRow first firstMem)
    (datedRow second secondMem) (Row.toMessage_eq_ok.mp firstRead)
    (Row.toMessage_eq_ok.mp secondRead)

theorem Orderly.plainlyDated (orderly : store.Orderly) (conversationId : String) :
    store.PlainlyDated conversationId :=
  fun row mem _ => (orderly.recorded row mem).plainlyDated

theorem Orderly.plainlyMarked (orderly : store.Orderly) (conversationId : String) :
    store.PlainlyMarked conversationId :=
  fun row mem _ => (orderly.recorded row mem).pending

/-- Calls spell times and statuses plainly. Where the times of a conversation are spelled so, it is
listed in the order of time, and so are its pending records if they are spelled so too. -/
theorem listings_chronological :
    (∀ (calls : List Call) (conversationId : String),
      (calls.foldl afterCall empty).PlainlyDated conversationId ∧
        (calls.foldl afterCall empty).PlainlyMarked conversationId) ∧
    ∀ (store : Store) (conversationId : String), store.PlainlyDated conversationId →
      (∀ messages, store.findByConversation conversationId = .ok messages →
        store.ListsConversation conversationId messages) ∧
      (store.PlainlyMarked conversationId → ∀ messages,
        store.pending conversationId = .ok messages →
          store.ListsWaiting conversationId messages) := by
  constructor
  · intro calls conversationId
    have orderly := orderly_empty.afterCalls calls
    exact ⟨orderly.plainlyDated conversationId, orderly.plainlyMarked conversationId⟩
  · intro store conversationId dated
    constructor
    · intro messages listed
      exact dated.listsConversation listed
    · intro marked messages listed
      exact dated.listsWaiting marked listed

def unsentAt (id : String) (createdAt : Moment) : Message :=
  { dated id (-1) createdAt with syncStatus := .pending }

/-- Three records around the leap second at the end of 2016. -/
def aroundLeapSecond : List Call :=
  [.insert (unsentAt "l3" ((Moment.of? 1483228799 999000000).getD default)),
    .insert (unsentAt "l2" ((Moment.of? 1483228799 1500000000).getD default)),
    .insert (unsentAt "l1" ((Moment.of? 1483228800 0).getD default))]

theorem listings_chronological_leapSecond :
    let store := aroundLeapSecond.foldl afterCall empty
    ∃ messages, messages.map Message.id = ["l3", "l2", "l1"] ∧
      store.findByConversation "c1" = .ok messages ∧ store.ListsConversation "c1" messages ∧
      store.pending "c1" = .ok messages ∧ store.ListsWaiting "c1" messages := by
  intro store
  rcases listings_chronological with ⟨plain, chronological⟩
  rcases plain aroundLeapSecond "c1" with ⟨dated, marked⟩
  rcases chronological store "c1" dated with ⟨conversation, waiting⟩
  have readable : (store.rows.mapM Row.toMessage).toOption.map (List.map Message.id) =
      some ["l3", "l2", "l1"] := by decide +kernel
  rcases exists_of_toOption_map readable with ⟨messages, allRead, ids⟩
  have listed : store.findByConversation "c1" = .ok messages := by
    rw [← allRead]
    exact findByConversation_of_sorted (by decide +kernel) (by decide +kernel)
  have listedWaiting : store.pending "c1" = .ok messages := by
    rw [← allRead]
    exact pending_of_sorted (by decide +kernel) (by decide +kernel)
  exact ⟨messages, ids, listed, conversation messages listed, listedWaiting,
    waiting marked messages listedWaiting⟩

/-- The first row has its status in capitals, and the last has the earlier time of the other two,
in another zone. -/
def spelledElsewhere : Store :=
  { empty with rows := [
    { Row.ofMessage (unsentAt "l1" default) with syncStatus := "PENDING" },
    Row.ofMessage (unsentAt "l2" ((Moment.of? 1700000000 0).getD default)),
    { Row.ofMessage (unsentAt "l3" default) with createdAt := "2023-11-14T23:00:00+01:00" }] }

theorem listings_not_chronological :
    ∃ messages waiting, spelledElsewhere.findByConversation "c1" = .ok messages ∧
      ¬messages.Pairwise Message.InConversationOrder ∧
      spelledElsewhere.pending "c1" = .ok waiting ∧
      ¬waiting.Pairwise Message.CreatedInOrder ∧
      ¬ReadsAs (spelledElsewhere.rows.filter fun row =>
        row.conversationId = "c1" ∧ row.ReadsPending) waiting := by
  have readable : (spelledElsewhere.rows.mapM Row.toMessage).toOption.map (fun messages =>
      decide (messages.Pairwise Message.InConversationOrder)) = some false := by decide +kernel
  have readableWaiting : (spelledElsewhere.rows.tail.mapM Row.toMessage).toOption.map (fun waiting =>
      (decide (waiting.Pairwise Message.CreatedInOrder), waiting.length)) =
        some (false, 2) := by decide +kernel
  rcases exists_of_toOption_map readable with ⟨messages, allRead, unordered⟩
  rcases exists_of_toOption_map readableWaiting with ⟨waiting, waitingRead, same⟩
  rw [Prod.mk.injEq] at same
  refine ⟨messages, waiting, ?_, of_decide_eq_false unordered, ?_, of_decide_eq_false same.1, ?_⟩
  · rw [← allRead]
    exact findByConversation_of_sorted (by decide +kernel) (by decide +kernel)
  · rw [← waitingRead]
    exact pending_of_sorted (by decide +kernel) (by decide +kernel)
  · intro once
    have three : (spelledElsewhere.rows.filter fun row =>
        row.conversationId = "c1" ∧ row.ReadsPending).length = 3 := by decide +kernel
    have lengths := once.length_eq
    rw [List.length_map, List.length_map, same.2, three] at lengths
    cases lengths

end Store

end MessageSync
