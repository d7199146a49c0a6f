import MessageSync.Proofs.Reconcile.Settlement
import MessageSync.Proofs.Store.Success

/-!
# Pending records in their order

The pending records of a conversation are listed by the text of their creation time, then by id. An
echo is matched with the first of them that has its role and contents and was written at nearly the
same time, and this is said here of the rows alone, without sorting them.
-/

namespace MessageSync

namespace Row

variable {first second third : Row}

theorem inCreationOrder_iff :
    first.inCreationOrder second = true ↔
      first.createdAt < second.createdAt ∨
        first.createdAt = second.createdAt ∧ first.id ≤ second.id := by
  simp only [inCreationOrder]
  by_cases same : first.createdAt = second.createdAt
  · simp [same]
  · simp [same]

theorem inCreationOrder_trans (firstBefore : first.inCreationOrder second = true)
    (secondBefore : second.inCreationOrder third = true) : first.inCreationOrder third = true := by
  rw [inCreationOrder_iff] at *
  rcases firstBefore with earlier | ⟨same, ids⟩
  · rcases secondBefore with later | ⟨same, -⟩
    · exact Or.inl (String.lt_trans earlier later)
    · exact Or.inl (same ▸ earlier)
  · rcases secondBefore with later | ⟨sameAgain, moreIds⟩
    · exact Or.inl (same ▸ later)
    · exact Or.inr ⟨same.trans sameAgain, String.le_trans ids moreIds⟩

theorem inCreationOrder_total (first second : Row) :
    (first.inCreationOrder second || second.inCreationOrder first) = true := by
  rw [Bool.or_eq_true, inCreationOrder_iff, inCreationOrder_iff]
  by_cases earlier : first.createdAt < second.createdAt
  · exact Or.inl (Or.inl earlier)
  by_cases later : second.createdAt < first.createdAt
  · exact Or.inr (Or.inl later)
  have same : first.createdAt = second.createdAt :=
    String.le_antisymm (String.not_lt.mp later) (String.not_lt.mp earlier)
  rcases String.le_total first.id second.id with ids | ids
  · exact Or.inl (Or.inr ⟨same, ids⟩)
  · exact Or.inr (Or.inr ⟨same.symm, ids⟩)

theorem id_eq_of_inCreationOrder (before : first.inCreationOrder second = true)
    (after : second.inCreationOrder first = true) : first.id = second.id := by
  rw [inCreationOrder_iff] at *
  rcases before with earlier | ⟨same, ids⟩
  · rcases after with later | ⟨same, -⟩
    · exact absurd (String.lt_trans earlier later) (String.lt_irrefl _)
    · exact absurd (same ▸ earlier) (String.lt_irrefl _)
  · rcases after with later | ⟨-, moreIds⟩
    · exact absurd (same ▸ later) (String.lt_irrefl _)
    · exact String.le_antisymm ids moreIds

/-- The row is a pending one of the conversation. -/
def PendingIn (row : Row) (conversationId : String) : Prop :=
  row.conversationId = conversationId ∧ row.Pending

/-- The row is pending, and its record has the contents of the incoming one and nearly its time. -/
def Echoes (row : Row) (incoming : Message) (window : MatchWindow) : Prop :=
  row.PendingIn incoming.conversationId ∧ ∃ message, row.Holds message ∧
    message.role = incoming.role ∧ message.contents = incoming.contents ∧
    window.admits message.createdAt incoming.createdAt = true

end Row

namespace Store

variable {store : Store} {conversationId : String} {messages : List Message}

/-- The listed records are those of the pending rows of the conversation, in their order. -/
theorem exists_rows_of_pending (listed : store.pending conversationId = .ok messages) :
    ∃ rows : List Row, rows.mapM Row.toMessage = .ok messages ∧
      rows.Pairwise (fun first second => first.inCreationOrder second = true) ∧
      rows.Perm (store.rows.filter fun row =>
        row.conversationId == conversationId && row.syncStatus == SyncStatus.pending.name) :=
  ⟨_, listed,
    List.pairwise_mergeSort (fun first second third => @Row.inCreationOrder_trans first second third)
      Row.inCreationOrder_total _,
    List.mergeSort_perm _ _⟩

theorem mem_filter_pending {row : Row} :
    (row ∈ store.rows.filter fun row =>
      row.conversationId == conversationId && row.syncStatus == SyncStatus.pending.name) ↔
        row ∈ store.rows ∧ row.PendingIn conversationId := by
  simp [Row.PendingIn, Row.Pending]

/-- Of the pending rows that an incoming record may echo, the row is the first. -/
structure FirstEcho (store : Store) (incoming : Message) (window : MatchWindow) (row : Row) :
    Prop where
  mem : row ∈ store.rows
  echoes : row.Echoes incoming window
  first : ∀ other ∈ store.rows, other.Echoes incoming window → row.inCreationOrder other = true

variable {incoming : Message} {window : MatchWindow} {row : Row}

/-- An echo of a user's message is matched with the first pending record that it may echo. -/
theorem FirstEcho.echo_eq (firstEcho : store.FirstEcho incoming window row)
    (unique : store.UniqueKeys) (legible : store.Legible) (fromUser : incoming.role = .user)
    {message : Message} (holds : row.Holds message) :
    store.echo incoming window = .ok (some message) := by
  rcases legible.exists_pending incoming.conversationId with ⟨candidates, listed⟩
  rcases exists_rows_of_pending listed with ⟨rows, allRead, sorted, same⟩
  have memRows : ∀ other, other ∈ rows ↔
      other ∈ store.rows ∧ other.PendingIn incoming.conversationId := by
    intro other
    rw [same.mem_iff, mem_filter_pending]
  rcases firstEcho with ⟨mem, ⟨pending, held, heldHolds, role, contents, near⟩, first⟩
  have heldEq : held = message := by
    have read := Row.toMessage_eq_ok.mpr heldHolds
    rw [Row.toMessage_eq_ok.mpr holds] at read
    cases read
    rfl
  subst held
  simp only [echo, fromUser, ne_eq, not_true_eq_false, if_false]
  rw [listed]
  refine congrArg Except.ok (find?_of_mapM_eq_ok allRead ((memRows row).mpr ⟨mem, pending⟩)
    (Row.toMessage_eq_ok.mpr holds) (by simp [role, contents, near, fromUser]) ?_)
  -- An accepted row that is listed before the first one is the first one.
  apply List.Pairwise.imp_of_mem _ sorted
  rintro earlier later earlierMem - before rfl other otherRead accepted
  simp only [Bool.and_eq_true, beq_iff_eq] at accepted
  rcases (memRows earlier).mp earlierMem with ⟨earlierStored, earlierPending⟩
  have echoes : earlier.Echoes incoming window :=
    ⟨earlierPending, other, Row.toMessage_eq_ok.mp otherRead, accepted.1.1.trans fromUser.symm,
      accepted.1.2, accepted.2⟩
  exact unique.eq_of_id earlierStored mem
    (Row.id_eq_of_inCreationOrder before (first earlier earlierStored echoes))

end Store

end MessageSync
