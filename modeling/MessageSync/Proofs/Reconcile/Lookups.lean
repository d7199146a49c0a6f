import MessageSync.Proofs.Store.Operations
import MessageSync.Store.Reconcile

/-!
# What a reconciliation looks up

A computation on the log is followed by its steps: a question leaves the log alone, a change that
fails does too, and what comes after a failure is not done. The three questions that a
reconciliation asks of a store are given here as functions of the store, together with what an
answer says of its rows.
-/

namespace MessageSync

namespace LogM

variable {σ α β : Type} {log after : σ} {error : LogError}

/-- What a computation gives on a log, and the log that it leaves. -/
def runOn (computation : LogM σ α) (log : σ) : Except LogError α × σ :=
  computation log

theorem runOn_query {question : σ → Except LogError α} :
    (query question).runOn log = (question log, log) := rfl

theorem runOn_change {operation : σ → Except LogError (α × σ)} :
    (change operation).runOn log =
      match operation log with
      | .ok (result, after) => (.ok result, after)
      | .error error => (.error error, log) := rfl

theorem runOn_modify {operation : σ → Except LogError σ} :
    (modify operation).runOn log =
      match operation log with
      | .ok after => (.ok (), after)
      | .error error => (.error error, log) := by
  simp only [modify, runOn_change]
  cases operation log <;> rfl

theorem runOn_change_eq_ok {operation : σ → Except LogError (α × σ)} {result : α} :
    (change operation).runOn log = (.ok result, after) ↔ operation log = .ok (result, after) := by
  simp only [runOn, change]
  cases operation log with
  | ok done => simp [Prod.ext_iff]
  | error failed => simp

theorem runOn_change_eq_error {operation : σ → Except LogError (α × σ)} :
    (change operation).runOn log = (.error error, after) ↔
      operation log = .error error ∧ after = log := by
  simp only [runOn, change]
  cases operation log with
  | ok done => simp
  | error failed => simp [eq_comm]

theorem runOn_modify_eq_ok {operation : σ → Except LogError σ} {result : Unit} :
    (modify operation).runOn log = (.ok result, after) ↔ operation log = .ok after := by
  simp only [modify]
  rw [runOn_change_eq_ok]
  cases operation log <;> simp [Except.map]

theorem runOn_bind {first : LogM σ α} {next : α → LogM σ β} :
    (first >>= next).runOn log =
      match first.runOn log with
      | (.ok value, middle) => (next value).runOn middle
      | (.error error, middle) => (.error error, middle) := by
  change (ExceptT.bindCont next (first.runOn log).1) (first.runOn log).2 = _
  rcases first.runOn log with ⟨_ | _, middle⟩ <;> rfl

theorem runOn_bind_eq_ok {first : LogM σ α} {next : α → LogM σ β} {result : β} :
    (first >>= next).runOn log = (.ok result, after) ↔
      ∃ value middle, first.runOn log = (.ok value, middle) ∧
        (next value).runOn middle = (.ok result, after) := by
  rw [runOn_bind]
  rcases first.runOn log with ⟨_ | _, middle⟩ <;> simp [and_assoc]

theorem runOn_bind_eq_error {first : LogM σ α} {next : α → LogM σ β} :
    (first >>= next).runOn log = (.error error, after) ↔
      first.runOn log = (.error error, after) ∨
        ∃ value middle, first.runOn log = (.ok value, middle) ∧
          (next value).runOn middle = (.error error, after) := by
  rw [runOn_bind]
  rcases first.runOn log with ⟨_ | _, middle⟩ <;> simp [and_assoc]

end LogM

/-- The row stands for the record that an incoming one names by its local id. -/
def Row.NamedBy (row : Row) (incoming : Message) : Prop :=
  row.conversationId = incoming.conversationId ∧ row.localId.isSome ∧
    row.localId = incoming.localId

instance (row : Row) (incoming : Message) : Decidable (row.NamedBy incoming) :=
  inferInstanceAs (Decidable (_ ∧ _ ∧ _))

@[simp]
theorem Row.renamePrevious_namedBy {row : Row} {incoming : Message} {oldId newId : String} :
    (row.renamePrevious oldId newId).NamedBy incoming ↔ row.NamedBy incoming := by
  simp [NamedBy]

namespace Store

/-! ## What is looked up -/

variable {store after : Store} {incoming : Message} {window : MatchWindow}

/-- The record that already has a server id, as its server id or as its id. -/
def known (store : Store) (serverId : String) : Except LogError (Option Message) := do
  match ← store.findByServerId serverId with
  | some found => return some found
  | none => store.findById serverId

/-- The record that has the local id which an incoming record names. -/
def named (store : Store) (incoming : Message) : Except LogError (Option Message) :=
  match incoming.localId with
  | some localId => store.findByLocalId incoming.conversationId localId
  | none => .ok none

/-- The oldest pending record with the incoming record's role and contents within the window. -/
def echo (store : Store) (incoming : Message) (window : MatchWindow) :
    Except LogError (Option Message) := do
  if incoming.role ≠ .user then return none
  return (← store.pending incoming.conversationId).find? fun candidate =>
    candidate.role == incoming.role && candidate.contents == incoming.contents &&
      window.admits candidate.createdAt incoming.createdAt

theorem runOn_findKnown {serverId : String} :
    (MessageLog.findKnown serverId).runOn store = (store.known serverId, store) := by
  simp only [MessageLog.findKnown, known, LogM.runOn_bind, LogM.runOn_query,
    MessageLog.findByServerId]
  cases store.findByServerId serverId with
  | error error => rfl
  | ok found => cases found <;> rfl

theorem runOn_findNamed :
    (MessageLog.findNamed incoming).runOn store = (store.named incoming, store) := by
  simp only [MessageLog.findNamed, named]
  cases incoming.localId <;> rfl

theorem runOn_findEcho :
    (MessageLog.findEcho incoming window).runOn store = (store.echo incoming window, store) := by
  simp only [MessageLog.findEcho, echo]
  split
  · rfl
  · simp only [LogM.runOn_bind, LogM.runOn_query, MessageLog.pending]
    cases store.pending incoming.conversationId <;> rfl

theorem known_eq_some {serverId : String} {existing : Message} :
    store.known serverId = .ok (some existing) ↔
      store.findByServerId serverId = .ok (some existing) ∨
        store.findByServerId serverId = .ok none ∧
          store.findById serverId = .ok (some existing) := by
  simp only [known]
  rw [except_bind_eq_ok]
  constructor
  · rintro ⟨found, read, rest⟩
    cases found with
    | some found =>
        cases rest
        exact Or.inl read
    | none => exact Or.inr ⟨read, rest⟩
  · rintro (read | ⟨read, rest⟩)
    · exact ⟨_, read, rfl⟩
    · exact ⟨none, read, rest⟩

theorem known_eq_none {serverId : String} :
    store.known serverId = .ok none ↔
      ∀ row ∈ store.rows, row.serverId ≠ some serverId ∧ row.id ≠ serverId := by
  simp only [known, findByServerId, findById]
  rw [except_bind_eq_ok]
  constructor
  · rintro ⟨found, read, rest⟩ row mem
    cases found with
    | some found => cases rest
    | none =>
        have noServer := find?_eq_none.mp read row mem
        have noId := find?_eq_none.mp rest row mem
        exact ⟨by simpa using noServer, by simpa using noId⟩
  · intro free
    refine ⟨none, ?_, ?_⟩
    · rw [find?_eq_none]
      intro row mem
      simpa using (free row mem).1
    · simp only
      rw [find?_eq_none]
      intro row mem
      simpa using (free row mem).2

/-- The row has a server id, as its server id or, where no row has that, as its id. -/
def KnownAs (store : Store) (serverId : String) (row : Row) : Prop :=
  row.serverId = some serverId ∨
    row.id = serverId ∧ ∀ other ∈ store.rows, other.serverId ≠ some serverId

/-- At most one row is known by a server id. -/
theorem UniqueKeys.eq_of_knownAs (unique : store.UniqueKeys) {serverId : String} {first second : Row}
    (firstMem : first ∈ store.rows) (secondMem : second ∈ store.rows)
    (firstKnown : store.KnownAs serverId first) (secondKnown : store.KnownAs serverId second) :
    first = second := by
  rcases firstKnown with firstServer | ⟨firstId, noServer⟩
  · rcases secondKnown with secondServer | ⟨-, noServer⟩
    · exact unique.eq_of_serverId firstMem secondMem firstServer secondServer
    · exact absurd firstServer (noServer first firstMem)
  · rcases secondKnown with secondServer | ⟨secondId, -⟩
    · exact absurd secondServer (noServer second secondMem)
    · exact unique.eq_of_id firstMem secondMem (firstId.trans secondId.symm)

theorem known_ne_none_of_knownAs {serverId : String} {row : Row} (mem : row ∈ store.rows)
    (isKnown : store.KnownAs serverId row) : store.known serverId ≠ .ok none := by
  intro unknown
  rcases known_eq_none.mp unknown row mem with ⟨noServer, noId⟩
  rcases isKnown with server | ⟨sameId, -⟩
  · exact noServer server
  · exact noId sameId

theorem exists_row_of_known {serverId : String} {existing : Message}
    (isKnown : store.known serverId = .ok (some existing)) :
    ∃ row ∈ store.rows, store.KnownAs serverId row ∧ row.Holds existing := by
  rcases known_eq_some.mp isKnown with found | ⟨missing, found⟩
  · rcases exists_row_of_find? found with ⟨row, mem, passes, holds⟩
    exact ⟨row, mem, Or.inl (by simpa using passes), holds⟩
  · rcases exists_row_of_find? found with ⟨row, mem, passes, holds⟩
    refine ⟨row, mem, Or.inr ⟨by simpa using passes, ?_⟩, holds⟩
    intro other otherMem
    simpa using find?_eq_none.mp missing other otherMem

theorem known_of_knownAs {serverId : String} {row : Row} {existing : Message}
    (unique : store.UniqueKeys) (mem : row ∈ store.rows) (isKnown : store.KnownAs serverId row)
    (holds : row.Holds existing) : store.known serverId = .ok (some existing) := by
  rw [known_eq_some]
  rcases isKnown with server | ⟨sameId, noServer⟩
  · left
    apply find?_of_unique mem (by simp [server]) holds
    intro other otherMem passes
    exact unique.eq_of_serverId otherMem mem (by simpa using passes) server
  · right
    constructor
    · rw [findByServerId, find?_eq_none]
      intro other otherMem
      simpa using noServer other otherMem
    · apply find?_of_unique mem (by simp [sameId]) holds
      intro other otherMem passes
      exact unique.eq_of_id otherMem mem ((by simpa using passes : other.id = serverId).trans
        sameId.symm)

theorem named_eq_none :
    store.named incoming = .ok none ↔ ∀ row ∈ store.rows, ¬row.NamedBy incoming := by
  simp only [named, Row.NamedBy]
  cases incoming.localId with
  | none =>
      simp only [true_iff]
      rintro row mem ⟨-, isSome, sameLocal⟩
      simp [sameLocal] at isSome
  | some localId =>
      simp only [findByLocalId]
      rw [find?_eq_none]
      constructor
      · rintro refused row mem ⟨sameConversation, -, sameLocal⟩
        simpa [sameConversation, sameLocal] using refused row mem
      · intro unnamed row mem
        rw [← Bool.not_eq_true]
        intro passes
        simp only [Bool.and_eq_true, beq_iff_eq] at passes
        exact unnamed row mem ⟨passes.1, by simp [passes.2], passes.2⟩

/-- An incoming record names at most one row. -/
theorem UniqueKeys.eq_of_namedBy (unique : store.UniqueKeys) {first second : Row}
    (firstMem : first ∈ store.rows) (secondMem : second ∈ store.rows)
    (firstNamed : first.NamedBy incoming) (secondNamed : second.NamedBy incoming) :
    first = second :=
  unique.eq_of_clashes firstMem secondMem
    (Or.inr (Or.inr ⟨firstNamed.1.trans secondNamed.1.symm, firstNamed.2.1,
      firstNamed.2.2.trans secondNamed.2.2.symm⟩))

/-- The record that an incoming one names is held by a row that stands for it. -/
theorem exists_row_of_named {message : Message}
    (found : store.named incoming = .ok (some message)) :
    ∃ row ∈ store.rows, row.NamedBy incoming ∧ row.Holds message := by
  simp only [named] at found
  split at found
  · next localId named =>
      rcases exists_row_of_find? found with ⟨row, mem, passes, holds⟩
      simp only [Bool.and_eq_true, beq_iff_eq] at passes
      exact ⟨row, mem, ⟨passes.1, by simp [passes.2], by rw [passes.2, named]⟩, holds⟩
  · cases found

/-- The record of the only row that an incoming one names is the one it names. -/
theorem named_of_namedBy {row : Row} {message : Message} (unique : store.UniqueKeys)
    (mem : row ∈ store.rows) (namedBy : row.NamedBy incoming) (holds : row.Holds message) :
    store.named incoming = .ok (some message) := by
  rcases namedBy with ⟨sameConversation, isSome, sameLocal⟩
  rcases Option.isSome_iff_exists.mp isSome with ⟨localId, rowLocal⟩
  have incomingLocal : incoming.localId = some localId := by rw [← sameLocal, rowLocal]
  simp only [named, incomingLocal]
  apply find?_of_unique mem (by simp [sameConversation, rowLocal]) holds
  intro other otherMem passes
  simp only [Bool.and_eq_true, beq_iff_eq] at passes
  exact unique.eq_of_localId otherMem mem passes.1 sameConversation passes.2 rowLocal

/-- The record that an incoming one is an echo of is a pending one of its conversation, with its role
and contents and nearly its time. -/
theorem exists_row_of_echo {message : Message}
    (found : store.echo incoming window = .ok (some message)) :
    incoming.role = .user ∧ ∃ row ∈ store.rows, row.Holds message ∧
      (row.conversationId = incoming.conversationId ∧
        row.syncStatus = SyncStatus.pending.name) ∧
      message.role = incoming.role ∧ message.contents = incoming.contents ∧
        window.admits message.createdAt incoming.createdAt = true := by
  simp only [echo] at found
  split at found
  · cases found
  · next fromUser =>
      rw [except_bind_eq_ok] at found
      rcases found with ⟨candidates, read, first⟩
      have first : candidates.find? _ = some message := Except.ok.inj first
      have accepted := List.find?_some first
      rcases mem_of_mapM_eq_ok read (List.mem_of_find?_eq_some first) with ⟨row, mem, holds⟩
      rw [Row.toMessage_eq_ok] at holds
      simp only [List.mem_mergeSort, List.mem_filter, Bool.and_eq_true, beq_iff_eq] at mem accepted
      rcases accepted with ⟨⟨role, contents⟩, near⟩
      exact ⟨not_not.mp fromUser, row, mem.1, holds, mem.2, role, contents, near⟩

end Store

end MessageSync
