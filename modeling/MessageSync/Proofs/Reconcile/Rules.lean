import MessageSync.Proofs.Reconcile.Deliveries
import MessageSync.Proofs.Reconcile.TimeOrder
import MessageSync.Proofs.Store.References
import MessageSync.Proofs.Time.Distance

/-!
# The rule that a reconciliation follows

Which rule merges an incoming record is decided by the rows alone: a row with its server id comes
before a row with its local id, and that before a pending row that it may be the echo of. Of several
such rows the first in the order of the texts of their creation times is taken, which is the
earliest where these are spelled plainly. The row that takes the server id has the server's fields,
and keeps its creation time, its conversation and its local id.
-/

namespace MessageSync

/-- The rules by which a record is reconciled, in their order. -/
inductive Rule where
  | known
  | named
  | echoed
  | new

def Outcome.rule : Outcome → Rule
  | .duplicate _ _ => .known
  | .adoptedLocal _ _ => .named
  | .matchedEcho _ _ => .echoed
  | .inserted _ => .new

/-- The incoming record may be the server's version of the pending row: both have the same role and
contents, and nearly the same time. -/
def Row.MayBecome (row : Row) (incoming : Message) (window : MatchWindow) : Prop :=
  row.PendingIn incoming.conversationId ∧ ∃ message, row.Holds message ∧
    message.role = incoming.role ∧ message.contents = incoming.contents ∧
    window.Spans message.createdAt incoming.createdAt

theorem Row.mayBecome_iff_echoes {row : Row} {incoming : Message} {window : MatchWindow} :
    row.MayBecome incoming window ↔ row.Echoes incoming window := by
  simp only [MayBecome, Echoes, MatchWindow.admits_iff_spans]

namespace Store

variable {store after : Store} {incoming : Message} {window : MatchWindow} {message : Message}
  {row : Row}

/-! ## The first echo -/

theorem exists_firstEcho (mem : row ∈ store.rows) (echoes : row.Echoes incoming window) :
    ∃ first, store.FirstEcho incoming window first := by
  classical
  -- The first of the rows in question is the head of their list when it is sorted.
  have sorted := List.pairwise_mergeSort
    (fun first second third => @Row.inCreationOrder_trans first second third)
    Row.inCreationOrder_total (store.rows.filter fun row => row.Echoes incoming window)
  have listed (row : Row) : row ∈ (store.rows.filter fun row =>
      row.Echoes incoming window).mergeSort Row.inCreationOrder ↔
        row ∈ store.rows ∧ row.Echoes incoming window := by
    simp
  cases rows : (store.rows.filter fun row =>
      row.Echoes incoming window).mergeSort Row.inCreationOrder with
  | nil =>
      have listedRow := (listed row).mpr ⟨mem, echoes⟩
      rw [rows] at listedRow
      cases listedRow
  | cons first rest =>
      rw [rows] at sorted listed
      rw [List.pairwise_cons] at sorted
      rcases (listed first).mp List.mem_cons_self with ⟨firstMem, firstEchoes⟩
      refine ⟨first, firstMem, firstEchoes, ?_⟩
      intro other otherMem otherEchoes
      rcases List.mem_cons.mp ((listed other).mpr ⟨otherMem, otherEchoes⟩) with rfl | later
      · simpa using Row.inCreationOrder_total other other
      · exact sorted.1 other later

theorem firstEcho_of_echo (unique : store.UniqueKeys) (legible : store.Legible)
    (found : store.echo incoming window = .ok (some message)) :
    incoming.role = .user ∧ ∃ row, store.FirstEcho incoming window row ∧ row.Holds message := by
  rcases exists_row_of_echo found with ⟨fromUser, row, mem, holds, pending, same⟩
  rcases exists_firstEcho mem ⟨pending, message, holds, same⟩ with ⟨first, firstEcho⟩
  rcases firstEcho.echoes with ⟨-, held, firstHolds, -⟩
  cases (firstEcho.echo_eq unique legible fromUser firstHolds).symm.trans found
  exact ⟨fromUser, first, firstEcho, firstHolds⟩

/-! ## The rules -/

/-- A row has the incoming server id, as its server id or as its id. -/
def Knows (store : Store) (incoming : Message) : Prop :=
  ∃ row ∈ store.rows, row.serverId = some incoming.serverKey ∨ row.id = incoming.serverKey

/-- A row of the incoming record's conversation has its local id. -/
def Names (store : Store) (incoming : Message) : Prop :=
  ∃ row ∈ store.rows, row.NamedBy incoming

/-- The incoming record is a user's, and a pending row may be an earlier version of it. -/
def Awaits (store : Store) (incoming : Message) (window : MatchWindow) : Prop :=
  incoming.role = .user ∧ ∃ row ∈ store.rows, row.MayBecome incoming window

/-- The rule is the first that applies. -/
def Applies (store : Store) (incoming : Message) (window : MatchWindow) : Rule → Prop
  | .known => store.Knows incoming
  | .named => ¬store.Knows incoming ∧ store.Names incoming
  | .echoed => ¬store.Knows incoming ∧ ¬store.Names incoming ∧ store.Awaits incoming window
  | .new => ¬store.Knows incoming ∧ ¬store.Names incoming ∧ ¬store.Awaits incoming window

theorem Applies.unique {first second : Rule} (firstApplies : store.Applies incoming window first)
    (secondApplies : store.Applies incoming window second) : first = second := by
  cases first <;> cases second <;> simp_all [Applies]

theorem not_knows_of_unknown (unknown : store.known incoming.serverKey = .ok none) :
    ¬store.Knows incoming := by
  rintro ⟨row, mem, server | same⟩
  · exact (known_eq_none.mp unknown row mem).1 server
  · exact (known_eq_none.mp unknown row mem).2 same

theorem knows_of_known {existing : Message}
    (isKnown : store.known incoming.serverKey = .ok (some existing)) : store.Knows incoming := by
  rcases exists_row_of_known isKnown with ⟨row, mem, knownAs, -⟩
  exact ⟨row, mem, knownAs.imp_right And.left⟩

theorem not_names_of_unnamed (unnamed : store.named incoming = .ok none) :
    ¬store.Names incoming := by
  rintro ⟨row, mem, namedBy⟩
  exact named_eq_none.mp unnamed row mem namedBy

theorem Merges.applies (unique : store.UniqueKeys) (legible : store.Legible) {outcome : Outcome}
    (merges : Merges incoming window store outcome after) :
    store.Applies incoming window outcome.rule := by
  cases merges with
  | known isKnown => exact knows_of_known isKnown
  | absorbed isKnown => exact knows_of_known isKnown
  | adopted unknown isNamed =>
      rcases exists_row_of_named isNamed with ⟨row, mem, namedBy, -⟩
      exact ⟨not_knows_of_unknown unknown, row, mem, namedBy⟩
  | echoed unknown unnamed isEcho =>
      rcases firstEcho_of_echo unique legible isEcho with ⟨fromUser, row, firstEcho, -⟩
      exact ⟨not_knows_of_unknown unknown, not_names_of_unnamed unnamed, fromUser, row,
        firstEcho.mem, Row.mayBecome_iff_echoes.mpr firstEcho.echoes⟩
  | inserted unknown unnamed noEcho =>
      refine ⟨not_knows_of_unknown unknown, not_names_of_unnamed unnamed, ?_⟩
      rintro ⟨fromUser, row, mem, mayBecome⟩
      rcases exists_firstEcho mem (Row.mayBecome_iff_echoes.mp mayBecome) with ⟨first, firstEcho⟩
      rcases firstEcho.echoes with ⟨-, message, holds, -⟩
      cases (firstEcho.echo_eq unique legible fromUser holds).symm.trans noEcho

/-! ## The row that takes the server id -/

/-- The record is the server's version of the previous one: it has the server's fields, settled, and
keeps the creation time, the conversation, the local id and, unless the server gives one, the
reference, which is moved like all that led to the previous record. -/
structure ServerVersion (incoming previous adopted : Message) : Prop where
  id : adopted.id = incoming.serverKey
  serverId : adopted.serverId = some incoming.serverKey
  sequenceNumber : adopted.sequenceNumber = incoming.sequenceNumber
  role : adopted.role = incoming.role
  contents : adopted.contents = incoming.contents
  updatedAt : adopted.updatedAt = incoming.updatedAt
  syncStatus : adopted.syncStatus =
    if incoming.syncStatus = .pending then .synced else incoming.syncStatus
  createdAt : adopted.createdAt = previous.createdAt
  conversationId : adopted.conversationId = previous.conversationId
  localId : adopted.localId = previous.localId
  previousId : adopted.previousId =
    (incoming.previousId.or previous.previousId).map (heir previous.id incoming.serverKey)

/-- The only row with the incoming server id is that of the server's version of the former row's
record. It reads back if its times have years of four digits. -/
def Adopts (store after : Store) (incoming : Message) (former : Row) : Prop :=
  former ∈ store.rows ∧ ∃ previous adopted, former.Holds previous ∧
    ServerVersion incoming previous adopted ∧
    after.withId incoming.serverKey = [Row.ofMessage adopted] ∧
    (after.load incoming.serverKey = .ok adopted ↔ adopted.Storable)

theorem adopts_of_replaceId (unique : store.UniqueKeys)
    (unknown : store.known incoming.serverKey = .ok none) (mem : row ∈ store.rows)
    (holds : row.Holds message) {localId : Option String} {replaced : Message}
    (sameLocal : localId.or message.localId = message.localId)
    (replaces : store.replaceId message.id incoming.serverKey
      { incoming.adoption with localId } = .ok (replaced, after)) :
    Adopts store after incoming row := by
  have different : message.id ≠ incoming.serverKey := by
    rw [holds.id]
    exact (known_eq_none.mp unknown row mem).2
  have relocates := relocates_of_replaceId unique.uniqueIds different replaces
  rcases relocates.moved with ⟨previous, adopted, loaded, patched, only, read⟩
  cases (load_of_holds unique mem holds).symm.trans loaded
  refine ⟨mem, message, adopted, holds, ?_, only, read⟩
  exact ⟨patched.id, patched.serverId, patched.sequenceNumber, patched.role, patched.contents,
    patched.updatedAt, patched.syncStatus, patched.createdAt, patched.conversationId,
    patched.localId.trans sameLocal, patched.previousId⟩

/-! ## Every reconciliation -/

/-- Reconciling the record succeeds, with this outcome and this store afterwards. -/
def Gives (store : Store) (incoming : Message) (window : MatchWindow) (outcome : Outcome)
    (after : Store) : Prop :=
  (MessageLog.reconcile incoming window).runOn store = (.ok outcome, after)

/-- The rows decide which outcome a reconciliation has, and which row takes the server id. -/
structure FollowsRules (store : Store) (incoming : Message) (window : MatchWindow) : Prop where
  outcome : ∀ rule, (∃ outcome after, store.Gives incoming window outcome after ∧
      outcome.rule = rule) ↔
    store.Applies incoming window rule ∧ (rule = .known → ¬store.Spoils incoming)
  takesNamed : ∀ formerId id after, store.Gives incoming window (.adoptedLocal formerId id) after →
    id = incoming.serverKey ∧ ∃ former, former.id = formerId ∧ former.NamedBy incoming ∧
      store.Adopts after incoming former
  takesEcho : ∀ formerId id after, store.Gives incoming window (.matchedEcho formerId id) after →
    id = incoming.serverKey ∧ ∃ former, former.id = formerId ∧ former.MayBecome incoming window ∧
      store.Adopts after incoming former ∧
      (∀ other ∈ store.rows, other.MayBecome incoming window →
        former.inCreationOrder other = true) ∧
      ((∀ row ∈ store.rows, row.MayBecome incoming window → row.PlainlyDated) →
        ∀ other ∈ store.rows, other.MayBecome incoming window → ∀ earliest theirs,
          former.Holds earliest → other.Holds theirs → earliest.CreatedInOrder theirs)

theorem exists_gives_iff (unique : store.UniqueKeys) (legible : store.Legible) (rule : Rule) :
    (∃ outcome after, store.Gives incoming window outcome after ∧ outcome.rule = rule) ↔
      store.Applies incoming window rule ∧ (rule = .known → ¬store.Spoils incoming) := by
  constructor
  · rintro ⟨outcome, after, gives, rfl⟩
    have merges := merges_of_reconcile gives
    exact ⟨merges.applies unique legible, fun _ => merges.not_spoils unique⟩
  · rintro ⟨applies, sound⟩
    have unspoiled : ¬store.Spoils incoming := by
      intro spoils
      rcases spoils with ⟨existing, other, isKnown, rest⟩
      have knownApplies : store.Applies incoming window .known := knows_of_known isKnown
      exact sound (applies.unique knownApplies) ⟨existing, other, isKnown, rest⟩
    -- Some outcome there is, and only one rule applies.
    rcases exists_merges unique legible unspoiled with ⟨outcome, after, merges⟩
    exact ⟨outcome, after, merges.reconcile_eq,
      (merges.applies unique legible).unique applies⟩

theorem FirstEcho.exists_gives (firstEcho : store.FirstEcho incoming window row)
    (unique : store.UniqueKeys) (legible : store.Legible) (fromUser : incoming.role = .user)
    (holds : row.Holds message) (unknown : store.known incoming.serverKey = .ok none)
    (unnamed : store.named incoming = .ok none) : ∃ after,
      store.Gives incoming window (.matchedEcho message.id incoming.serverKey) after := by
  have replaces : ∃ replaced after, store.replaceId message.id incoming.serverKey
      { incoming.adoption with localId := message.localId } = .ok (replaced, after) :=
    unique.exists_replaceId firstEcho.mem holds (known_eq_none.mp unknown) rfl Option.or_self
  rcases replaces with ⟨replaced, after, replaces⟩
  have isEcho := firstEcho.echo_eq unique legible fromUser holds
  exact ⟨after, Merges.reconcile_eq (.echoed unknown unnamed isEcho replaces)⟩

theorem adopts_of_gives (unique : store.UniqueKeys) {formerId id : String}
    (gives : store.Gives incoming window (.adoptedLocal formerId id) after) :
    id = incoming.serverKey ∧ ∃ former, former.id = formerId ∧ former.NamedBy incoming ∧
      store.Adopts after incoming former := by
  cases merges_of_reconcile gives with
  | adopted unknown isNamed replaces =>
      rcases exists_row_of_named isNamed with ⟨former, mem, namedBy, holds⟩
      refine ⟨rfl, former, holds.id.symm, namedBy, ?_⟩
      refine adopts_of_replaceId unique unknown mem holds ?_ replaces
      change incoming.localId.or _ = _
      rw [holds.localId, ← namedBy.2.2]
      cases former.localId <;> rfl

theorem matches_of_gives (unique : store.UniqueKeys) (legible : store.Legible)
    {formerId id : String}
    (gives : store.Gives incoming window (.matchedEcho formerId id) after) :
    id = incoming.serverKey ∧ ∃ former, former.id = formerId ∧ former.MayBecome incoming window ∧
      store.Adopts after incoming former ∧
      (∀ other ∈ store.rows, other.MayBecome incoming window →
        former.inCreationOrder other = true) ∧
      ((∀ row ∈ store.rows, row.MayBecome incoming window → row.PlainlyDated) →
        ∀ other ∈ store.rows, other.MayBecome incoming window → ∀ earliest theirs,
          former.Holds earliest → other.Holds theirs → earliest.CreatedInOrder theirs) := by
  cases merges_of_reconcile gives with
  | echoed unknown unnamed isEcho replaces =>
      rcases firstEcho_of_echo unique legible isEcho with ⟨-, former, firstEcho, holds⟩
      have mayBecome := Row.mayBecome_iff_echoes.mpr firstEcho.echoes
      have first : ∀ other ∈ store.rows, other.MayBecome incoming window →
          former.inCreationOrder other = true := fun other otherMem otherMay =>
        firstEcho.first other otherMem (Row.mayBecome_iff_echoes.mp otherMay)
      refine ⟨rfl, former, holds.id.symm, mayBecome, ?_, first, ?_⟩
      · refine adopts_of_replaceId unique unknown firstEcho.mem holds ?_ replaces
        exact Option.or_self
      · intro dated other otherMem otherMay earliest theirs earliestHolds theirsHolds
        have order := first other otherMem otherMay
        exact Row.createdInOrder_of_inCreationOrder order (dated former firstEcho.mem mayBecome)
          (dated other otherMem otherMay) earliestHolds theirsHolds

/-- A record is reconciled by the first rule that applies, with every legible store with unique
keys. -/
theorem reconcile_followsRules (unique : store.UniqueKeys) (legible : store.Legible) :
    store.FollowsRules incoming window := by
  refine ⟨exists_gives_iff unique legible, ?_, ?_⟩
  · intro formerId id after gives
    exact adopts_of_gives unique gives
  · intro formerId id after gives
    exact matches_of_gives unique legible gives

theorem reconcile_followsRules_sentTwice :
    let store := sentTwice "2023-11-14T22:13:21+00:00"
    store.UniqueKeys ∧ store.Legible ∧ store.FollowsRules acknowledgement.pushed .standard ∧
      ∃ outcome after, store.Gives acknowledgement.pushed .standard outcome after ∧
        outcome.rule = .echoed := by
  intro store
  have read : Timestamp.readStrict "2023-11-14T22:13:21+00:00" =
      some ⟨1700000001, 0, by decide, by decide, by decide, by decide⟩ := by decide +kernel
  have unique : store.UniqueKeys := sentTwice_unique _
  have legible : store.Legible := sentTwice_legible read
  have rules : store.FollowsRules acknowledgement.pushed .standard :=
    reconcile_followsRules unique legible
  refine ⟨unique, legible, rules, (rules.outcome .echoed).mpr ⟨⟨?_, ?_, rfl, ?_⟩, nofun⟩⟩
  · exact not_knows_of_unknown (except_eq_ok_of_toOption (by decide +kernel))
  · exact not_names_of_unnamed rfl
  · exact ⟨_, List.mem_cons_of_mem _ List.mem_cons_self, ⟨rfl, rfl⟩, _, pendingRow_acknowledged,
      rfl, rfl, MatchWindow.admits_iff_spans.mp (by decide +kernel)⟩

/-! ## Exceptions -/

/-- The server's version of a record, created when the year 2017 began. -/
def newYear : Message :=
  { acknowledgement.pushed with createdAt := (Moment.of? 1483228800 0).getD default }

/-- A pending record of the half second before. -/
def endOfYear : Store :=
  ⟨[pendingRow "2016-12-31T23:59:60.500+00:00"], schemaVersion⟩

theorem endOfYear_holds : (pendingRow "2016-12-31T23:59:60.500+00:00").Holds
    (pendingRecord ((Moment.of? 1483228799 1500000000).getD default)) :=
  pendingRow_holds (by decide +kernel)

/-- Two pending records, of which the earlier one has its time in a zone where it is later. -/
def twoZones : Store :=
  sentTwice "2023-11-14T23:13:19+01:00"

theorem twoZones_read : Timestamp.readStrict "2023-11-14T23:13:19+01:00" =
    some ((Moment.of? 1699999999 0).getD default) := by
  decide +kernel

theorem twoZones_firstEcho : twoZones.FirstEcho acknowledgement.pushed .standard
    (pendingRow "2023-11-14T22:13:20+00:00") := by
  refine ⟨List.mem_cons_of_mem _ List.mem_cons_self,
    ⟨⟨rfl, rfl⟩, _, pendingRow_acknowledged, rfl, rfl, by decide +kernel⟩, ?_⟩
  rintro row mem -
  simp only [twoZones, sentTwice, List.mem_cons, List.not_mem_nil, or_false] at mem
  rcases mem with rfl | rfl <;> decide +kernel

/-- A record that is known by its server id cannot always be reconciled. Half a second is taken to be
no time at all if it begins in the leap second at the end of a day. And a record is not the earliest
if the time of another is spelled in a zone in which it is later in the day. -/
theorem not_followsRules_everywhere :
    (¬∀ (store : Store) (incoming : Message) (window : MatchWindow), store.UniqueKeys →
      store.Legible → store.Knows incoming →
        ∃ id absorbed after, store.Gives incoming window (.duplicate id absorbed) after) ∧
    (¬∀ (store after : Store) (incoming earlier : Message) (window : MatchWindow)
        (formerId id : String), store.UniqueKeys → store.Legible →
      store.Gives incoming window (.matchedEcho formerId id) after →
      store.load formerId = .ok earlier →
        earlier.createdAt.apart incoming.createdAt ≤ window.nanos) ∧
    ¬∀ (store after : Store) (incoming earliest other : Message) (window : MatchWindow)
        (formerId id : String) (row : Row), store.UniqueKeys → store.Legible →
      store.Gives incoming window (.matchedEcho formerId id) after →
      store.load formerId = .ok earliest → row ∈ store.rows → row.MayBecome incoming window →
      row.Holds other → earliest.CreatedInOrder other := by
  refine ⟨?_, ?_, ?_⟩
  · intro duplicate
    have readable : (syncedRow "0000-01-01T00:00:00+01:00").toMessage.toOption.isSome = true := by
      decide +kernel
    rcases Option.isSome_iff_exists.mp readable with ⟨message, read⟩
    have holds := Row.toMessage_eq_ok.mp (except_eq_ok_of_toOption read)
    rcases duplicate (doubled "0000-01-01T00:00:00+01:00") replacement .standard (doubled_unique _)
      (doubled_legible ⟨message, holds⟩) ⟨_, List.mem_cons_self, Or.inl rfl⟩ with
      ⟨id, absorbed, after, gives⟩
    have failed : ((MessageLog.reconcile replacement .standard).runOn
        (doubled "0000-01-01T00:00:00+01:00")).1.toOption = none := by decide +kernel
    have ran : (MessageLog.reconcile replacement .standard).runOn
        (doubled "0000-01-01T00:00:00+01:00") = (.ok (.duplicate id absorbed), after) := gives
    rw [ran] at failed
    cases failed
  · intro near
    have unique : endOfYear.UniqueKeys := List.pairwise_singleton _ _
    have legible : endOfYear.Legible := by
      intro row mem
      rw [List.mem_singleton.mp mem]
      exact ⟨_, endOfYear_holds⟩
    have gives : endOfYear.Gives newYear ⟨0, by decide⟩ (.matchedEcho "l1" "m1")
        ((MessageLog.reconcile newYear ⟨0, by decide⟩).runOn endOfYear).2 :=
      Prod.ext (except_eq_ok_of_toOption (by decide +kernel)) rfl
    have loaded := load_of_holds unique (List.mem_singleton_self _) endOfYear_holds
    have halfSecond := near _ _ _ _ _ _ _ unique legible gives loaded
    revert halfSecond
    decide +kernel
  · intro ordered
    have unique : twoZones.UniqueKeys := sentTwice_unique _
    have legible : twoZones.Legible := sentTwice_legible twoZones_read
    have otherHolds : Row.Holds { pendingRow "2023-11-14T23:13:19+01:00" with
        id := "l2", localId := some "l2" } { pendingRecord _ with id := "l2", localId := some "l2" } :=
      { pendingRow_holds twoZones_read with id := rfl, localId := rfl }
    rcases twoZones_firstEcho.exists_gives unique legible rfl pendingRow_acknowledged
      (except_eq_ok_of_toOption (by decide +kernel)) rfl with ⟨after, gives⟩
    have loaded := load_of_holds unique twoZones_firstEcho.mem pendingRow_acknowledged
    have mayBecome : Row.MayBecome { pendingRow "2023-11-14T23:13:19+01:00" with
        id := "l2", localId := some "l2" } acknowledgement.pushed .standard :=
      ⟨⟨rfl, rfl⟩, _, otherHolds, rfl, rfl, MatchWindow.admits_iff_spans.mp (by decide +kernel)⟩
    have inOrder := ordered _ _ _ _ _ _ _ _ _ unique legible gives loaded List.mem_cons_self
      mayBecome otherHolds
    revert inOrder
    decide +kernel

end Store

end MessageSync
