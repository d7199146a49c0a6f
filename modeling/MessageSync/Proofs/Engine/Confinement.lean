import MessageSync.Proofs.Engine.SyncResponses
import MessageSync.Proofs.Reconcile.Confinement
import MessageSync.Simulation.Fixtures

/-!
# Answers that stay in their conversation

The records of an answer are merged one after the other, each into the log as it is when its turn
comes. As long as none of them strays, the rows of the other conversations are as they were, with
their references moved along with the ids that gave way.
-/

namespace MessageSync

namespace Store

variable {store middle after : Store} {window : MatchWindow} {records : List Message}

/-- The ids that give way when records are merged one after the other, up to the first that cannot
be merged. -/
def moves (window : MatchWindow) : List Message → Store → List (String × String)
  | [], _ => []
  | record :: records, store =>
    (store.move? record window).toList ++
      match (MessageLog.reconcile record window).runOn store with
      | (.ok _, after) => moves window records after
      | (.error _, _) => []

/-- The log as it is when the turn of the record comes. -/
def Turn (window : MatchWindow) (records : List Message) (store : Store) (record : Message)
    (middle : Store) : Prop :=
  ∃ earlier later, records = earlier ++ record :: later ∧
    (MessageLog.reconcileAll window earlier).runOn store = (.ok (), middle)

theorem turn_first (record : Message) : Turn window (record :: records) store record store :=
  ⟨[], records, rfl, rfl⟩

theorem Turn.later {first record : Message} {outcome : Outcome}
    (merged : (MessageLog.reconcile first window).runOn store = (.ok outcome, after))
    (turn : Turn window records after record middle) :
    Turn window (first :: records) store record middle := by
  rcases turn with ⟨earlier, later, rfl, ran⟩
  exact ⟨first :: earlier, later, rfl, LogM.runOn_bind_eq_ok.mpr ⟨outcome, after, merged, ran⟩⟩

theorem turn_singleton {first record : Message} :
    Turn window [first] store record middle ↔ record = first ∧ middle = store := by
  constructor
  · rintro ⟨_ | ⟨_, earlier⟩, later, same, ran⟩
    · cases same
      cases ran
      exact ⟨rfl, rfl⟩
    · simp at same
  · rintro ⟨rfl, rfl⟩
    exact turn_first record

/-- What every merge keeps, merging records one after the other keeps. -/
theorem kept_of_reconcileAll (kept : Store → Prop)
    (merges : ∀ record ∈ records, ∀ before outcome next, kept before →
      Merges record window before outcome next → kept next)
    (holds : kept store)
    (ran : (MessageLog.reconcileAll window records).runOn store = (.ok (), after)) :
    kept after := by
  induction records generalizing store with
  | nil =>
      cases ran
      exact holds
  | cons record records ih =>
      rcases LogM.runOn_bind_eq_ok.mp ran with ⟨outcome, next, merged, rest⟩
      rw [List.forall_mem_cons] at merges
      exact ih merges.2 (merges.1 store outcome next holds (merges_of_reconcile merged)) rest

theorem UniqueKeys.reconcileAll (unique : store.UniqueKeys)
    (ran : (MessageLog.reconcileAll window records).runOn store = (.ok (), after)) :
    after.UniqueKeys :=
  kept_of_reconcileAll UniqueKeys (fun _ _ _ _ _ unique merges => unique.merges merges) unique ran

theorem KeepsOutside.trans {conversationId : String} {first second : List (String × String)}
    (keeps : KeepsOutside conversationId first store middle)
    (later : KeepsOutside conversationId second middle after) :
    KeepsOutside conversationId (first ++ second) store after := by
  rw [KeepsOutside, later, keeps, List.map_map]
  exact List.map_congr_left fun row _ => (Row.follow_append first second row).symm

/-- Records that do not stray when their turn comes keep the rows outside of the conversation. -/
theorem keepsOutside_reconcileAll (unique : store.UniqueKeys) {conversationId : String}
    (stay : ∀ record middle, Turn window records store record middle →
      ¬middle.Strays window conversationId record) :
    KeepsOutside conversationId (moves window records store) store
      ((MessageLog.reconcileAll window records).runOn store).2 := by
  induction records generalizing store with
  | nil => exact (List.map_id _).symm
  | cons record records ih =>
      have keeps := (keepsOutside_iff_not_strays unique).mpr (stay record store (turn_first record))
      simp only [moves, MessageLog.reconcileAll, LogM.runOn_bind]
      rcases merged : (MessageLog.reconcile record window).runOn store with ⟨_ | outcome, next⟩
      · rw [merged] at keeps
        simpa only [List.append_nil] using keeps
      · rw [merged] at keeps
        refine keeps.trans (ih (unique.merges (merges_of_reconcile merged)) ?_)
        intro other middle turn
        exact stay other middle (turn.later merged)

/-- A log with a record of one conversation that was written here, and one of another that the
server has ordered. -/
def twoConversations : Store :=
  ⟨[Row.ofMessage { Message.canonical "l1" "c1" 1 .user "Hi" default with
      localId := some "l1", serverId := none, syncStatus := .pending },
    Row.ofMessage (Message.canonical "m9" "c2" 1 .user "Hello" default)], schemaVersion⟩

theorem twoConversations_unique : twoConversations.UniqueKeys :=
  List.pairwise_pair.mpr (by decide +kernel)

theorem twoConversations_readable : twoConversations.Readable := by
  intro row mem
  simp only [twoConversations, List.mem_cons, List.not_mem_nil, or_false] at mem
  rcases mem with rfl | rfl
  · exact readable_ofMessage ⟨by decide +kernel, by decide +kernel⟩
  · exact readable_ofMessage ⟨by decide +kernel, by decide +kernel⟩

end Store

namespace Engine

variable {τ : Type} {engine : Engine Store τ}

/-- The records that an answer has for the submitted ones. -/
def recordsOf (response : SyncResponse) (submitted : List String) : List Message :=
  (SyncResult.counting submitted [] response.results).map SyncResult.record

/-- An answer to the request of a conversation leaves the records of the others as they were, apart
from references to ids that gave way, if none of its records strays when its turn comes. A record
whose turn comes does the same for its part exactly if it does not stray. -/
theorem keepsOutside_takeSyncResponse (unique : engine.log.UniqueKeys) (response : SyncResponse)
    {schedule : ConversationSync} {flight : InFlight}
    (found : engine.coordinator.get? response.conversationId = some schedule)
    (waits : schedule.inFlight = some flight) :
    let records := recordsOf response flight.localIds
    ((∀ record middle, Store.Turn engine.window records engine.log record middle →
        ¬middle.Strays engine.window response.conversationId record) →
      Store.KeepsOutside response.conversationId (Store.moves engine.window records engine.log)
        engine.log ((takeSyncResponse response).run engine).2.log) ∧
    ∀ record middle, Store.Turn engine.window records engine.log record middle →
      (Store.KeepsOutside response.conversationId (middle.move? record engine.window).toList middle
          ((MessageLog.reconcile record engine.window).runOn middle).2 ↔
        ¬middle.Strays engine.window response.conversationId record) := by
  intro records
  refine ⟨?_, ?_⟩
  · intro stay
    rcases (settles_takeSyncResponse found waits).settled with
      ⟨merged, log, result, told, ran, -, finishes⟩
    have keeps := Store.keepsOutside_reconcileAll unique stay
    have same : ((takeSyncResponse response).run engine).2.log = log := by
      rw [finishes.elsewhere]
    have ran : (MessageLog.reconcileAll engine.window records).runOn engine.log =
        (merged, log) := ran
    rwa [ran, ← same] at keeps
  · rintro record middle ⟨earlier, later, -, ran⟩
    exact Store.keepsOutside_iff_not_strays (unique.reconcileAll ran)

/-- The engine once the record that was written here has been submitted. -/
def submitting (first : Engine Store ScriptedTransport) : Engine Store ScriptedTransport :=
  { first with coordinator := ((first.coordinator.track "c1" 0).begin "c1" ["l1"] 0).2 }

/-- The answer that gives the submitted record a server id, as another version or as it is. -/
def answering (status : Disposition) (serverId : String) : SyncResponse :=
  ⟨"c1", [⟨"l1", status, ⟨serverId, "c1", 2, .user, "Hi", default, default, none⟩, none⟩], none⟩

/-- The submitted record takes the server id, and the other conversation is left alone. -/
theorem keepsOutside_takeSyncResponse_synced : ∃ first,
    start Settings.standard {} Store.twoConversations ⟨0, default⟩ = .ok first ∧
    Store.KeepsOutside "c1" [("l1", "m1")] Store.twoConversations
      ((takeSyncResponse (answering .synced "m1")).run (submitting first)).2.log := by
  have starts : (start Settings.standard ({} : ScriptedTransport) Store.twoConversations
      ⟨0, default⟩).toOption.map (fun first =>
        (first.window, ((submitting first).coordinator.get? "c1").map fun schedule =>
          schedule.inFlight.map InFlight.localIds)) =
      some (.standard, some (some ["l1"])) := by decide +kernel
  rcases exists_of_toOption_map starts with ⟨first, started, same⟩
  rw [Prod.mk.injEq] at same
  rcases same with ⟨window, waits⟩
  rcases Option.map_eq_some_iff.mp waits with ⟨schedule, found, waits⟩
  rcases Option.map_eq_some_iff.mp waits with ⟨flight, waits, submitted⟩
  have log : (submitting first).log = Store.twoConversations := (fresh_of_start started).log
  have window : (submitting first).window = .standard := window
  have one : ∃ record, recordsOf (answering .synced "m1") ["l1"] = [record] ∧
      record.conversationId = "c1" ∧ record.serverKey = "m1" := ⟨_, rfl, rfl, rfl⟩
  rcases one with ⟨record, records, conversation, serverKey⟩
  have unknown : Store.twoConversations.known "m1" = .ok none :=
    except_eq_ok_of_toOption (by decide +kernel)
  have moves : Store.moves .standard (recordsOf (answering .synced "m1") ["l1"])
      Store.twoConversations = [("l1", "m1")] := by decide +kernel
  have unique : (submitting first).log.UniqueKeys := log ▸ Store.twoConversations_unique
  have keeps := (keepsOutside_takeSyncResponse unique (answering .synced "m1") found waits).1
  rw [submitted, log, window, moves, records] at keeps
  refine ⟨first, started, keeps ?_⟩
  intro other middle turn
  rcases Store.turn_singleton.mp turn with ⟨rfl, rfl⟩
  rintro ⟨-, elsewhere | ⟨existing, isKnown, -⟩⟩
  · exact elsewhere conversation
  · rw [serverKey, unknown] at isKnown
    cases isKnown

/-- An answer for one conversation sets the sync state of a record of another. -/
theorem not_keepsOutside_takeSyncResponse :
    ¬∀ (engine : Engine Store ScriptedTransport) (response : SyncResponse),
      engine.log.UniqueKeys → engine.log.Legible →
      engine.coordinator.isInFlight response.conversationId = true →
        ∃ moves, Store.KeepsOutside response.conversationId moves engine.log
          ((takeSyncResponse response).run engine).2.log := by
  intro keeps
  have runs : (start Settings.standard ({} : ScriptedTransport) Store.twoConversations
      ⟨0, default⟩).toOption.map (fun first =>
        let engine := submitting first
        (engine.coordinator.isInFlight "c1",
          (((takeSyncResponse (answering .conflict "m9")).run engine).2.log.outside "c1").map
            Row.syncStatus)) = some (true, ["conflict"]) := by
    decide +kernel
  rcases exists_of_toOption_map runs with ⟨first, started, same⟩
  rw [Prod.mk.injEq] at same
  have log : (submitting first).log = Store.twoConversations := (fresh_of_start started).log
  rcases keeps (submitting first) (answering .conflict "m9") (log ▸ Store.twoConversations_unique)
    (log ▸ Store.twoConversations_readable.legible) same.1 with ⟨moves, kept⟩
  have statuses := congrArg (List.map Row.syncStatus) kept
  have follows : Row.syncStatus ∘ Row.follow moves = Row.syncStatus :=
    funext (Row.follow_syncStatus moves)
  have before : (Store.twoConversations.outside "c1").map Row.syncStatus = ["synced"] := by
    decide +kernel
  rw [List.map_map, follows, log] at statuses
  exact absurd (same.2.symm.trans (statuses.trans before)) (by decide)

end Engine

end MessageSync
