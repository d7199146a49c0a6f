import MessageSync.Proofs.Engine.Frames
import MessageSync.Proofs.Engine.Mute
import MessageSync.Proofs.Engine.News

/-!
# What a step announces

A step tells listeners of the records that it stores: the one that is written here, and those under
the ids of the outcomes of the merges that changed something. Nothing else makes it tell of a
message, and nothing else changes the log.
-/

namespace MessageSync

/-- The calls of listeners that are told of messages, one after the other. -/
def Listeners.messageCalls (listeners : Listeners) (told : List Message) :
    List (ListenerId × Message) :=
  told.flatMap fun message => (listeners.called (.message message)).map (·, message)

/-- What is made of the body of an envelope, if it fits the type. -/
def Envelope.fromBody {ρ : Type} (envelope : Envelope) (layout : Layout ρ ρ)
    (make : ρ → List Message) : List Message :=
  match envelope.bodyAs layout.codec with
  | .ok body => make body
  | .error _ => []

namespace Engine

variable {σ τ α : Type} {engine before middle after : Engine σ τ} {told more : List Message}
  {log : σ}

/-! ## Telling of messages -/

/-- The log has become the given one, and listeners were called about the given messages and no
others. -/
structure Relays (told : List Message) (log : σ) (before after : Engine σ τ) : Prop where
  log : after.log = log
  window : after.window = before.window
  listeners : after.listeners = before.listeners
  calls : after.messageCalls = before.messageCalls ++ before.listeners.messageCalls told

theorem Mute.relays (mute : Mute before after) : Relays [] before.log before after :=
  ⟨mute.log, mute.window, mute.listeners, mute.calls.trans (List.append_nil _).symm⟩

theorem Relays.trans (first : Relays told log before middle) {last : σ}
    (second : Relays more last middle after) : Relays (told ++ more) last before after := by
  refine ⟨second.log, second.window.trans first.window, second.listeners.trans first.listeners, ?_⟩
  rw [second.calls, first.calls, first.listeners, List.append_assoc, Listeners.messageCalls,
    Listeners.messageCalls, Listeners.messageCalls, List.flatMap_append]

theorem Relays.mute (relays : Relays told log before middle) (mute : Mute middle after) :
    Relays told log before after := by
  have both := relays.trans mute.relays
  rwa [List.append_nil, relays.log] at both

theorem Mute.then (mute : Mute before middle) (relays : Relays told log middle after) :
    Relays told log before after :=
  mute.relays.trans relays

theorem relays_tell (engine : Engine σ τ) (message : Message) :
    Relays [message] engine.log engine ((tell (.message message)).run engine).2 := by
  rw [run_tell]
  refine ⟨rfl, rfl, rfl, ?_⟩
  simp [messageCalls, Listeners.messageCalls, List.filterMap_append, List.filterMap_map]

/-- The log is replaced, and nothing else. -/
theorem relays_log (engine : Engine σ τ) (log : σ) : Relays [] log engine { engine with log } :=
  ⟨rfl, rfl, rfl, (List.append_nil _).symm⟩

section Merging

variable [MessageLog σ]

theorem relays_tellStored (engine : Engine σ τ) (id : String) :
    Relays (MessageLog.stored engine.log id) engine.log engine ((tellStored id).run engine).2 := by
  rw [tellStored, run_bind, run_onLog_query]
  simp only [MessageLog.stored]
  rcases MessageLog.findById engine.log id with _ | _ | message
  · exact (refl_of Mute engine).relays
  · exact (refl_of Mute engine).relays
  · exact relays_tell engine message

/-- Records were merged one after the other, and listeners told of them. -/
def Merged (records : List Message) (before after : Engine σ τ) : Prop :=
  Relays (MessageLog.news before.window records before.log)
    ((MessageLog.reconcileAll before.window records).runOn before.log).2 before after

theorem Mute.merged (mute : Mute before after) : Merged [] before after :=
  mute.relays

theorem Mute.thenMerged {records : List Message} (mute : Mute before middle)
    (merged : Merged records middle after) : Merged records before after := by
  have both := mute.then merged
  rwa [mute.log, mute.window] at both

theorem Merged.mute {records : List Message} (merged : Merged records before middle)
    (mute : Mute middle after) : Merged records before after :=
  Relays.mute merged mute

theorem merged_ingest (engine : Engine σ τ) (record : Message) :
    Merged [record] engine ((ingest record).run engine).2 := by
  simp only [Merged, ingest, run_bind, run_get, run_onLog, MessageLog.news,
    MessageLog.reconcileAll, LogM.runOn_bind]
  rcases (MessageLog.reconcile record engine.window).runOn engine.log with ⟨_ | outcome, log⟩
  · exact relays_log engine log
  · simp only [List.append_nil]
    split
    · exact (relays_log engine log).trans (relays_tellStored { engine with log } outcome.id)
    · exact relays_log engine log

theorem merged_takeResults {submitted applied : List String} {earlier results : List SyncResult}
    {summary : SyncSummary} (agree : SyncResult.Agree submitted applied earlier) :
    Merged ((SyncResult.counting submitted earlier results).map SyncResult.record) engine
      ((takeResults submitted results applied summary).run engine).2 := by
  -- A result that counts is merged and told of; one that does not leaves the engine as it is.
  induction results generalizing engine applied earlier summary with
  | nil => exact (refl_of Mute engine).merged
  | cons result results ih =>
      simp only [SyncResult.counting]
      by_cases counts : result.Counts submitted earlier
      · have free := agree.counts_iff.mp counts
        have first := merged_ingest engine result.record
        rw [run_takeResults_cons free]
        simp only [Merged, counts, reduceIte, List.map_cons, MessageLog.reconcileAll,
          MessageLog.news, LogM.runOn_bind, List.append_nil] at first ⊢
        rcases ran : (MessageLog.reconcile result.record engine.window).runOn engine.log with
          ⟨_ | outcome, merged⟩
        · rcases run_ingest ran with ⟨next, ingested, -⟩
          rw [ran, ingested] at first
          rw [ingested]
          exact first
        · rcases run_ingest ran with ⟨next, ingested, -⟩
          rw [ran, ingested] at first
          rw [ingested]
          have later : Merged _ next ((takeResults submitted results (result.localId :: applied)
            (noting summary result)).run next).2 := ih agree.counted
          rw [Merged, first.window, first.log] at later
          exact first.trans later
      · have passed := mt agree.counts_iff.mpr counts
        rw [Bool.not_eq_false] at passed
        simp only [counts, takeResults, passed, reduceIte]
        exact ih (agree.passed counts)

end Merging

/-! ## What a step stores -/

/-- The record that a chat message brings, unless it belongs to no conversation. -/
def chatRecord? (envelope : Envelope) (role : Role) (calendar : Moment) (chat : ChatMessage) :
    Option Message :=
  let chat :=
    if chat.conversationId = "" then
      { chat with conversationId := envelope.conversation?.getD "" }
    else chat
  if chat.conversationId = "" then none else some (chat.toMessage role calendar)

/-- The records that an envelope brings, in the order in which they are merged. -/
def arrivals (engine : Engine σ τ) (envelope : Envelope) : List Message :=
  match envelope.messageType with
  | .userMessage => envelope.fromBody ChatMessage.layout fun chat =>
      (chatRecord? envelope .user engine.clock.calendar chat).toList
  | .assistantMessage => envelope.fromBody ChatMessage.layout fun chat =>
      (chatRecord? envelope .assistant engine.clock.calendar chat).toList
  | .syncResponse => envelope.fromBody SyncResponse.layout fun response =>
      match (engine.coordinator.takeInFlight response.conversationId).1 with
      | some submitted => recordsOf response submitted
      | none => []
  | _ => []

/-- The records that an input brings. -/
def incoming (engine : Engine σ τ) : Input → List Message
  | .frame content =>
    match Envelope.decodeFrame content engine.fallbackConversation with
    | .ok envelope => engine.arrivals envelope
    | .error _ => []
  | _ => []

section Receiving

variable [MessageLog σ]

/-- The messages that a step tells listeners of: those of the merges, or the one that is written
here. -/
def announcements (engine : Engine σ τ) : Input → List Message
  | .command (.sendMessage conversationId contents _) =>
    if conversationId = "" then [] else
      match MessageLog.insert engine.log (engine.minted conversationId contents) with
      | .ok _ => [engine.minted conversationId contents]
      | .error _ => []
  | input => MessageLog.news engine.window (engine.incoming input) engine.log

theorem merged_takeChat (engine : Engine σ τ) (envelope : Envelope) (role : Role)
    (chat : ChatMessage) :
    Merged (chatRecord? envelope role engine.clock.calendar chat).toList engine
      ((takeChat envelope role chat).run engine).2 := by
  simp only [takeChat, chatRecord?]
  generalize (if chat.conversationId = "" then _ else chat : ChatMessage) = addressed
  split
  · exact (refl_of Mute engine).merged
  · let record := addressed.toMessage role engine.clock.calendar
    let noted : Engine σ τ := { engine with
      coordinator := engine.coordinator.noteActivity record.conversationId engine.clock.now }
    have notes : Mute engine noted := ⟨rfl, rfl, rfl, rfl⟩
    exact notes.thenMerged (merged_ingest noted record)

theorem merged_takeSyncResponse (engine : Engine σ τ) (response : SyncResponse) :
    Merged (match (engine.coordinator.takeInFlight response.conversationId).1 with
      | some submitted => recordsOf response submitted
      | none => []) engine ((takeSyncResponse response).run engine).2 := by
  simp only [takeSyncResponse, now, run_bind, run_get, run_pure, run_modify]
  let taken : Engine σ τ := { engine with
    coordinator := (engine.coordinator.takeInFlight response.conversationId).2 }
  have takes : Mute engine taken := ⟨rfl, rfl, rfl, rfl⟩
  generalize (engine.coordinator.takeInFlight response.conversationId).1 = submitted
  cases submitted with
  | none => exact takes.merged
  | some submitted =>
      refine takes.thenMerged ?_
      rw [run_bind]
      have merged : Merged (recordsOf response submitted) taken
          ((takeResults submitted response.results [] ⟨response.conversationId, 0, 0, 0⟩).run
            taken).2 := merged_takeResults SyncResult.agree_nil
      refine merged.mute ?_
      split
      · exact mute_failSync _ _ _ _
      · exact mute_completeSync _ _ _

theorem merged_withBody {ρ : Type} (envelope : Envelope) (layout : Layout ρ ρ)
    {act : ρ → EngineM σ τ Unit} {make : ρ → List Message}
    (merges : ∀ body, Merged (make body) engine ((act body).run engine).2) :
    Merged (envelope.fromBody layout make) engine
      ((withBody envelope layout act).run engine).2 := by
  simp only [withBody, Envelope.fromBody]
  cases envelope.bodyAs layout.codec with
  | ok body => exact merges body
  | error error => exact (refl_of Mute engine).merged

theorem merged_route (engine : Engine σ τ) (envelope : Envelope) :
    Merged (engine.arrivals envelope) engine ((route envelope).run engine).2 := by
  simp only [arrivals, route]
  cases envelope.messageType with
  | userMessage | assistantMessage =>
      exact merged_withBody _ _ fun chat => merged_takeChat _ _ _ _
  | syncResponse => exact merged_withBody _ _ fun response => merged_takeSyncResponse _ _
  | subscribeAck =>
      exact (mute_withBody _ _ (fun ack => mute_takeAck _ _) engine).merged
  | syncAvailable =>
      exact (mute_withBody _ _ mute_takeAvailable engine).merged
  | titleUpdate | generationComplete =>
      exact (mute_withBody _ _ (fun _ => mute_tell (by simp)) engine).merged
  | error => exact (mute_withBody _ _ (fun _ => mute_takeError _ _) engine).merged
  | _ => exact (refl_of Mute engine).merged

theorem merged_takeFrame (engine : Engine σ τ) (content : Packing.Bytes) :
    Merged (engine.incoming (.frame content)) engine ((takeFrame content).run engine).2 := by
  cases decoded : Envelope.decodeFrame content engine.fallbackConversation with
  | error reason =>
      rw [run_takeFrame_of_refused decoded, incoming, decoded]
      exact (refl_of Mute engine).merged
  | ok envelope =>
      let seen : Engine σ τ := { engine with stanzas := engine.stanzas.observe envelope.stanzaId }
      have sees : Mute engine seen := ⟨rfl, rfl, rfl, rfl⟩
      rw [run_takeFrame_of_decoded decoded, incoming, decoded]
      exact sees.thenMerged (merged_route seen envelope)

end Receiving

section Steps

variable [MessageLog σ] [Transport τ]

/-- The log after the input of a step was taken. -/
def logAfter (engine : Engine σ τ) : Input → σ
  | .command (.sendMessage conversationId contents _) =>
    if conversationId = "" then engine.log else
      match MessageLog.insert engine.log (engine.minted conversationId contents) with
      | .ok log => log
      | .error _ => engine.log
  | input => ((MessageLog.reconcileAll engine.window (engine.incoming input)).runOn engine.log).2

theorem relays_sendMessage (engine : Engine σ τ) (conversationId contents : String)
    (waiter : Waiter) :
    let input := Input.command (.sendMessage conversationId contents waiter)
    Relays (engine.announcements input) (engine.logAfter input) engine
      ((sendMessage conversationId contents).run engine).2 := by
  simp only [sendMessage, announcements, logAfter]
  split
  · exact (refl_of Mute engine).relays
  · rw [run_bind, run_now, run_bind, run_mint, run_bind, run_onLog_modify]
    let message := engine.minted conversationId contents
    let named : Engine σ τ := { engine with localIds := engine.localIds ++ [message.id] }
    have names : Mute engine named := ⟨rfl, rfl, rfl, rfl⟩
    cases MessageLog.insert engine.log message with
    | error error => exact names.relays
    | ok log =>
        let inserted : Engine σ τ := { named with
          log
          coordinator := (engine.coordinator.track conversationId engine.clock.now).noteActivity
            conversationId engine.clock.now }
        have inserts : Relays [] log engine inserted :=
          ⟨rfl, rfl, rfl, (List.append_nil _).symm⟩
        have sends : Always Mute (do
            if ← isConnected then
              sendRecord ChatMessage.layout conversationId .userMessage (.ofMessage message)
            return .ok message : EngineM σ τ (Except EngineError Message)) := by
          refine .bind mute_isConnected fun connected => ?_
          split
          · exact .bind (mute_sendRecord _ _ _ _) fun _ => .pure _
          · exact .pure _
        exact (inserts.trans (relays_tell inserted message)).mute (sends _)

theorem relays_take (engine : Engine σ τ) (input : Input) :
    Relays (engine.announcements input) (engine.logAfter input) engine
      ((take input).run engine).2 := by
  cases input with
  | command command =>
      cases command with
      | sendMessage conversationId contents waiter =>
          exact (relays_sendMessage engine conversationId contents waiter).mute (mute_reply _ _ _)
      | _ =>
          refine (mute_take ?_ engine).relays
          exact trivial
  | frame content => exact merged_takeFrame engine content
  | _ =>
      refine (mute_take ?_ engine).relays
      exact trivial

/-- What a step does to the log, and what it tells listeners of messages. -/
theorem relays_step (engine : Engine σ τ) (input : Input) :
    Relays (engine.announcements input) (engine.logAfter input) engine
      ((step input).run engine).2 :=
  (relays_take engine input).mute (related_step_of_take always_noticeBrokenLink input engine)

end Steps

/-! ## Announcing what a step stores -/

theorem pairwise_recordsOf (response : SyncResponse) (submitted : List String) :
    (recordsOf response submitted).Pairwise fun first second =>
      first.localId.isSome ∧ first.localId ≠ second.localId := by
  have distinct : ((SyncResult.counting submitted [] response.results).map
    SyncResult.localId).Nodup := SyncResult.nodup_counting
  rw [List.Nodup, List.pairwise_map] at distinct
  rw [recordsOf, List.pairwise_map]
  refine distinct.imp fun different => ⟨rfl, fun same => different ?_⟩
  exact Option.some.inj same

theorem pairwise_fromBody {ρ : Type} (envelope : Envelope) (layout : Layout ρ ρ)
    {make : ρ → List Message} {related : Message → Message → Prop}
    (pairwise : ∀ body, (make body).Pairwise related) :
    (envelope.fromBody layout make).Pairwise related := by
  simp only [Envelope.fromBody]
  split
  · exact pairwise _
  · exact .nil

/-- An input brings at most one record of each local id, or one record. -/
theorem pairwise_incoming (engine : Engine σ τ) (input : Input) :
    (engine.incoming input).Pairwise fun first second =>
      first.localId.isSome ∧ first.localId ≠ second.localId := by
  cases input with
  | frame content =>
      simp only [incoming]
      split
      · next envelope _ =>
          simp only [arrivals]
          split
          · refine pairwise_fromBody _ _ fun chat => ?_
            cases chatRecord? envelope .user engine.clock.calendar chat <;> simp
          · refine pairwise_fromBody _ _ fun chat => ?_
            cases chatRecord? envelope .assistant engine.clock.calendar chat <;> simp
          · refine pairwise_fromBody _ _ fun response => ?_
            split
            · exact pairwise_recordsOf _ _
            · exact .nil
          · exact .nil
      · exact .nil
  | _ => exact .nil

/-- A request to write inserts the message and announces it, or does neither. -/
theorem insert_cases (engine : Engine Store τ) (conversationId contents : String)
    (waiter : Waiter) :
    let input := Input.command (.sendMessage conversationId contents waiter)
    engine.logAfter input = engine.log ∧ engine.announcements input = [] ∨
      ∃ message, engine.log.insert message = .ok (engine.logAfter input) ∧
        engine.announcements input = [message] := by
  simp only [logAfter, announcements]
  split
  · exact Or.inl ⟨rfl, rfl⟩
  · cases inserts : MessageLog.insert engine.log (engine.minted conversationId contents) with
    | error error => exact Or.inl ⟨rfl, rfl⟩
    | ok log => exact Or.inr ⟨_, inserts, rfl⟩

/-- All that an input stores is announced, if its records are audible when their turn comes. -/
theorem announces_logAfter {engine : Engine Store τ} (unique : engine.log.UniqueKeys)
    (input : Input)
    (audible : ∀ record middle, Store.Turn engine.window (engine.incoming input) engine.log record
      middle → middle.Audible engine.window record) :
    Store.Announces engine.log (engine.logAfter input) (engine.announcements input) := by
  have merges := Store.announces_reconcileAll unique audible
  cases input with
  | command command =>
      cases command with
      | sendMessage conversationId contents waiter =>
          rcases insert_cases engine conversationId contents waiter with
            ⟨sameLog, none⟩ | ⟨message, inserts, one⟩
          · rw [sameLog]
            exact Store.announces_self _ _
          · rcases Store.insert_eq_ok.mp inserts with ⟨-, rows⟩
            rw [rows, one]
            intro row mem new
            refine ⟨message, List.mem_singleton.mpr rfl, Or.inr ?_⟩
            exact List.mem_singleton.mp ((List.mem_append.mp mem).resolve_left new)
      | _ => exact merges
  | _ => exact merges

/-- If the rows are the same after an input, nothing is announced. -/
theorem announcements_eq_nil {engine : Engine Store τ} (unique : engine.log.UniqueKeys)
    (input : Input)
    (same : ∀ row, row ∈ (engine.logAfter input).rows ↔ row ∈ engine.log.rows) :
    engine.announcements input = [] := by
  have merges (still : ∀ row, row ∈ ((MessageLog.reconcileAll engine.window
      (engine.incoming input)).runOn engine.log).2.rows ↔ row ∈ engine.log.rows) :
      MessageLog.news engine.window (engine.incoming input) engine.log = [] :=
    Store.news_eq_nil unique (engine.pairwise_incoming input) still
  cases input with
  | command command =>
      cases command with
      | sendMessage conversationId contents waiter =>
          rcases insert_cases engine conversationId contents waiter with
            ⟨-, none⟩ | ⟨message, inserts, -⟩
          · exact none
          · rcases Store.insert_eq_ok.mp inserts with ⟨free, rows⟩
            have mem : Row.ofMessage message ∈ engine.log.rows := by
              rw [← same, rows]
              exact List.mem_append_right _ (List.mem_singleton.mpr rfl)
            exact absurd (Or.inl rfl) (free _ mem)
      | _ => exact merges same
  | _ => exact merges same

/-- A step tells the listeners of its announcements and of no other messages. Every row that is new
or differs after the step is announced, if each record that the step merges is audible when its turn
comes; a record whose turn comes is announced as a whole exactly if it is audible. If the log can be
read and the times of the records have years of four digits, they are audible exactly if no other
row refers to an id that gives way. If the rows are the same as before, no listener is called about
a message. -/
theorem announces_step [Transport τ] {engine : Engine Store τ} (unique : engine.log.UniqueKeys)
    (input : Input) :
    let left := ((step input).run engine).2
    let told := engine.announcements input
    let records := engine.incoming input
    left.messageCalls = engine.messageCalls ++ engine.listeners.messageCalls told ∧
      ((∀ record middle, Store.Turn engine.window records engine.log record middle →
          middle.Audible engine.window record) → Store.Announces engine.log left.log told) ∧
      (∀ record middle, Store.Turn engine.window records engine.log record middle →
        (Store.Announces middle ((MessageLog.reconcile record engine.window).runOn middle).2
            (MessageLog.news engine.window [record] middle) ↔
          middle.Audible engine.window record)) ∧
      (engine.log.Readable → (∀ record ∈ records, record.Storable) →
        ∀ record middle, Store.Turn engine.window records engine.log record middle →
          (middle.Audible engine.window record ↔ middle.Unreferred engine.window record)) ∧
      ((∀ row, row ∈ left.log.rows ↔ row ∈ engine.log.rows) →
        left.messageCalls = engine.messageCalls) := by
  intro left told records
  have relays : Relays told (engine.logAfter input) engine left := relays_step engine input
  refine ⟨relays.calls, ?_, ?_, ?_, ?_⟩
  · intro audible
    rw [relays.log]
    exact announces_logAfter unique input audible
  · rintro record middle ⟨earlier, later, -, ran⟩
    exact Store.announces_iff_audible (unique.reconcileAll ran)
  · intro readable storable record middle turn
    exact readable.audible_iff_of_turn unique storable turn
  · intro same
    rw [relays.log] at same
    have silent : told = [] := announcements_eq_nil unique input same
    rw [relays.calls, silent]
    exact List.append_nil _

/-- The engine once someone listens to the messages of the conversation. -/
def listening (first : Engine Store ScriptedTransport) : Engine Store ScriptedTransport :=
  { first with listeners := (first.listeners.register (.messages "c1")).2 }

/-- The server's version of the record that waits to be sent. -/
def returned : ChatMessage :=
  ⟨"m1", "c1", "Hi", some .user, some "l1", some 2, none, some default, some default⟩

/-- The frame that brings it. -/
def delivery : Packing.Bytes :=
  (Envelope.ofRecord ChatMessage.layout "c1" .userMessage returned).frame

/-- The record takes the server id, and the listener is called about it. -/
theorem announces_step_delivery : ∃ first,
    start Settings.standard {} Store.twoConversations ⟨0, default⟩ = .ok first ∧
    let left := ((step (.frame delivery)).run (listening first)).2
    ∃ message, Store.Announces Store.twoConversations left.log [message] ∧
      left.messageCalls = [(0, message)] := by
  let record := returned.toMessage .user default
  have starts : (start Settings.standard ({} : ScriptedTransport) Store.twoConversations
      ⟨0, default⟩).toOption.map (fun first =>
        let engine := listening first
        (engine.window, engine.incoming (.frame delivery), engine.listeners, engine.messageCalls)) =
      some (.standard, [record], ⟨⟨[("c1", [0])]⟩, .empty, [], 1⟩, []) := by decide +kernel
  rcases exists_of_toOption_map starts with ⟨first, started, same⟩
  simp only [Prod.mk.injEq] at same
  rcases same with ⟨window, incoming, listeners, calls⟩
  have log : (listening first).log = Store.twoConversations := (fresh_of_start started).log
  have unique : (listening first).log.UniqueKeys := log ▸ Store.twoConversations_unique
  have told : MessageLog.news .standard [record] Store.twoConversations =
      [record.acknowledged] := by decide +kernel
  have announced : (listening first).announcements (.frame delivery) = [record.acknowledged] := by
    change MessageLog.news (listening first).window ((listening first).incoming _)
      (listening first).log = _
    rw [window, incoming, log, told]
  have storable : ∀ other ∈ [record], other.Storable :=
    List.forall_mem_singleton.mpr ⟨by decide +kernel, by decide +kernel⟩
  rcases announces_step unique (.frame delivery) with ⟨heard, audible, -, unreferred, -⟩
  rw [announced, log, window, incoming] at audible
  rw [log, window, incoming] at unreferred
  rw [announced, listeners, calls] at heard
  refine ⟨first, started, record.acknowledged, audible ?_, heard⟩
  intro other middle turn
  rw [unreferred Store.twoConversations_readable storable other middle turn]
  rcases Store.turn_singleton.mp turn with ⟨rfl, rfl⟩
  intro move _ row mem refers
  have unreferring : ∀ row ∈ Store.twoConversations.rows, row.previousId = none := by
    decide +kernel
  rw [unreferring row mem] at refers
  cases refers

end Engine

/-- A log with a record that waits to be sent and a reply that refers to it. -/
def Store.replied : Store :=
  ⟨[Row.ofMessage { Message.canonical "l1" "c1" 1 .user "Hi" default with
      localId := some "l1", serverId := none, syncStatus := .pending },
    Row.ofMessage { Message.canonical "m9" "c1" 1 .assistant "Hello" default with
      previousId := some "l1" }], schemaVersion⟩

theorem Store.replied_unique : replied.UniqueKeys :=
  List.pairwise_pair.mpr (by decide +kernel)

theorem Store.replied_readable : replied.Readable := by
  intro row mem
  simp only [replied, List.mem_cons, List.not_mem_nil, or_false] at mem
  rcases mem with rfl | rfl
  · exact readable_ofMessage ⟨by decide +kernel, by decide +kernel⟩
  · exact readable_ofMessage ⟨by decide +kernel, by decide +kernel⟩

/-- The reply refers to the record by its server id afterwards, and the listener is not told. -/
theorem Engine.not_announces_step :
    ¬∀ (engine : Engine Store ScriptedTransport) (input : Input),
      engine.log.UniqueKeys → engine.log.Readable →
        let left := ((step input).run engine).2
        ∀ row ∈ left.log.rows, row ∉ engine.log.rows → ∀ message, row.Holds message →
          ∀ listener ∈ engine.listeners.called (.message message),
            (listener, message) ∈ left.messageCalls := by
  intro announces
  have runs : (start Settings.standard ({} : ScriptedTransport) Store.replied
      ⟨0, default⟩).toOption.map (fun first =>
        let left := ((step (.frame delivery)).run (listening first)).2
        left.log.rows.filterMap (fun row => if row ∈ Store.replied.rows then none else
          row.toMessage.toOption.map fun message =>
            (row.id, (listening first).listeners.called (.message message),
              left.messageCalls.contains (0, message)))) =
      some [("m1", [0], true), ("m9", [0], false)] := by
    decide +kernel
  rcases exists_of_toOption_map runs with ⟨first, started, same⟩
  have log : (listening first).log = Store.replied := (fresh_of_start started).log
  have lost : ("m9", [0], false) ∈ _ := same.symm ▸ List.mem_cons_of_mem _ List.mem_cons_self
  rcases List.mem_filterMap.mp lost with ⟨row, mem, image⟩
  split at image
  · cases image
  next new =>
  rcases Option.map_eq_some_iff.mp image with ⟨message, read, facts⟩
  simp only [Prod.mk.injEq] at facts
  rcases facts with ⟨-, called, untold⟩
  have calls : (0, message) ∈ ((step (.frame delivery)).run (listening first)).2.messageCalls := by
    refine announces (listening first) (.frame delivery) (log ▸ Store.replied_unique)
      (log ▸ Store.replied_readable) row mem (log ▸ new) message ?_ 0 ?_
    · exact Row.toMessage_eq_ok.mp (except_eq_ok_of_toOption read)
    · rw [called]
      exact List.mem_singleton.mpr rfl
  rw [List.contains_iff_mem.mpr calls] at untold
  cases untold

end MessageSync
