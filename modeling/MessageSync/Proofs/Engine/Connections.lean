import MessageSync.Proofs.Engine.Callers
import MessageSync.Proofs.Engine.Frames

/-!
# What happens around the connection

Relations between engines that are about the connection, the stanza numbers and the registry alone:
the log, the schedules and what is put out may change as they like. What a command, a frame and a
timer do to the connection and the registry is then all that such a relation has to allow.
-/

namespace MessageSync

namespace Engine

variable {σ τ : Type}

/-- Nothing differs that is about the connection, the stanza numbers and the registry. -/
def Aside (before after : Engine σ τ) : Prop :=
  after = { before with
    log := after.log
    coordinator := after.coordinator
    retryAt := after.retryAt
    status := after.status
    localIds := after.localIds
    outputs := after.outputs }

/-- The engine once an input is known: the stanza number of a frame that can be read is noted, and
an attempt to connect that is over is none any more. -/
def heard (input : Input) (found : Engine σ τ) : Engine σ τ :=
  match input with
  | .frame content =>
    match Envelope.decodeFrame content found.fallbackConversation with
    | .ok envelope => { found with stanzas := found.stanzas.observe envelope.stanzaId }
    | .error _ => found
  | .openingOver => { found with opening := none }
  | _ => found

/-- The connection is closed explicitly: somebody asks for that, and it is not closed already. -/
def Closes (input : Input) (found : Engine σ τ) : Prop :=
  (∃ waiter, input = .command (.disconnect waiter)) ∧ found.machine.state ≠ .disconnected

theorem heard_of_decoded {found : Engine σ τ} {content : Packing.Bytes} {envelope : Envelope}
    (decoded : Envelope.decodeFrame content found.fallbackConversation = .ok envelope) :
    heard (.frame content) found =
      { found with stanzas := found.stanzas.observe envelope.stanzaId } := by
  simp only [heard, decoded]

theorem same_heard (input : Input) (found : Engine σ τ) :
    heard input found = { found with
      stanzas := (heard input found).stanzas
      opening := (heard input found).opening } := by
  simp only [heard]
  split
  · split <;> rfl
  · rfl
  · rfl

theorem opening_heard {input : Input} {found : Engine σ τ} (waits : input ≠ .openingOver) :
    (heard input found).opening = found.opening := by
  simp only [heard]
  split
  · split <;> rfl
  · exact absurd rfl waits
  · rfl

variable [Transport τ]

/-- A preorder that is about the connection, the stanza numbers and the registry alone, and allows
that something is sent. -/
class Linking (related : Engine σ τ → Engine σ τ → Prop) : Prop extends
    IsPreorder (Engine σ τ) related where
  dispatches : ∀ envelope : Envelope,
    Always related (dispatch envelope : EngineM σ τ (Except EngineError Int64))
  aside : ∀ before after : Engine σ τ, Aside before after → related before after

variable {related : Engine σ τ → Engine σ τ → Prop} [Linking related] {engine found : Engine σ τ}

instance : Mild related where
  outward before after outward := by
    refine Linking.aside before after ?_
    rw [outward.same]
    rfl
  dispatches := Linking.dispatches
  tame _ _ _ := Linking.aside _ _ rfl

/-! ## Effects of the machine -/

theorem always_performs {effect : ConnectionEffect}
    (closes : effect = .closeTransport →
      Always related (perform .closeTransport : EngineM σ τ Unit))
    (abandons : effect = .abandonPending → ∀ engine : Engine σ τ,
      related engine { engine with
        registry := (engine.registry.abandonPending .connectionLost).2 }) :
    Always related (perform effect : EngineM σ τ Unit) := by
  cases effect with
  | openTransport => exact .pure ()
  | closeTransport => exact closes rfl
  | scheduleRetry | cancelRetry => exact fun engine => Linking.aside _ _ rfl
  | handshake => exact always_sendHandshake
  | resubscribe => exact .bind .get fun _ => .forM fun _ _ => always_sendSubscribe _
  | abandonPending =>
      intro engine
      refine trans_of related (abandons rfl engine) (Linking.aside _ _ ?_)
      rw [same_abandonPending]
      rfl
  | syncAll =>
      exact .bind always_now fun _ =>
        always_onCoordinator fun _ => SyncCoordinator.hushed_triggerAll

omit [Linking related] in
theorem related_handle [IsPreorder _ related] {input : ConnectionInput}
    (moves : related engine (engine.moved (engine.machine.handle input).1))
    (performs : ∀ effect ∈ (engine.machine.handle input).2,
      Always related (perform effect : EngineM σ τ Unit)) :
    related engine ((handle input).run engine).2 := by
  rw [run_handle rfl]
  exact trans_of related moves (Always.forM performs _)

/-- What the machine is told is done without opening the transport, or the transport is opened with
nothing else done than to move the machine on and to cancel a retry. -/
theorem apply_cases (engine : Engine σ τ) (input : ConnectionInput) :
    .openTransport ∉ (engine.machine.handle input).2 ∧
        ((apply input).run engine).2 = ((handle input).run engine).2 ∨
      .openTransport ∈ (engine.machine.handle input).2 ∧
        ∃ tried : Engine σ τ, tried = { engine with
            machine := tried.machine
            status := tried.status
            retryAt := tried.retryAt } ∧
          tried.machine.Underway ∧ ((apply input).run engine).2 = (openTransport.run tried).2 := by
  have opening (opens : .openTransport ∈ (engine.machine.handle input).2) :=
    ConnectionMachine.handle_of_opens opens
  cases handled : engine.machine.handle input with
  | mk next effects =>
  rw [handled] at opening
  by_cases opens : .openTransport ∈ effects
  · right
    rw [apply_of_handle_opening handled (List.contains_iff_mem.mpr opens)]
    rcases opening opens with ⟨underway, rfl | rfl⟩
    · exact ⟨opens, engine.moved next, rfl, underway, rfl⟩
    · exact ⟨opens, { engine.moved next with retryAt := none }, rfl, underway, rfl⟩
  · left
    have noOpening : effects.contains .openTransport = false := by simpa using opens
    exact ⟨opens, by rw [apply_of_handle handled noOpening, run_handle handled]⟩

theorem apply_of_ends {input : ConnectionInput}
    (ends : input = .disconnectRequested ∨ input = .closed ∨ input = .openFailed) :
    ((apply input).run engine).2 = ((handle input).run engine).2 := by
  rcases apply_cases engine input with ⟨-, same⟩ | ⟨opens, -⟩
  · exact same
  · rcases ConnectionMachine.input_of_opens opens with rfl | rfl | rfl <;> simp at ends

/-! ## Opening the transport -/

section Opening

variable {transport : τ}

omit [Linking related]

/-- Once the transport is open the machine is connected, and the server is greeted. -/
theorem run_openTransport_of_opened (underway : engine.machine.Underway)
    (opened : Transport.connect engine.transport engine.url = (.opened, transport)) :
    ∃ (machine : ConnectionMachine) (status : EngineStatus), machine.isConnected = true ∧
      (openTransport.run engine).2 = (([.handshake, .resubscribe, .syncAll].forM perform).run
        { engine with transport, machine, status }).2 := by
  rcases underway.handle_opened with ⟨next, handled, connected⟩
  let linked : Engine σ τ := ((setLastError none).run { engine with transport }).2
  have handled : linked.machine.handle .opened = _ := handled
  refine ⟨next, (linked.moved next).status, connected, ?_⟩
  simp only [openTransport, run_bind, run_get, run_set, opened]
  change ((handle .opened).run linked).2 = _
  rw [run_handle handled]
  rfl

theorem run_openTransport_of_failed {error : TransportError}
    (failed : Transport.connect engine.transport engine.url = (.failed error, transport)) :
    (openTransport.run engine).2 = ((openFailed error.message).run { engine with transport }).2 := by
  simp only [openTransport, run_bind, run_get, run_set, failed]

theorem run_openTransport_of_unanswered
    (unanswered : Transport.connect engine.transport engine.url = (.unanswered, transport)) :
    (openTransport.run engine).2 = { engine with
      transport
      opening := some ⟨engine.clock.now + engine.connectTimeout, none⟩ } := by
  simp only [openTransport, run_bind, run_get, run_set, unanswered]
  rfl

end Opening

/-! ## Commands, frames and timers -/

variable [MessageLog σ]

theorem always_handleCommand {command : Command}
    (applies : ∀ input, command.told? = some input →
      Always related (apply input : EngineM σ τ Unit))
    (begins : ∀ conversationId waiter, command = .subscribe conversationId waiter →
      conversationId ≠ "" → ∀ (engine : Engine σ τ) (instant : Instant),
        related engine { engine with
          registry := (engine.registry.begin conversationId waiter instant).2 })
    (forgets : ∀ conversationId waiter, command = .unsubscribe conversationId waiter →
      ∀ engine : Engine σ τ, related engine { engine with
        registry := (engine.registry.unsubscribe conversationId).2.2 }) :
    Always related (handleCommand command : EngineM σ τ Unit) := by
  refine always_handleCommand_of applies begins forgets
    (fun _ => always_release fun _ => Linking.aside _ _ rfl) ?_ ?_
  · rintro conversationId contents waiter rfl
    refine .bind (always_sendMessage (fun _ => Linking.aside _ _ rfl) fun _ _ =>
      Linking.aside _ _ rfl) fun result => ?_
    exact fun _ => Linking.aside _ _ rfl
  · rintro conversationId waiter rfl
    exact always_syncNow _ _

/-- What a frame does after its stanza number was noted: an acknowledgement changes the registry. -/
theorem related_takeFrame {content : Packing.Bytes}
    (acknowledges : ∀ envelope ack,
      Envelope.decodeFrame content found.fallbackConversation = .ok envelope →
      envelope.messageType = .subscribeAck →
      envelope.bodyAs SubscribeAck.layout.codec = .ok ack →
      ∀ (engine : Engine σ τ) (instant : Instant), related engine { engine with
        registry := (engine.registry.acknowledge (ack.addressed envelope) instant).2.2 }) :
    related (heard (.frame content) found) ((takeFrame content).run found).2 := by
  cases decoded : Envelope.decodeFrame content found.fallbackConversation with
  | error reason =>
      rw [run_takeFrame_of_refused decoded]
      simp only [heard, decoded]
      exact refl_of related found
  | ok envelope =>
      rw [run_takeFrame_of_decoded decoded, heard_of_decoded decoded]
      exact always_route (fun _ _ _ => Linking.aside _ _ rfl)
        (fun isAck ack read => acknowledges envelope ack decoded isAck read) _

theorem always_endTimer {firedAt : Instant}
    (expires : ∀ engine : Engine σ τ, related engine { engine with
      registry := (engine.registry.expire firedAt).2.2 }) :
    Always related (finishTimer firedAt : EngineM σ τ Unit) :=
  always_finishTimer (always_onRegistry expires) fun _ _ =>
    always_runSync (fun _ _ _ => Linking.aside _ _ rfl) _

/-! ## Inputs -/

/-- The engine when the machine was told all that the input says about the connection. -/
def told (input : Input) (found : Engine σ τ) : Engine σ τ :=
  match input with
  | .timer => found.retried
  | _ => ((take input).run found).2

/-- The input makes the engine open its transport, once the machine was moved on. -/
structure Attempts (input : Input) (found tried : Engine σ τ) : Prop where
  asks : input = .command .connect ∨ input = .command .networkOnline ∨ input = .timer
  same : tried = { found with
    machine := tried.machine
    status := tried.status
    retryAt := tried.retryAt }
  underway : tried.machine.Underway
  opens : found.told input = (openTransport.run tried).2

omit [Linking related] in
theorem Attempts.heard {input : Input} {tried : Engine σ τ} (attempts : Attempts input found tried) :
    found.heard input = found := by
  rcases attempts.asks with rfl | rfl | rfl <;> rfl

/-- The machine may be told anything but that the transport is open. -/
def AllowsMoves (related : Engine σ τ → Engine σ τ → Prop) : Prop :=
  ∀ (engine : Engine σ τ) (told : ConnectionInput), told ≠ .opened →
    related engine (engine.moved (engine.machine.handle told).1)

/-- What waits for an acknowledgement may be given up. -/
def AllowsLoss (related : Engine σ τ → Engine σ τ → Prop) : Prop :=
  ∀ engine : Engine σ τ, related engine { engine with
    registry := (engine.registry.abandonPending .connectionLost).2 }

/-- What an input may do to the connection and the registry, the relation allows. -/
structure Allows (related : Engine σ τ → Engine σ τ → Prop) (input : Input)
    (found : Engine σ τ) : Prop where
  moves : AllowsMoves related
  loses : Ends input → AllowsLoss related
  closes : Closes input found → Always related (perform .closeTransport : EngineM σ τ Unit)
  begins : ∀ conversationId waiter, input = .command (.subscribe conversationId waiter) →
    conversationId ≠ "" → ∀ (engine : Engine σ τ) (instant : Instant), related engine
      { engine with registry := (engine.registry.begin conversationId waiter instant).2 }
  forgets : ∀ conversationId waiter, input = .command (.unsubscribe conversationId waiter) →
    ∀ engine : Engine σ τ, related engine
      { engine with registry := (engine.registry.unsubscribe conversationId).2.2 }
  acknowledges : ∀ content envelope ack, input = .frame content →
    Envelope.decodeFrame content found.fallbackConversation = .ok envelope →
    envelope.messageType = .subscribeAck →
    envelope.bodyAs SubscribeAck.layout.codec = .ok ack →
    ∀ (engine : Engine σ τ) (instant : Instant), related engine { engine with
      registry := (engine.registry.acknowledge (ack.addressed envelope) instant).2.2 }
  expires : ∀ (engine : Engine σ τ) (instant : Instant), related engine
    { engine with registry := (engine.registry.expire instant).2.2 }
  waits : ∀ (engine : Engine σ τ) (attempt : Opening), engine.opening.isSome = true →
    related engine { engine with opening := some attempt }
  hangsUp : found.opening.isSome = true → related { found with opening := none }
    { found with opening := none, transport := Transport.disconnect found.transport }

section Machine

omit [MessageLog σ]

theorem related_handles {told : ConnectionInput} (moves : AllowsMoves related)
    (other : told ≠ .opened)
    (loses : told = .disconnectRequested ∨ told = .closed → AllowsLoss related)
    (closes : told = .disconnectRequested → engine.machine.state ≠ .disconnected →
      Always related (perform .closeTransport : EngineM σ τ Unit)) :
    related engine ((handle told).run engine).2 := by
  refine related_handle (moves engine told other) fun effect mem => always_performs ?_ ?_
  · rintro rfl
    rcases ConnectionMachine.input_of_closes mem with ⟨asked, open_⟩ | ⟨opened, -⟩
    · exact closes asked open_
    · exact absurd opened other
  · rintro rfl
    exact loses (ConnectionMachine.input_of_abandons mem)

theorem related_apply_or_opens {told : ConnectionInput} (engine : Engine σ τ)
    (moves : AllowsMoves related)
    (asks : told = .connectRequested ∨ told = .networkOnline ∨ told = .retryDue) :
    related engine ((apply told).run engine).2 ∨
      ∃ tried : Engine σ τ, tried = { engine with
          machine := tried.machine
          status := tried.status
          retryAt := tried.retryAt } ∧
        tried.machine.Underway ∧ ((apply told).run engine).2 = (openTransport.run tried).2 := by
  rcases apply_cases engine told with ⟨-, same⟩ | ⟨-, opens⟩
  · left
    rw [same]
    rcases asks with rfl | rfl | rfl <;> exact related_handles moves (by simp) (by simp) (by simp)
  · exact Or.inr opens

theorem always_openFailed_of_moves (moves : AllowsMoves related) (reason : String) :
    Always related (openFailed reason : EngineM σ τ Unit) :=
  .bind (.outward (outward_setLastError _)) fun _ => .bind
    (fun _ => related_handles moves (by simp) (by simp) (by simp)) fun _ => .pure ()

/-- A connection that is found broken is given up. -/
theorem always_applyClosed (moves : AllowsMoves related) (loses : AllowsLoss related) :
    Always related (apply .closed : EngineM σ τ Unit) := by
  intro engine
  rw [apply_of_ends (by simp)]
  exact related_handles moves (by simp) (fun _ => loses) (by simp)

theorem always_notice (moves : AllowsMoves related) (loses : AllowsLoss related) :
    Always related (noticeBrokenLink : EngineM σ τ Unit) := by
  refine .bind always_isConnected fun connected => .bind (.bind .get fun _ => .pure _) fun up => ?_
  split
  · exact always_applyClosed moves loses
  · exact .pure ()

end Machine

omit [Linking related] [MessageLog σ] in
theorem linked_noticeBrokenLink
    (connected : (noticeBrokenLink.run engine).2.machine.isConnected = true) :
    Transport.isConnected (noticeBrokenLink.run engine).2.transport = true := by
  simp only [noticeBrokenLink, isConnected, linkUp, run_bind, run_get, run_pure] at connected ⊢
  by_cases broken : (engine.machine.isConnected && !Transport.isConnected engine.transport) = true
  · simp only [broken, reduceIte] at connected
    rw [Bool.and_eq_true] at broken
    cases connected.symm.trans (lost_closed broken.1).apart
  · simp only [broken, Bool.false_eq_true, reduceIte, run_pure] at connected ⊢
    simpa [connected] using broken

omit [Linking related] in
/-- A step that leaves the machine connected leaves the link up. -/
theorem linked_of_connected_step {input : Input}
    (apart : ((step input).run found).2.opening.isSome = true →
      ((step input).run found).2.machine.isConnected = false)
    (connected : ((step input).run found).2.machine.isConnected = true) :
    Transport.isConnected ((step input).run found).2.transport = true := by
  rw [run_step] at *
  split at connected
  · next answered =>
      rw [if_pos answered]
      exact linked_noticeBrokenLink connected
  · next waits =>
      rw [if_neg waits] at apart
      cases connected.symm.trans (apart (Option.isSome_iff_ne_none.mpr (by simpa using waits)))

section Allows

variable {input : Input}

theorem Allows.finishTimer (allows : Allows related input found) (firedAt : Instant) :
    Always related (finishTimer firedAt : EngineM σ τ Unit) :=
  always_endTimer fun engine => allows.expires engine firedAt

theorem Allows.goOnWithTimer (allows : Allows related input found) (instant : Instant) :
    Always related (goOnWithTimer instant : EngineM σ τ Unit) := by
  refine .get_bind fun engine => ?_
  cases opening : engine.opening with
  | some attempt => exact allows.waits engine _ (by simp [opening])
  | none => exact allows.finishTimer _ engine

theorem Allows.command {command : Command} (allows : Allows related (.command command) found) :
    related found ((handleCommand command).run found).2 ∨
      ∃ tried, Attempts (.command command) found tried := by
  have handles (apart : command.told? = none) :
      related found ((handleCommand command).run found).2 :=
    always_handleCommand (by simp [apart])
      (fun conversationId waiter same => allows.begins conversationId waiter (by rw [same]))
      (fun conversationId waiter same => allows.forgets conversationId waiter (by rw [same])) found
  cases command with
  | connect =>
      rcases related_apply_or_opens found allows.moves (Or.inl rfl) with
        taken | ⟨tried, same, underway, opens⟩
      · exact Or.inl taken
      · exact Or.inr ⟨tried, Or.inl rfl, same, underway, opens⟩
  | networkOnline =>
      rcases related_apply_or_opens found allows.moves (Or.inr (Or.inl rfl)) with
        taken | ⟨tried, same, underway, opens⟩
      · exact Or.inl taken
      · exact Or.inr ⟨tried, Or.inr (Or.inl rfl), same, underway, opens⟩
  | disconnect waiter =>
      have applied : related found ((apply .disconnectRequested).run found).2 := by
        rw [apply_of_ends (by simp)]
        exact related_handles allows.moves (by simp) (fun _ => allows.loses (Or.inl ⟨waiter, rfl⟩))
          fun _ open_ => allows.closes ⟨⟨waiter, rfl⟩, open_⟩
      have answers : Always related (reply waiter (.disconnected (.ok ())) : EngineM σ τ Unit) :=
        always_reply (by simp)
      exact Or.inl (trans_of related applied (answers _))
  | _ => exact Or.inl (handles rfl)

theorem Allows.timer (allows : Allows related .timer found) :
    related found (onTimer.run found).2 ∨ ∃ tried, Attempts .timer found tried ∧
      related found.retried (onTimer.run found).2 := by
  rw [run_onTimer_eq_retried]
  have went := allows.goOnWithTimer found.clock.now found.retried
  by_cases due : found.retryAt.any (· ≤ found.clock.now) = true
  · have retriedEq : found.retried = ((apply .retryDue).run { found with retryAt := none }).2 := by
      simp only [retried, due, if_true]
    rcases related_apply_or_opens { found with retryAt := none } allows.moves
      (Or.inr (Or.inr rfl)) with taken | ⟨tried, same, underway, opens⟩
    · left
      rw [← retriedEq] at taken
      have unarmed : related found { found with retryAt := none } := Linking.aside _ _ rfl
      exact trans_of related unarmed (trans_of related taken went)
    · exact Or.inr ⟨tried, ⟨Or.inr (Or.inr rfl), same, underway, retriedEq.trans opens⟩, went⟩
  · have retriedEq : found.retried = found := by
      simp only [retried, due, Bool.false_eq_true, if_false]
    rw [retriedEq] at went ⊢
    exact Or.inl went

theorem Allows.openingOver (allows : Allows related .openingOver found) :
    related { found with opening := none } (onOpeningOver.run found).2 := by
  rw [onOpeningOver, run_bind, run_get]
  cases opening : found.opening with
  | none =>
      have same : { found with opening := none } = found := by rw [← opening]
      rw [same]
      exact refl_of related found
  | some attempt =>
      have abandoned : related { found with opening := none }
          ((abandonOpening attempt).run found).2 :=
        trans_of related (allows.hangsUp (by simp [opening]))
          (always_openFailed_of_moves allows.moves _ _)
      rw [run_bind]
      cases timed : ((abandonOpening attempt).run found).1 with
      | none => exact abandoned
      | some firedAt => exact trans_of related abandoned (allows.finishTimer firedAt _)

/-- An input is taken as the relation allows, unless it makes the engine open its transport. Then
that comes first, and the rest is as the relation allows. -/
theorem Allows.take (allows : Allows related input found) :
    related (heard input found) ((take input).run found).2 ∨ ∃ tried, Attempts input found tried ∧
      related (told input found) ((take input).run found).2 := by
  cases input with
  | command command =>
      rcases allows.command with taken | ⟨tried, attempts⟩
      · exact Or.inl taken
      · exact Or.inr ⟨tried, attempts, refl_of related _⟩
  | frame content =>
      exact Or.inl (related_takeFrame fun envelope ack => allows.acknowledges content envelope ack rfl)
  | closed =>
      exact Or.inl (always_applyClosed allows.moves (allows.loses (Or.inr (Or.inl rfl))) found)
  | receiveFailed error =>
      have ends : Always related (take (.receiveFailed error) : EngineM σ τ Unit) :=
        .bind (.outward (outward_setLastError _)) fun _ =>
          always_applyClosed allows.moves (allows.loses (Or.inr (Or.inr ⟨error, rfl⟩)))
      exact Or.inl (ends found)
  | timer => exact allows.timer
  | openingOver => exact Or.inl allows.openingOver

end Allows

end Engine

end MessageSync
