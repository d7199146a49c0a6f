import MessageSync.Proofs.Engine.Connections
import MessageSync.Simulation.Recorder

/-!
# What the engine asks of its transport

The calls of the transport are followed through a step, together with the frames that were received.
A ledger of them says which stanza number comes next, which number of the server is the highest, and
whether the connection was opened and not greeted yet. Every frame that is sent goes by the ledger:
it has the next number, and it is the greeting if the connection is not greeted.
-/

namespace MessageSync

/-- What passes between the engine and its transport: an envelope is received, or the transport is
called. -/
inductive SessionEvent where
  | received (envelope : Envelope)
  | called (call : TransportCall)

/-- The envelope that greets the server. -/
def Envelope.handshake (features : List String) (lastSeen : Int64) : Envelope :=
  .ofRecord Configuration.layout "" .configuration ⟨features, lastSeen, clientVersion⟩

/-- What the events of a session say of its stanza numbers. -/
structure Ledger where
  stanzas : StanzaTracker
  /-- Whether the connection was opened and nothing was sent over it yet. -/
  ungreeted : Bool

namespace Ledger

variable {ledger middle last : Ledger} {event : SessionEvent} {earlier later : List SessionEvent}

/-- The ledger after an event. -/
def note (ledger : Ledger) : SessionEvent → Ledger
  | .received envelope => { ledger with stanzas := ledger.stanzas.observe envelope.stanzaId }
  | .called (.connect .opened) => { ledger with ungreeted := true }
  | .called (.send _) => ⟨ledger.stanzas.take.2, false⟩
  | .called _ => ledger

/-- A frame that is sent has the next number, and greets the server if nothing else did. -/
def Admits (ledger : Ledger) : SessionEvent → Prop
  | .called (.send frame) => ∃ envelope : Envelope,
    frame = { envelope with stanzaId := ledger.stanzas.take.1 }.frame ∧
      (ledger.ungreeted = true → ∃ features, envelope = .handshake features ledger.stanzas.lastServer)
  | _ => True

/-- The events go by the ledger, one after the other, and lead to another ledger. -/
inductive Keeps : Ledger → List SessionEvent → Ledger → Prop where
  | nil (ledger : Ledger) : Keeps ledger [] ledger
  | cons {ledger last : Ledger} {event : SessionEvent} {later : List SessionEvent}
      (admits : ledger.Admits event) (rest : Keeps (ledger.note event) later last) :
      Keeps ledger (event :: later) last

theorem Keeps.append (first : Keeps ledger earlier middle) (second : Keeps middle later last) :
    Keeps ledger (earlier ++ later) last := by
  induction first with
  | nil ledger => exact second
  | cons admits rest appended => exact .cons admits (appended second)

theorem Keeps.of_append (keeps : Keeps ledger (earlier ++ later) last) :
    ∃ middle, Keeps ledger earlier middle ∧ Keeps middle later last := by
  induction earlier generalizing ledger with
  | nil => exact ⟨ledger, .nil ledger, keeps⟩
  | cons event earlier split =>
      cases keeps with
      | cons admits rest =>
          rcases split rest with ⟨middle, first, second⟩
          exact ⟨middle, .cons admits first, second⟩

end Ledger

theorem Recorder.connect_eq {τ : Type} [Transport τ] (recorder : Recorder τ) (url : String) :
    Transport.connect recorder url = ((Transport.connect recorder.inner url).1,
      recorder.after (.connect (Transport.connect recorder.inner url).1)
        (Transport.connect recorder.inner url).2) := rfl

theorem Recorder.send_eq {τ : Type} [Transport τ] (recorder : Recorder τ) (frame : Packing.Bytes) :
    Transport.send recorder frame = ((Transport.send recorder.inner frame).1,
      recorder.after (.send frame) (Transport.send recorder.inner frame).2) := rfl

namespace Engine

variable {σ τ : Type} [Transport τ] {before after engine found tried : Engine σ (Recorder τ)}
  {input : Input}

/-- The ledger is that of the engine: it has its stanza numbers, and over a connection that is not
greeted nothing can be sent. -/
structure Fits (ledger : Ledger) (engine : Engine σ (Recorder τ)) : Prop where
  stanzas : engine.stanzas = ledger.stanzas
  mute : ledger.ungreeted = true → engine.machine.isConnected = true →
    Transport.isConnected engine.transport = false

/-- The calls were made in between. They go by every ledger that is as given at the start, which
leads to one that is the engine's. -/
structure Accounts (starts : Ledger → Prop) (before : Engine σ (Recorder τ))
    (calls : List TransportCall) (after : Engine σ (Recorder τ)) : Prop where
  made : after.transport.calls = before.transport.calls ++ calls
  keeps : ∀ ledger, starts ledger →
    ∃ next, ledger.Keeps (calls.map .called) next ∧ Fits next after

/-- The engine did not connect, and whatever it asked of its transport goes by the ledger. -/
structure Speaks (before after : Engine σ (Recorder τ)) : Prop where
  opening : after.opening.isSome = true → before.opening.isSome = true
  connected : after.machine.isConnected = true → before.machine.isConnected = true
  accounts : ∃ calls, (∀ outcome, .connect outcome ∉ calls) ∧
    Accounts (Fits · before) before calls after

theorem Accounts.trans {starts : Ledger → Prop} {earlier later : List TransportCall}
    (first : Accounts starts before earlier engine)
    (second : Accounts (Fits · engine) engine later after) :
    Accounts starts before (earlier ++ later) after := by
  refine ⟨by rw [second.made, first.made, List.append_assoc], fun ledger start => ?_⟩
  rcases first.keeps ledger start with ⟨middle, keepsFirst, fits⟩
  rcases second.keeps middle fits with ⟨next, keepsSecond, fits⟩
  exact ⟨next, by rw [List.map_append]; exact keepsFirst.append keepsSecond, fits⟩

theorem Accounts.cons {starts leads : Ledger → Prop} {call : TransportCall}
    {later : List TransportCall} (made : engine.transport.calls = before.transport.calls ++ [call])
    (admits : ∀ ledger, starts ledger →
      ledger.Admits (.called call) ∧ leads (ledger.note (.called call)))
    (rest : Accounts leads engine later after) : Accounts starts before (call :: later) after := by
  refine ⟨by rw [rest.made, made, List.append_assoc]; rfl, fun ledger start => ?_⟩
  rcases admits ledger start with ⟨admitted, led⟩
  rcases rest.keeps _ led with ⟨next, keeps, fits⟩
  exact ⟨next, .cons admitted keeps, fits⟩

/-- Nothing was asked of the transport. -/
theorem Accounts.silent (calls : after.transport.calls = before.transport.calls)
    (fits : ∀ ledger, Fits ledger before → Fits ledger after) :
    Accounts (Fits · before) before [] after :=
  ⟨by rw [calls, List.append_nil], fun ledger start => ⟨ledger, .nil ledger, fits ledger start⟩⟩

/-- Nothing about the transport and the stanza numbers differs. -/
theorem Speaks.silent (opening : after.opening.isSome = true → before.opening.isSome = true)
    (connected : after.machine.isConnected = true → before.machine.isConnected = true)
    (transport : after.transport = before.transport) (stanzas : after.stanzas = before.stanzas) :
    Speaks before after := by
  refine ⟨opening, connected, [], by simp, .silent (by rw [transport]) fun ledger fits => ?_⟩
  refine ⟨stanzas.trans fits.stanzas, fun ungreeted isConnected => ?_⟩
  rw [transport]
  exact fits.mute ungreeted (connected isConnected)

/-! ## Sending -/

/-- The engine after an envelope was handed to the transport under the next number. -/
def handedOver (engine : Engine σ (Recorder τ)) (envelope : Envelope) : Engine σ (Recorder τ) :=
  let frame := { envelope with stanzaId := engine.stanzas.take.1 }.frame
  { engine with
    stanzas := engine.stanzas.take.2
    transport := engine.transport.after (.send frame)
      (Transport.send engine.transport.inner frame).2 }

/-- An envelope is handed to the transport if there is a connection and the envelope is valid. -/
theorem run_dispatch_of_valid {envelope : Envelope} (connected : engine.machine.isConnected = true)
    (linked : Transport.isConnected engine.transport = true) (valid : envelope.validate = .ok ()) :
    ((dispatch envelope).run engine).2 = engine.handedOver envelope := by
  simp only [run_dispatch_of_connected envelope connected linked, valid, Recorder.send_eq,
    handedOver]
  split <;> rfl

/-- An envelope that is refused leaves the engine as it is. -/
theorem run_dispatch_of_refused {envelope : Envelope}
    (refused : ¬(engine.machine.isConnected = true ∧
      Transport.isConnected engine.transport = true ∧ envelope.validate = .ok ())) :
    ((dispatch envelope).run engine).2 = engine := by
  by_cases linked : engine.machine.isConnected = true ∧
      Transport.isConnected engine.transport = true
  · rw [run_dispatch_of_connected envelope linked.1 linked.2]
    cases valid : envelope.validate with
    | error error => rfl
    | ok done => exact absurd ⟨linked.1, linked.2, valid⟩ refused
  · rw [run_dispatch_of_not_connected envelope linked]

theorem accounts_handedOver {starts : Ledger → Prop} {envelope : Envelope}
    (admits : ∀ ledger, starts ledger → engine.stanzas = ledger.stanzas ∧
      (ledger.ungreeted = true →
        ∃ features, envelope = .handshake features ledger.stanzas.lastServer)) :
    ∃ call, (∀ outcome, .connect outcome ≠ call) ∧
      Accounts starts engine [call] (engine.handedOver envelope) := by
  let frame := { envelope with stanzaId := engine.stanzas.take.1 }.frame
  refine ⟨.send frame, nofun, rfl, fun ledger start => ?_⟩
  rcases admits ledger start with ⟨stanzas, greets⟩
  have admitted : ledger.Admits (.called (.send frame)) := ⟨envelope, by rw [← stanzas], greets⟩
  refine ⟨⟨ledger.stanzas.take.2, false⟩, .cons admitted (.nil _), ?_, nofun⟩
  rw [← stanzas]
  rfl

theorem speaks_dispatch (envelope : Envelope) :
    Always Speaks (dispatch envelope : EngineM σ (Recorder τ) (Except EngineError Int64)) := by
  intro engine
  by_cases sent : engine.machine.isConnected = true ∧
      Transport.isConnected engine.transport = true ∧ envelope.validate = .ok ()
  · rw [run_dispatch_of_valid sent.1 sent.2.1 sent.2.2]
    have accounted : ∃ call, (∀ outcome, .connect outcome ≠ call) ∧
        Accounts (Fits · engine) engine [call] (engine.handedOver envelope) := by
      refine accounts_handedOver fun ledger fits => ⟨fits.stanzas, fun ungreeted => ?_⟩
      cases sent.2.1.symm.trans (fits.mute ungreeted sent.1)
    rcases accounted with ⟨call, other, accounts⟩
    exact ⟨id, id, [call], by simpa using other, accounts⟩
  · rw [run_dispatch_of_refused sent]
    exact .silent id id rfl rfl

instance : Linking (Speaks : Engine σ (Recorder τ) → Engine σ (Recorder τ) → Prop) where
  refl engine := .silent id id rfl rfl
  trans _ _ _ first second := by
    rcases first.accounts with ⟨earlier, apartFirst, accountsFirst⟩
    rcases second.accounts with ⟨later, apartSecond, accountsSecond⟩
    refine ⟨first.opening ∘ second.opening, first.connected ∘ second.connected, earlier ++ later,
      fun outcome mem => ?_, accountsFirst.trans accountsSecond⟩
    exact (List.mem_append.mp mem).elim (apartFirst outcome) (apartSecond outcome)
  dispatches := speaks_dispatch
  aside before after aside := by
    rw [aside]
    exact .silent id id rfl rfl

/-! ## What is allowed -/

theorem allowsMoves_speaks :
    AllowsMoves (Speaks : Engine σ (Recorder τ) → Engine σ (Recorder τ) → Prop) := by
  intro engine told other
  have connects (connected : (engine.machine.handle told).1.isConnected = true) :=
    ConnectionMachine.isConnected_of_handle other connected
  exact .silent id connects rfl rfl

theorem allowsLoss_speaks :
    AllowsLoss (Speaks : Engine σ (Recorder τ) → Engine σ (Recorder τ) → Prop) :=
  fun _ => .silent id id rfl rfl

theorem speaks_performs {effects : List ConnectionEffect} (stays : .closeTransport ∉ effects) :
    Always Speaks (effects.forM perform : EngineM σ (Recorder τ) Unit) :=
  .forM fun _ mem =>
    always_performs (fun closes => absurd (closes ▸ mem) stays) fun _ => allowsLoss_speaks

/-- Everything but an explicit disconnect goes by the ledger, if the machine is not connected while
an attempt to connect has no answer. -/
theorem allows_speaks (stays : ¬Closes input found)
    (apart : found.opening.isSome = true → found.machine.isConnected = false) :
    Allows Speaks input found := by
  have registers (engine : Engine σ (Recorder τ)) (registry : SubscriptionRegistry) :
      Speaks engine { engine with registry } := .silent id id rfl rfl
  refine ⟨allowsMoves_speaks, fun _ => allowsLoss_speaks, fun closes => absurd closes stays,
    fun _ _ _ _ _ _ => registers _ _, fun _ _ _ _ => registers _ _,
    fun _ _ _ _ _ _ _ _ _ => registers _ _, fun _ _ => registers _ _, ?_, ?_⟩
  · exact fun engine attempt opening => .silent (fun _ => opening) id rfl rfl
  · intro opening
    refine ⟨id, id, [.disconnect], by simp, rfl, fun ledger fits => ?_⟩
    refine ⟨ledger, .cons trivial (.nil _), fits.stanzas, fun _ connected => ?_⟩
    cases connected.symm.trans (apart opening)

/-! ## Opening the transport -/

theorem accounts_sendHandshake (connected : engine.machine.isConnected = true) :
    ∃ calls, (∀ outcome, .connect outcome ∉ calls) ∧
      Accounts (engine.stanzas = Ledger.stanzas ·) engine calls (sendHandshake.run engine).2 := by
  let greeting : Envelope := .handshake engine.features engine.stanzas.lastServer
  change ∃ calls, (∀ outcome, .connect outcome ∉ calls) ∧
    Accounts _ engine calls ((dispatch greeting).run engine).2
  by_cases linked : Transport.isConnected engine.transport = true
  · rw [run_dispatch_of_valid connected linked rfl]
    have accounted : ∃ call, (∀ outcome, .connect outcome ≠ call) ∧
        Accounts (engine.stanzas = Ledger.stanzas ·) engine [call] (engine.handedOver greeting) :=
      accounts_handedOver fun ledger stanzas =>
        ⟨stanzas, fun _ => ⟨engine.features, by rw [← stanzas]⟩⟩
    rcases accounted with ⟨call, other, accounts⟩
    exact ⟨[call], by simpa using other, accounts⟩
  · rw [run_dispatch_of_refused fun sent => linked sent.2.1]
    refine ⟨[], by simp, by simp, fun ledger stanzas => ⟨ledger, .nil _, stanzas, fun _ _ => ?_⟩⟩
    rwa [Bool.not_eq_true] at linked

/-- The transport is opened by one call, and whatever is asked of it afterwards goes by the ledger:
if the connection is open, the greeting comes first. -/
theorem accounts_openTransport (underway : tried.machine.Underway) :
    ∃ calls, (∀ outcome, .connect outcome ∉ calls) ∧
      Accounts (tried.stanzas = Ledger.stanzas ·) tried
        (.connect (Transport.connect tried.transport.inner tried.url).1 :: calls)
        (openTransport.run tried).2 := by
  rcases attempt : Transport.connect tried.transport.inner tried.url with ⟨outcome, inner⟩
  have connects : Transport.connect tried.transport tried.url =
      (outcome, tried.transport.after (.connect outcome) inner) := by
    rw [Recorder.connect_eq, attempt]
  let linked : Engine σ (Recorder τ) :=
    { tried with transport := tried.transport.after (.connect outcome) inner }
  cases outcome with
  | opened =>
      rcases run_openTransport_of_opened underway connects with ⟨machine, status, connected, left⟩
      let greeted : Engine σ (Recorder τ) := { linked with machine, status }
      have welcomes : ∃ calls, (∀ outcome, .connect outcome ∉ calls) ∧ Accounts
          (greeted.stanzas = Ledger.stanzas ·) greeted calls (sendHandshake.run greeted).2 :=
        accounts_sendHandshake connected
      have replays : Always Speaks
          ([.resubscribe, .syncAll].forM perform : EngineM σ (Recorder τ) Unit) :=
        speaks_performs (by simp)
      rcases welcomes with ⟨greeting, others, accounts⟩
      rcases (replays (sendHandshake.run greeted).2).accounts with ⟨later, apart, accountsLater⟩
      refine ⟨greeting ++ later, fun outcome mem => ?_, ?_⟩
      · exact (List.mem_append.mp mem).elim (others outcome) (apart outcome)
      · rw [left]
        exact .cons rfl (fun ledger stanzas => ⟨trivial, stanzas⟩) (accounts.trans accountsLater)
  | failed error =>
      have fails : Speaks linked ((openFailed error.message).run linked).2 :=
        always_openFailed_of_moves allowsMoves_speaks _ _
      rcases fails.accounts with ⟨calls, apart, accounts⟩
      rw [run_openTransport_of_failed connects]
      refine ⟨calls, apart, .cons rfl (fun ledger stanzas => ?_) accounts⟩
      refine ⟨trivial, stanzas, fun _ connected => ?_⟩
      cases connected.symm.trans underway.apart
  | unanswered =>
      rw [run_openTransport_of_unanswered connects]
      refine ⟨[], by simp, rfl, fun ledger stanzas => ?_⟩
      refine ⟨ledger, .cons trivial (.nil _), stanzas, fun _ connected => ?_⟩
      cases connected.symm.trans underway.apart

/-- While an attempt to connect has no answer, the machine is not connected. -/
theorem apart_of_openTransport (underway : tried.machine.Underway) (opening : tried.opening = none)
    (waits : (openTransport.run tried).2.opening.isSome = true) :
    (openTransport.run tried).2.machine.isConnected = false := by
  rcases attempt : Transport.connect tried.transport tried.url with ⟨outcome, transport⟩
  cases outcome with
  | opened =>
      have greets : Always Speaks ([.handshake, .resubscribe, .syncAll].forM perform :
          EngineM σ (Recorder τ) Unit) := speaks_performs (by simp)
      rcases run_openTransport_of_opened underway attempt with ⟨machine, status, -, left⟩
      rw [left] at waits
      have waited : tried.opening.isSome = true :=
        (greets { tried with transport, machine, status }).opening waits
      rw [opening] at waited
      cases waited
  | failed error =>
      have fails : Always Speaks (openFailed error.message : EngineM σ (Recorder τ) Unit) :=
        always_openFailed_of_moves allowsMoves_speaks _
      rw [run_openTransport_of_failed attempt] at waits
      have waited : tried.opening.isSome = true := (fails { tried with transport }).opening waits
      rw [opening] at waited
      cases waited
  | unanswered =>
      rw [run_openTransport_of_unanswered attempt]
      exact underway.apart

/-! ## Steps -/

section Steps

variable [MessageLog σ]

/-- A step goes by the ledger, or it opens the transport first and then goes by the ledger. -/
theorem speaks_step (stays : ¬Closes input found)
    (apart : found.opening.isSome = true → found.machine.isConnected = false) :
    Speaks (heard input found) ((step input).run found).2 ∨ ∃ tried, Attempts input found tried ∧
      Speaks (told input found) ((step input).run found).2 := by
  have notices : Speaks ((take input).run found).2 ((step input).run found).2 :=
    related_step_of_take (always_notice allowsMoves_speaks allowsLoss_speaks) input found
  rcases (allows_speaks stays apart).take with taken | ⟨tried, attempts, taken⟩
  · exact Or.inl (trans_of Speaks taken notices)
  · exact Or.inr ⟨tried, attempts, trans_of Speaks taken notices⟩

/-- What a step asks of its transport goes by the ledger. -/
theorem accounts_step (stays : ¬Closes input found)
    (apart : found.opening.isSome = true → found.machine.isConnected = false) :
    ∃ calls, Accounts (Fits · (heard input found)) found calls ((step input).run found).2 := by
  rcases speaks_step stays apart with speaks | ⟨tried, attempts, speaks⟩
  · rcases speaks.accounts with ⟨calls, -, accounts⟩
    exact ⟨calls, by rw [accounts.made, same_heard], accounts.keeps⟩
  · rcases accounts_openTransport attempts.underway with ⟨opening, -, opens⟩
    rcases speaks.accounts with ⟨calls, -, accounts⟩
    rw [attempts.opens] at accounts
    have joined := opens.trans accounts
    refine ⟨_, ?_, fun ledger fits => joined.keeps ledger ?_⟩
    · rw [joined.made, attempts.same]
    · rw [← fits.stanzas, attempts.heard, attempts.same]

/-- After a step an attempt to connect has no answer only if the machine is not connected. -/
theorem apart_of_opening_step (stays : ¬Closes input found)
    (apart : found.opening.isSome = true → found.machine.isConnected = false)
    (awaited : found.opening.isSome = true ↔ input = .openingOver)
    (waits : ((step input).run found).2.opening.isSome = true) :
    ((step input).run found).2.machine.isConnected = false := by
  rcases speaks_step stays apart with speaks | ⟨tried, attempts, speaks⟩
  · have waited := speaks.opening waits
    have notOver : input ≠ .openingOver := by
      rintro rfl
      cases waited
    rw [opening_heard notOver] at waited
    exact absurd (awaited.mp waited) notOver
  · have opening : found.opening = none := by
      rw [← Option.not_isSome_iff_eq_none, awaited]
      rcases attempts.asks with rfl | rfl | rfl <;> simp
    have waited := speaks.opening waits
    have connected := speaks.connected
    rw [attempts.opens] at waited connected
    have toldApart := apart_of_openTransport attempts.underway (attempts.same ▸ opening) waited
    rw [← Bool.not_eq_true] at toldApart ⊢
    exact toldApart ∘ connected

/-- An explicit disconnect closes the transport and starts the stanza numbers anew. -/
theorem step_of_closes (closes : Closes input found) :
    let left := ((step input).run found).2
    left.transport.calls = found.transport.calls ++ [.disconnect] ∧ left.stanzas = .start ∧
      left.machine.isConnected = false := by
  rcases closes with ⟨⟨waiter, rfl⟩, open_⟩
  rcases ConnectionMachine.handle_disconnectRequested_of_open open_ with ⟨next, handled, apart⟩
  let moved : Engine σ (Recorder τ) := { found.moved next with retryAt := none }
  let closed : Engine σ (Recorder τ) := ((apply .disconnectRequested).run found).2
  have closedEq : closed = { ((perform .abandonPending).run moved).2 with
      transport := found.transport.after .disconnect (Transport.disconnect found.transport.inner)
      stanzas := .start } := by
    simp only [closed, apply_of_handle handled rfl]
    simp only [run_forM_cons, run_forM_nil, run_cancelRetry, run_closeTransport]
    rw [same_abandonPending]
    rfl
  have closedApart : closed.machine.isConnected = false := by
    rw [closedEq, same_abandonPending]
    exact apart
  have left : ((step (.command (.disconnect waiter))).run found).2 =
      ((reply waiter (.disconnected (.ok ()))).run closed).2 := by
    have taken : ((take (.command (.disconnect waiter))).run found).2 =
        ((reply waiter (.disconnected (.ok ()))).run closed).2 := rfl
    rw [run_step, taken]
    split
    · exact noticeBrokenLink_of_not_connected closedApart
    · rfl
  rw [left]
  change closed.transport.calls = _ ∧ closed.stanzas = _ ∧ _
  exact ⟨by rw [closedEq]; rfl, by rw [closedEq], closedApart⟩

end Steps

end Engine

end MessageSync
