import MessageSync.Proofs.Engine.Calls
import MessageSync.Proofs.Link.Stanzas

/-!
# Stanza numbers over a session

A session lasts from one explicit disconnect to the next, over any number of connections. The frames
that the engine sends in a session are numbered from one on without a gap, whatever becomes of them,
and the greeting of every connection carries the highest magnitude of the server's numbers that was
received in the session so far.
-/

namespace MessageSync

/-- The frames that were handed to the transport, in order. -/
def sentIn (events : List SessionEvent) : List Packing.Bytes :=
  events.filterMap fun
    | .called (.send frame) => some frame
    | _ => none

/-- The stanza numbers that were received, in order. -/
def receivedIn (events : List SessionEvent) : List Int64 :=
  events.filterMap fun
    | .received envelope => some envelope.stanzaId
    | _ => none

namespace Ledger

variable {ledger last : Ledger} {events : List SessionEvent}

/-! ## What a ledger says -/

theorem Keeps.eq_foldl (keeps : Keeps ledger events last) : last = events.foldl note ledger := by
  induction keeps with
  | nil ledger => rfl
  | cons admits rest same => exact same

/-- The frames that go by a ledger are numbered from its next number on, up to the last number there
is. -/
theorem Keeps.numbered (keeps : Keeps ledger events last) {next : Nat}
    (starts : ledger.stanzas.nextClient.toInt = min (next : Int) (2 ^ 63 - 1)) :
    ∃ envelopes : List Envelope, sentIn events = envelopes.map Envelope.frame ∧
      (envelopes.map fun envelope => envelope.stanzaId.toInt) =
        (List.range' next envelopes.length).map fun number : Nat =>
          min (number : Int) (2 ^ 63 - 1) := by
  induction keeps generalizing next with
  | nil ledger => exact ⟨[], rfl, rfl⟩
  | @cons ledger last event later admits rest numbered =>
      cases event with
      | received envelope => exact numbered (by rw [note, StanzaTracker.nextClient_observe, starts])
      | called call =>
          cases call with
          | connect outcome => cases outcome <;> exact numbered starts
          | disconnect => exact numbered starts
          | send frame =>
              rcases admits with ⟨envelope, carries, -⟩
              have goesOn : (ledger.note (.called (.send frame))).stanzas.nextClient.toInt =
                  min ((next + 1 : Nat) : Int) (2 ^ 63 - 1) := by
                rw [note, StanzaTracker.toInt_take, starts]
                omega
              rcases numbered goesOn with ⟨envelopes, sent, numbers⟩
              refine ⟨{ envelope with stanzaId := ledger.stanzas.take.1 } :: envelopes, ?_, ?_⟩
              · rw [List.map_cons, ← carries, ← sent]
                rfl
              · rw [List.map_cons, numbers, List.length_cons, List.range'_succ, List.map_cons]
                exact congrArg (· :: _) starts

/-- The highest number of the server is the highest of those received. -/
theorem lastServer_foldl (events : List SessionEvent)
    (nonneg : 0 ≤ ledger.stanzas.lastServer.toInt) :
    (events.foldl note ledger).stanzas.lastServer.toInt =
      max ledger.stanzas.lastServer.toInt (highestMagnitude (receivedIn events)) := by
  induction events generalizing ledger with
  | nil => exact (max_eq_left nonneg).symm
  | cons event later highest =>
      rw [List.foldl_cons]
      cases event with
      | received envelope =>
          have observed : (ledger.stanzas.observe envelope.stanzaId).lastServer.toInt = _ :=
            StanzaTracker.toInt_observe envelope.stanzaId
          have received : receivedIn (.received envelope :: later) =
              envelope.stanzaId :: receivedIn later := rfl
          rw [highest ?_, received, highestMagnitude_cons]
          · change max (ledger.stanzas.observe envelope.stanzaId).lastServer.toInt _ = _
            rw [observed]
            split
            · rw [max_assoc]
            · rfl
          · change 0 ≤ (ledger.stanzas.observe envelope.stanzaId).lastServer.toInt
            rw [observed]
            split
            · exact le_max_of_le_left nonneg
            · exact nonneg
      | called call =>
          cases call with
          | connect outcome => cases outcome <;> exact highest nonneg
          | disconnect | send => exact highest nonneg

/-- A connection that was opened is not greeted until something is sent. -/
theorem ungreeted_foldl (ungreeted : ledger.ungreeted = true) (silent : sentIn events = []) :
    (events.foldl note ledger).ungreeted = true := by
  induction events generalizing ledger with
  | nil => exact ungreeted
  | cons event later stays =>
      rw [List.foldl_cons]
      cases event with
      | received envelope => exact stays ungreeted silent
      | called call =>
          cases call with
          | connect outcome =>
              cases outcome with
              | opened => exact stays rfl silent
              | failed | unanswered => exact stays ungreeted silent
          | disconnect => exact stays ungreeted silent
          | send frame => cases silent

/-- What is sent first over a connection that was opened is the greeting, with the highest magnitude
among the server's numbers that were received before. -/
theorem Keeps.greeting {earlier between later : List SessionEvent} {frame : Packing.Bytes}
    (keeps : Keeps ledger (earlier ++ .called (.connect .opened) ::
      (between ++ .called (.send frame) :: later)) last)
    (starts : ledger.stanzas.lastServer.toInt = 0) (silent : sentIn between = []) :
    ∃ features highest stanza,
      frame = { Envelope.handshake features highest with stanzaId := stanza }.frame ∧
        highest.toInt = highestMagnitude (receivedIn (earlier ++ between)) := by
  rcases keeps.of_append with ⟨opened, keepsEarlier, keepsLater⟩
  cases keepsLater with
  | cons opens rest =>
  rcases rest.of_append with ⟨greeting, keepsBetween, keepsLater⟩
  cases keepsLater with
  | cons admits rest =>
  rcases admits with ⟨envelope, carries, greets⟩
  have ungreeted : greeting.ungreeted = true := by
    rw [keepsBetween.eq_foldl]
    exact ungreeted_foldl rfl silent
  rcases greets ungreeted with ⟨features, rfl⟩
  refine ⟨features, _, _, carries, ?_⟩
  have before := keepsEarlier.append (.cons opens keepsBetween)
  have received : receivedIn (earlier ++ .called (.connect .opened) :: between) =
      receivedIn (earlier ++ between) := by
    rw [receivedIn, receivedIn, List.filterMap_append, List.filterMap_append]
    rfl
  rw [before.eq_foldl, lastServer_foldl _ starts.ge, starts, received]
  exact max_eq_right (highestMagnitude_nonneg _)

end Ledger

namespace Engine

/-! ## Sessions -/

variable {σ τ : Type}

/-- The calls of the transport since an engine was found. -/
def callsSince (found left : Engine σ (Recorder τ)) : List TransportCall :=
  left.transport.calls.drop found.transport.calls.length

theorem callsSince_of_append {found left : Engine σ (Recorder τ)} {calls : List TransportCall}
    (made : left.transport.calls = found.transport.calls ++ calls) :
    callsSince found left = calls := by
  rw [callsSince, made, List.drop_left]

/-- The envelope of an input that is a frame, if it can be read. -/
def receivedBy (input : Input) (found : Engine σ τ) : List SessionEvent :=
  match input with
  | .frame content =>
    match Envelope.decodeFrame content found.fallbackConversation with
    | .ok envelope => [.received envelope]
    | .error _ => []
  | _ => []

variable [MessageLog σ] [Transport τ] {first engine found : Engine σ (Recorder τ)} {input : Input}
  {comes : Engine σ (Recorder τ) → Input → Engine σ (Recorder τ) → Prop}
  {events : List SessionEvent}

/-- The engine is left by a run from the first one, in which every input comes as given. The events
are those of the session so far: everything since the last explicit disconnect, in order. -/
inductive Session (comes : Engine σ (Recorder τ) → Input → Engine σ (Recorder τ) → Prop)
    (first : Engine σ (Recorder τ)) : Engine σ (Recorder τ) → List SessionEvent → Prop where
  | begins : Session comes first first []
  | closes {engine found : Engine σ (Recorder τ)} {input : Input} {events : List SessionEvent}
      (session : Session comes first engine events) (arrival : comes engine input found)
      (closes : Closes input found) : Session comes first ((step input).run found).2 []
  | goesOn {engine found : Engine σ (Recorder τ)} {input : Input} {events : List SessionEvent}
      (session : Session comes first engine events) (arrival : comes engine input found)
      (stays : ¬Closes input found) :
      Session comes first ((step input).run found).2 (events ++ receivedBy input found ++
        (callsSince found ((step input).run found).2).map .called)

/-- Every run is in a session. -/
theorem exists_session (runs : Runs comes first engine) :
    ∃ events, Session comes first engine events := by
  induction runs with
  | initial => exact ⟨[], .begins⟩
  | @next engine found input runs arrival session =>
      rcases session with ⟨events, session⟩
      by_cases closes : Closes input found
      · exact ⟨[], .closes session arrival closes⟩
      · exact ⟨_, .goesOn session arrival closes⟩

/-- The ledger is that of the engine between two inputs. -/
structure Noted (ledger : Ledger) (engine : Engine σ (Recorder τ)) : Prop where
  stanzas : engine.stanzas = ledger.stanzas
  mute : ledger.ungreeted = true → engine.machine.isConnected = false
  apart : engine.opening.isSome = true → engine.machine.isConnected = false

omit [MessageLog σ] [Transport τ] in
theorem noted_of_start {settings : Settings} {transport : Recorder τ} {log : σ} {clock : Clock}
    (started : start settings transport log clock = .ok first) : Noted ⟨.start, false⟩ first := by
  rcases eq_of_start started with ⟨window, rfl⟩
  exact ⟨rfl, nofun, nofun⟩

omit [MessageLog σ] [Transport τ] in
theorem Noted.drift {ledger : Ledger} (noted : Noted ledger engine) (drifts : Drifts engine found) :
    Noted ledger found := by
  rw [drifts]
  exact ⟨noted.stanzas, noted.mute, noted.apart⟩

omit [MessageLog σ] in
/-- What was received is noted before anything else is done about it. -/
theorem Noted.heard {ledger : Ledger} (noted : Noted ledger found) (input : Input) :
    ∃ next, ledger.Keeps (receivedBy input found) next ∧ Fits next (heard input found) := by
  have fits : Fits ledger found := by
    refine ⟨noted.stanzas, fun ungreeted connected => ?_⟩
    cases connected.symm.trans (noted.mute ungreeted)
  cases input with
  | frame content =>
      cases decoded : Envelope.decodeFrame content found.fallbackConversation with
      | error reason =>
          simp only [receivedBy, Engine.heard, decoded]
          exact ⟨ledger, .nil ledger, fits⟩
      | ok envelope =>
          rw [heard_of_decoded decoded]
          simp only [receivedBy, decoded]
          refine ⟨_, .cons trivial (.nil _), ?_, fits.mute⟩
          exact congrArg (·.observe envelope.stanzaId) fits.stanzas
  | openingOver => exact ⟨ledger, .nil ledger, fits.stanzas, fits.mute⟩
  | command | closed | receiveFailed | timer => exact ⟨ledger, .nil ledger, fits⟩

/-- A step goes by the ledger, and leaves one that is the engine's. -/
theorem Noted.step {ledger : Ledger} (noted : Noted ledger found) (stays : ¬Closes input found)
    (awaited : found.opening.isSome = true ↔ input = .openingOver) :
    ∃ next, ledger.Keeps (receivedBy input found ++
        (callsSince found ((step input).run found).2).map .called) next ∧
      Noted next ((step input).run found).2 := by
  rcases noted.heard input with ⟨middle, received, fits⟩
  rcases accounts_step stays noted.apart with ⟨calls, accounts⟩
  rcases accounts.keeps middle fits with ⟨next, keeps, fits⟩
  have since := callsSince_of_append accounts.made
  have apart := apart_of_opening_step stays noted.apart awaited
  refine ⟨next, by rw [since]; exact received.append keeps, fits.stanzas, fun ungreeted => ?_, apart⟩
  rw [← Bool.not_eq_true]
  intro connected
  have linked := linked_of_connected_step apart connected
  cases linked.symm.trans (fits.mute ungreeted connected)

/-- All events of a session go by one ledger, from its start on. -/
theorem Session.keeps (session : Session comes first engine events)
    (arrives : ∀ before input found, comes before input found → Arrives before input found)
    (initially : Noted ⟨.start, false⟩ first) :
    ∃ last, Ledger.Keeps ⟨.start, false⟩ events last ∧ Noted last engine := by
  induction session with
  | begins => exact ⟨_, .nil _, initially⟩
  | closes session arrival closes kept =>
      rcases kept with ⟨last, -, noted⟩
      rcases step_of_closes closes with ⟨-, anew, apart⟩
      exact ⟨_, .nil _, anew, fun _ => apart, fun _ => apart⟩
  | @goesOn engine found input events session arrival stays kept =>
      rcases kept with ⟨middle, keeps, noted⟩
      have arrived := arrives _ _ _ arrival
      have awaited : found.opening.isSome = true ↔ input = .openingOver := by
        rw [arrived.drifts]
        exact arrived.awaited
      rcases (noted.drift arrived.drifts).step stays awaited with ⟨next, keepsStep, noted⟩
      rw [List.append_assoc]
      exact ⟨next, keeps.append keepsStep, noted⟩

/-! ## Refused requests -/

/-- The transport and the stanza numbers are the same. -/
def LeavesLink (before after : Engine σ (Recorder τ)) : Prop :=
  after.transport = before.transport ∧ after.stanzas = before.stanzas

omit [MessageLog σ] [Transport τ] in
instance : IsPreorder (Engine σ (Recorder τ)) LeavesLink where
  refl _ := ⟨rfl, rfl⟩
  trans _ _ _ first second := ⟨second.1.trans first.1, second.2.trans first.2⟩

omit [MessageLog σ] in
theorem leavesLink_noticeBrokenLink :
    Always LeavesLink (noticeBrokenLink : EngineM σ (Recorder τ) Unit) := by
  intro engine
  simp only [noticeBrokenLink, isConnected, linkUp, run_bind, run_get, run_pure]
  by_cases broken : (engine.machine.isConnected && !Transport.isConnected engine.transport) = true
  · simp only [broken, reduceIte]
    rw [apply_of_ends (by simp)]
    refine related_handle ⟨rfl, rfl⟩ fun effect mem => ?_
    rcases ConnectionMachine.effect_of_closed mem with rfl | ⟨delay, rfl⟩
    · intro engine
      rw [same_abandonPending]
      exact ⟨rfl, rfl⟩
    · exact fun _ => ⟨rfl, rfl⟩
  · simp only [broken, Bool.false_eq_true, reduceIte]
    exact ⟨rfl, rfl⟩

/-- A request to send that is refused takes no stanza number, and nothing is asked of the
transport. -/
theorem leavesLink_of_refused {envelope : Envelope} {waiter : Waiter} {error : EngineError}
    (refused : ((dispatch envelope).run found).1 = .error error)
    (unsent : error = .notConnected ∨ ∃ reason, error = .codec reason) :
    LeavesLink found ((Engine.step (.command (.send envelope waiter))).run found).2 := by
  have same : ((dispatch envelope).run found).2 = found := by
    refine run_dispatch_of_refused fun sent => ?_
    rw [run_dispatch_of_connected envelope sent.1 sent.2.1, sent.2.2] at refused
    -- What the transport itself refuses is told apart by the error.
    have taken : ∃ reason, error = .transport reason := by
      simp only at refused
      split at refused
      · next reason _ => exact ⟨reason, (Except.error.inj refused).symm⟩
      · cases refused
    rcases taken with ⟨reason, rfl⟩
    rcases unsent with same | ⟨_, same⟩ <;> cases same
  have taken : LeavesLink found ((take (.command (.send envelope waiter))).run found).2 := by
    change LeavesLink found ((reply waiter _).run ((dispatch envelope).run found).2).2
    rw [same]
    exact ⟨rfl, rfl⟩
  exact trans_of LeavesLink taken (related_step_of_take leavesLink_noticeBrokenLink _ _)

/-! ## The numbers of a session -/

/-- In a session, as long as the numbers last, the frames handed to the transport are numbered from
one on. What is sent first over a connection is the greeting, with the highest magnitude among the
server's numbers that were received before. A request to send that is refused for want of a
connection, or as invalid, takes no number and hands nothing to the transport. The explicit disconnect
that ends the session hands nothing to the transport either. -/
theorem stanzas_of_session {settings : Settings} {transport : τ} {log : σ} {clock : Clock}
    (started : start settings (⟨transport, []⟩ : Recorder τ) log clock = .ok first)
    (arrives : ∀ before input found, comes before input found → Arrives before input found)
    (session : Session comes first engine events) :
    (∃ envelopes : List Envelope, sentIn events = envelopes.map Envelope.frame ∧
      (envelopes.length < 2 ^ 63 - 1 → (envelopes.map fun envelope => envelope.stanzaId.toInt) =
        (List.range' 1 envelopes.length).map fun number : Nat => (number : Int))) ∧
    (∀ earlier between frame later,
      events = earlier ++ .called (.connect .opened) ::
        (between ++ .called (.send frame) :: later) →
      sentIn between = [] → ∃ features highest stanza,
        frame = { Envelope.handshake features highest with stanzaId := stanza }.frame ∧
          highest.toInt = highestMagnitude (receivedIn (earlier ++ between))) ∧
    (∀ (found : Engine σ (Recorder τ)) envelope waiter error,
      ((dispatch envelope).run found).1 = .error error →
      (error = .notConnected ∨ ∃ reason, error = .codec reason) →
        let left := ((step (.command (.send envelope waiter))).run found).2
        left.transport.calls = found.transport.calls ∧ left.stanzas = found.stanzas) ∧
    ∀ (found : Engine σ (Recorder τ)) input, Closes input found →
      callsSince found ((step input).run found).2 = [.disconnect] := by
  rcases session.keeps arrives (noted_of_start started) with ⟨last, keeps, -⟩
  refine ⟨?_, ?_, ?_, fun _ _ closes => callsSince_of_append (step_of_closes closes).1⟩
  · have starts : (Ledger.stanzas ⟨.start, false⟩).nextClient.toInt =
        min ((1 : Nat) : Int) (2 ^ 63 - 1) := rfl
    rcases keeps.numbered starts with ⟨envelopes, sent, numbers⟩
    refine ⟨envelopes, sent, fun few => ?_⟩
    rw [numbers]
    refine List.map_congr_left fun number mem => ?_
    have below := (List.mem_range'_1.mp mem).2
    omega
  · rintro earlier between frame later rfl silent
    exact keeps.greeting rfl silent
  · intro found envelope waiter error refused unsent
    have leaves : LeavesLink found ((Engine.step (.command (.send envelope waiter))).run found).2 :=
      leavesLink_of_refused refused unsent
    exact ⟨by rw [leaves.1], leaves.2⟩

/-- An engine that has not connected yet, over a recorded transport. -/
def recorded : Except StartError (Engine Store (Recorder ScriptedTransport)) :=
  start Settings.standard ⟨{}, []⟩ Store.empty ⟨0, default⟩

/-- The engine after a connection was opened, a stanza of the server was received, and the connection
was lost. -/
def cutOff (first : Engine Store (Recorder ScriptedTransport)) :
    Engine Store (Recorder ScriptedTransport) :=
  ((step .closed).run ((step (.frame unheardOf)).run ((step (.command .connect)).run first).2).2).2

/-- The engine when it is time to connect again. -/
def retrying (first : Engine Store (Recorder ScriptedTransport)) :
    Engine Store (Recorder ScriptedTransport) :=
  { cutOff first with clock := ⟨1000, default⟩ }

/-- What it takes to follow the engine through a lost connection: no attempt to connect is left
without an answer, and what was asked of the transport. -/
theorem calls_relinked : ∃ first, recorded = .ok first ∧
    let linked := ((step (.command .connect)).run first).2
    let informed := ((step (.frame unheardOf)).run linked).2
    let relinked := ((step .timer).run (retrying first)).2
    linked.opening = none ∧ informed.opening = none ∧ (cutOff first).opening = none ∧
      callsSince first linked = [.connect .opened,
        .send { Envelope.handshake ["sync", "subscriptions"] 0 with stanzaId := 1 }.frame] ∧
      callsSince linked informed = [] ∧ callsSince informed (cutOff first) = [] ∧
      callsSince (retrying first) relinked = [.connect .opened,
        .send { Envelope.handshake ["sync", "subscriptions"] 7 with stanzaId := 2 }.frame] := by
  have left : recorded.toOption.map (fun first =>
      let linked := ((step (.command .connect)).run first).2
      let informed := ((step (.frame unheardOf)).run linked).2
      let relinked := ((step .timer).run (retrying first)).2
      ([linked.opening, informed.opening, (cutOff first).opening],
        [callsSince first linked, callsSince linked informed, callsSince informed (cutOff first),
          callsSince (retrying first) relinked])) =
      some ([none, none, none],
        [[.connect .opened,
          .send { Envelope.handshake ["sync", "subscriptions"] 0 with stanzaId := 1 }.frame],
        [], [],
        [.connect .opened,
          .send { Envelope.handshake ["sync", "subscriptions"] 7 with stanzaId := 2 }.frame]]) := by
    decide +kernel
  rcases exists_of_toOption_map left with ⟨first, started, same⟩
  simp only [Prod.mk.injEq, List.cons.injEq, and_true] at same
  rcases same with ⟨⟨linked, informed, cut⟩, callsLinked, silent, silentAgain, callsRelinked⟩
  exact ⟨first, started, linked, informed, cut, callsLinked, silent, silentAgain, callsRelinked⟩

theorem stanzas_of_session_relinked : ∃ first events, recorded = .ok first ∧
    Session Arrives first ((step .timer).run (retrying first)).2 events ∧
    (∃ envelopes : List Envelope, sentIn events = envelopes.map Envelope.frame ∧
      (envelopes.map fun envelope => envelope.stanzaId.toInt) = [1, 2]) ∧
    ∃ frame earlier, events = earlier ++ [.called (.connect .opened), .called (.send frame)] ∧
      ∃ features highest stanza,
        frame = { Envelope.handshake features highest with stanzaId := stanza }.frame ∧
          highest.toInt = 7 := by
  rcases calls_relinked with
    ⟨first, started, linked, informed, cut, callsLinked, silent, silentAgain, callsRelinked⟩
  have fresh := fresh_of_start started
  have connects : Arrives first (.command .connect) first := ⟨rfl, by simp [fresh.opening]⟩
  have hears : Arrives _ (.frame unheardOf) ((step (.command .connect)).run first).2 :=
    ⟨rfl, by simp [linked]⟩
  have breaks : Arrives _ .closed
      ((step (.frame unheardOf)).run ((step (.command .connect)).run first).2).2 :=
    ⟨rfl, by simp [informed]⟩
  have retries : Arrives (cutOff first) .timer (retrying first) := ⟨rfl, by simp [cut]⟩
  have stays {input : Input} {found : Engine Store (Recorder ScriptedTransport)}
      (other : ∀ waiter, input ≠ .command (.disconnect waiter)) : ¬Closes input found :=
    fun closes => closes.1.elim other
  have session := Session.goesOn (.goesOn (.goesOn (.goesOn .begins connects (stays (by simp))) hears
    (stays (by simp))) breaks (stays (by simp))) retries (stays (by simp))
  have heard : receivedBy (.frame unheardOf) ((step (.command .connect)).run first).2 =
      [.received { Envelope.of "" (.unknown 300) (.structured .null) with stanzaId := -7 }] := by
    simp only [receivedBy, decodeFrame_unheardOf]
  rw [callsLinked, silent, show callsSince _ ((step .closed).run _).2 = [] from silentAgain,
    callsRelinked, heard] at session
  rcases stanzas_of_session started (fun _ _ _ => id) session with
    ⟨⟨envelopes, sent, numbers⟩, greets, -, -⟩
  refine ⟨first, _, started, session, ⟨envelopes, sent, ?_⟩, _, _, rfl, ?_⟩
  · have two : envelopes.length = 2 := by
      rw [← List.length_map, ← sent]
      rfl
    rw [numbers (by omega), two]
    rfl
  · rcases greets _ [] _ [] rfl rfl with ⟨features, highest, stanza, carries, magnitude⟩
    exact ⟨features, highest, stanza, carries, magnitude⟩

end Engine

end MessageSync
