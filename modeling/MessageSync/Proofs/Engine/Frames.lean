import MessageSync.Proofs.Engine.Outbox
import MessageSync.Proofs.Wire.Classification

/-!
# Frames that leave no trace

A frame that is not decoded changes nothing. A frame whose envelope has a body that does not fit its
type, stands for a payload of no known shape, or is of a type that is not handled, changes nothing
but the highest stanza number seen from the server: every handler reads the body as a whole before
it does anything.
-/

namespace MessageSync

namespace Envelope

/-- The layout that the bodies of a handled type are read with. -/
inductive HandledAs : MessageType → {ρ : Type} → Layout ρ ρ → Prop where
  | subscribeAck : HandledAs .subscribeAck SubscribeAck.layout
  | userMessage : HandledAs .userMessage ChatMessage.layout
  | assistantMessage : HandledAs .assistantMessage ChatMessage.layout
  | syncResponse : HandledAs .syncResponse SyncResponse.layout
  | syncAvailable : HandledAs .syncAvailable SyncAvailable.layout
  | titleUpdate : HandledAs .titleUpdate TitleUpdate.layout
  | generationComplete : HandledAs .generationComplete GenerationComplete.layout
  | error : HandledAs .error ErrorBody.layout

/-- There is nothing to do about the envelope. -/
inductive Idle : Envelope → Prop where
  /-- Its body does not fit its type. -/
  | unfit {envelope : Envelope} {ρ : Type} {layout : Layout ρ ρ} {reason : CodecError}
      (handled : HandledAs envelope.messageType layout)
      (refused : envelope.bodyAs layout.codec = .error reason) : Idle envelope
  /-- It stands for a value that no rule fits. -/
  | unclassified (value : Value) (fallback : String) : Idle (.unclassified value fallback)
  /-- A peer says so of a value that it sent. -/
  | reportedUnclassified {envelope : Envelope} {error : ErrorBody}
      (isError : envelope.messageType = .error)
      (read : envelope.bodyAs ErrorBody.layout.codec = .ok error)
      (code : error.code = Engine.unclassifiedCode) : Idle envelope
  /-- No type of body is handled for its type. -/
  | unhandled {envelope : Envelope}
      (noLayout : ∀ {ρ : Type} (layout : Layout ρ ρ), ¬HandledAs envelope.messageType layout) :
      Idle envelope

theorem idle_of_unknown {envelope : Envelope} {code : UInt16}
    (unknown : envelope.messageType = .unknown code) : envelope.Idle := by
  apply Idle.unhandled
  intro ρ layout handled
  rw [unknown] at handled
  cases handled

/-- The error that stands for a value of no known shape is read as an error with that code. -/
theorem bodyAs_unclassified (value : Value) (fallback : String) :
    (unclassified value fallback).bodyAs ErrorBody.layout.codec =
      .ok ⟨Engine.unclassifiedCode, "payload did not match any known shape", none, none⟩ := by
  have names : ErrorBody.layout.names.Nodup := by decide +kernel
  have keys : ((unclassifiedEntries value).map Prod.fst).Nodup := by simp [unclassifiedEntries]
  let error : ErrorBody :=
    ⟨Engine.unclassifiedCode, "payload did not match any known shape", none, none⟩
  have found : ErrorBody.layout.Found (Item.fieldsOf (unclassifiedEntries value)) error :=
    ⟨⟨⟨⟨trivial, rfl⟩, rfl⟩, rfl⟩, rfl⟩
  have read := Layout.read_object names keys found
  simp only [bodyAs, body_unclassified, Layout.codec, read]
  rfl

end Envelope

/-- Noting a stanza number changes the highest one of the server at most, and only upwards. -/
theorem StanzaTracker.observe_eq (tracker : StanzaTracker) (stanza : Int64) :
    ∃ highest, tracker.lastServer ≤ highest ∧
      tracker.observe stanza = { tracker with lastServer := highest } := by
  rw [observe]
  split
  · refine ⟨max tracker.lastServer (magnitude stanza), ?_, rfl⟩
    change tracker.lastServer ≤ if tracker.lastServer ≤ magnitude stanza then _ else _
    split
    · assumption
    · exact Int64.le_refl _
  · exact ⟨tracker.lastServer, Int64.le_refl _, rfl⟩

namespace Engine

variable {σ τ : Type} {engine : Engine σ τ} {envelope : Envelope} {content : Packing.Bytes}

/-! ## Envelopes -/

theorem run_withBody_of_unfit {ρ : Type} {layout : Layout ρ ρ} {reason : CodecError}
    (refused : envelope.bodyAs layout.codec = .error reason) (take : ρ → EngineM σ τ Unit) :
    ((withBody envelope layout take).run engine).2 = engine := by
  simp only [withBody, refused]
  rfl

theorem run_takeError_of_unclassified {error : ErrorBody} (code : error.code = unclassifiedCode) :
    ((takeError envelope error : EngineM σ τ Unit).run engine).2 = engine := by
  simp only [takeError, code]
  rfl

section

variable [MessageLog σ]

/-- An envelope of a handled type is taken by its body, and only if the body fits. -/
theorem exists_route_eq {ρ : Type} {layout : Layout ρ ρ}
    (handled : Envelope.HandledAs envelope.messageType layout) :
    ∃ take : ρ → EngineM σ τ Unit, route envelope = withBody envelope layout take := by
  generalize typeEq : envelope.messageType = type at handled
  cases handled <;> exact ⟨_, by simp only [route, typeEq]; rfl⟩

theorem route_of_unhandled
    (noLayout : ∀ {ρ : Type} (layout : Layout ρ ρ), ¬Envelope.HandledAs envelope.messageType layout) :
    (route envelope : EngineM σ τ Unit) = pure () := by
  generalize typeEq : envelope.messageType = type at noLayout
  cases type with
  | subscribeAck => exact absurd .subscribeAck (noLayout SubscribeAck.layout)
  | userMessage => exact absurd .userMessage (noLayout ChatMessage.layout)
  | assistantMessage => exact absurd .assistantMessage (noLayout ChatMessage.layout)
  | syncResponse => exact absurd .syncResponse (noLayout SyncResponse.layout)
  | syncAvailable => exact absurd .syncAvailable (noLayout SyncAvailable.layout)
  | titleUpdate => exact absurd .titleUpdate (noLayout TitleUpdate.layout)
  | generationComplete => exact absurd .generationComplete (noLayout GenerationComplete.layout)
  | error => exact absurd .error (noLayout ErrorBody.layout)
  | _ => simp only [route, typeEq]

theorem run_route_of_idle (idle : envelope.Idle) :
    ((route envelope : EngineM σ τ Unit).run engine).2 = engine := by
  cases idle with
  | @unfit _ _ _ _ handled refused =>
      rcases exists_route_eq (σ := σ) (τ := τ) handled with ⟨take, routeEq⟩
      rw [routeEq, run_withBody_of_unfit refused take]
  | unclassified value fallback =>
      -- The error made here is read like one that a peer sent, and dropped for its code.
      change ((withBody _ ErrorBody.layout (takeError _) : EngineM σ τ Unit).run engine).2 = _
      simp only [withBody, Envelope.bodyAs_unclassified]
      exact run_takeError_of_unclassified rfl
  | reportedUnclassified isError read code =>
      simp only [route, isError, withBody, read]
      exact run_takeError_of_unclassified code
  | unhandled noLayout =>
      rw [route_of_unhandled noLayout]
      rfl

/-! ## Frames -/

theorem run_takeFrame_of_refused {reason : CodecError}
    (refused : Envelope.decodeFrame content engine.fallbackConversation = .error reason) :
    ((takeFrame content : EngineM σ τ Unit).run engine).2 = engine := by
  simp only [takeFrame, run_bind, run_get, refused]
  rfl

theorem run_takeFrame_of_decoded
    (decoded : Envelope.decodeFrame content engine.fallbackConversation = .ok envelope) :
    (takeFrame content : EngineM σ τ Unit).run engine =
      (route envelope).run { engine with stanzas := engine.stanzas.observe envelope.stanzaId } := by
  simp only [takeFrame, run_bind, run_get, decoded]
  rfl

end

section

variable [Transport τ]

theorem run_noticeBrokenLink_of_linked (linked : Transport.isConnected engine.transport = true) :
    ((noticeBrokenLink : EngineM σ τ Unit).run engine).2 = engine := by
  simp only [noticeBrokenLink, isConnected, linkUp, run_bind, run_get, run_pure, linked,
    Bool.not_true, Bool.and_false, Bool.false_eq_true, if_false]

variable [MessageLog σ]

/-- The frame leaves the engine as `after`, both when it is taken and, over an open link, in the
whole step. -/
def Leaves (content : Packing.Bytes) (engine after : Engine σ τ) : Prop :=
  ((take (.frame content)).run engine).2 = after ∧
    (Transport.isConnected engine.transport = true →
      ((step (.frame content)).run engine).2 = after)

theorem leaves_of_takeFrame {after : Engine σ τ}
    (taken : ((takeFrame content : EngineM σ τ Unit).run engine).2 = after)
    (sameTransport : after.transport = engine.transport) : Leaves content engine after := by
  have took : ((take (.frame content) : EngineM σ τ Unit).run engine).2 = after := taken
  refine ⟨took, ?_⟩
  intro linked
  rw [run_step, took]
  split
  · exact run_noticeBrokenLink_of_linked (by rw [sameTransport, linked])
  · rfl

/-- A frame that is not decoded leaves the engine as it is. A frame with an envelope that there is
nothing to do about changes the highest stanza number seen from the server at most. -/
theorem leaves_frame (engine : Engine σ τ) (content : Packing.Bytes) :
    (∀ reason, Envelope.decodeFrame content engine.fallbackConversation = .error reason →
      Leaves content engine engine) ∧
    ∀ envelope, Envelope.decodeFrame content engine.fallbackConversation = .ok envelope →
      envelope.Idle → ∃ highest, engine.stanzas.lastServer ≤ highest ∧
        Leaves content engine
          { engine with stanzas := { engine.stanzas with lastServer := highest } } := by
  constructor
  · intro reason refused
    exact leaves_of_takeFrame (run_takeFrame_of_refused refused) rfl
  · intro envelope decoded idle
    rcases engine.stanzas.observe_eq envelope.stanzaId with ⟨highest, higher, observed⟩
    refine ⟨highest, higher, leaves_of_takeFrame ?_ rfl⟩
    rw [run_takeFrame_of_decoded decoded, run_route_of_idle idle, observed]

end

/-- A frame of the server with the type 300, which no table has, and the stanza number -7. -/
def unheardOf : Packing.Bytes :=
  [0x82, 0xA4, 0x74, 0x79, 0x70, 0x65, 0xCD, 0x01, 0x2C, 0xA8, 0x73, 0x74, 0x61, 0x6E, 0x7A, 0x61,
    0x49, 0x64, 0xF9]

theorem decodeFrame_unheardOf (fallback : String) :
    Envelope.decodeFrame unheardOf fallback =
      .ok { Envelope.of "" (.unknown 300) (.structured .null) with stanzaId := -7 } :=
  rfl

theorem leaves_frame_connected : ∃ first : Engine Store ScriptedTransport, unconnected = .ok first ∧
    let connected := ((step (.command .connect)).run first).2
    Transport.isConnected connected.transport = true ∧ Leaves [0xC1] connected connected ∧
      ∃ highest, connected.stanzas.lastServer ≤ highest ∧ Leaves unheardOf connected
        { connected with stanzas := { connected.stanzas with lastServer := highest } } := by
  have linked : unconnected.toOption.map (fun first =>
      Transport.isConnected ((step (.command .connect)).run first).2.transport) = some true := by
    decide +kernel
  rcases exists_of_toOption_map linked with ⟨first, started, isLinked⟩
  rcases leaves_frame ((step (.command .connect)).run first).2 [0xC1] with ⟨refused, -⟩
  rcases leaves_frame ((step (.command .connect)).run first).2 unheardOf with ⟨-, idles⟩
  refine ⟨first, started, isLinked, refused _ rfl, ?_⟩
  exact idles _ (decodeFrame_unheardOf _) (Envelope.idle_of_unknown rfl)

end Engine

end MessageSync
