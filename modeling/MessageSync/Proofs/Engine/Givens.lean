import MessageSync.Proofs.Engine.Connections

/-!
# What the engine is given

The clock, the echo window and the timeouts are given to the engine. No step changes them.
-/

namespace MessageSync

namespace SubscriptionRegistry

variable {registry : SubscriptionRegistry}

theorem timeout_begin (conversationId : String) (waiter : Waiter) (instant : Instant) :
    (registry.begin conversationId waiter instant).2.timeout = registry.timeout := by
  simp only [begin]
  split <;> rfl

theorem timeout_acknowledge (ack : SubscribeAck) (instant : Instant) :
    (registry.acknowledge ack instant).2.2.timeout = registry.timeout := by
  simp only [acknowledge]
  split
  · split
    · rfl
    · split <;> rfl
  · split
    · split <;> rfl
    · split
      · rfl
      · split <;> rfl

end SubscriptionRegistry

namespace Engine

variable {σ τ : Type}

/-- What an engine works with but does not decide. -/
structure Givens where
  clock : Clock
  window : MatchWindow
  connectTimeout : Millis
  subscribeTimeout : Millis

/-- What the engine is given. -/
def givens (engine : Engine σ τ) : Givens :=
  ⟨engine.clock, engine.window, engine.connectTimeout, engine.registry.timeout⟩

/-- Both engines are given the same. -/
def SameGivens (before after : Engine σ τ) : Prop :=
  after.givens = before.givens

theorem sameGivens_of_timeout {engine : Engine σ τ} {registry : SubscriptionRegistry}
    (same : registry.timeout = engine.registry.timeout) :
    SameGivens engine { engine with registry } := by
  rw [SameGivens, givens, same]
  rfl

section Steps

variable [Transport τ]

instance : Linking (SameGivens : Engine σ τ → Engine σ τ → Prop) where
  refl _ := rfl
  trans _ _ _ first second := Eq.trans second first
  dispatches := dispatches_of_sends fun _ _ sends => by
    rw [sends.same]
    rfl
  aside _ _ aside := by
    rw [aside]
    rfl

instance : Connecting (SameGivens : Engine σ τ → Engine σ τ → Prop) where
  setLastError _ _ := rfl
  transport _ _ := rfl
  opening _ _ := rfl
  handles _ _ := related_handle rfl fun _ _ =>
    always_performs (fun _ _ => rfl) fun _ _ => rfl

variable [MessageLog σ]

theorem sameGivens_finishTimer (firedAt : Instant) :
    Always SameGivens (finishTimer firedAt : EngineM σ τ Unit) :=
  always_endTimer fun _ => rfl

theorem sameGivens_take (input : Input) :
    Always SameGivens (take input : EngineM σ τ Unit) := by
  refine always_take_of_handlers sameGivens_finishTimer (fun _ => rfl) ?_ ?_
  · intro command _
    exact always_handleCommand (fun _ _ => always_apply _)
      (fun _ _ _ _ _ _ => sameGivens_of_timeout (SubscriptionRegistry.timeout_begin _ _ _))
      fun _ _ _ _ => rfl
  · intro content _ engine
    have heard : SameGivens engine (heard (.frame content) engine) := by
      rw [same_heard]
      rfl
    exact trans_of SameGivens heard
      (related_takeFrame fun _ _ _ _ _ _ _ =>
        sameGivens_of_timeout (SubscriptionRegistry.timeout_acknowledge _ _))

theorem sameGivens_step (input : Input) :
    Always SameGivens (step input : EngineM σ τ Unit) :=
  fun engine => trans_of SameGivens (sameGivens_take input engine)
    (related_step_of_take always_noticeBrokenLink input engine)

omit [MessageLog σ] in
theorem sameGivens_teardown : Always SameGivens (teardown : EngineM σ τ Unit) := by
  refine .bind (always_onRegistry fun _ => rfl) fun _ => ?_
  refine .bind (always_finishSyncs fun _ => rfl) fun _ => ?_
  exact fun _ => rfl

end Steps

end Engine

end MessageSync
