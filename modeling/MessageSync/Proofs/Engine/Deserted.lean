import MessageSync.Proofs.Engine.Connections

/-!
# Engines that reach no server

When every attempt to connect is refused at once, the engine never has a connection, and no attempt
waits for an answer. So commands and timers are all that it takes, and each of them at once.
-/

namespace MessageSync

/-- Transports that have no connection and refuse every attempt to connect at once. They stay so,
whatever is asked of them. -/
class Refusing {τ : Type} [Transport τ] (refusing : τ → Prop) : Prop where
  apart {transport : τ} : refusing transport → Transport.isConnected transport = false
  connect {transport : τ} (url : String) : refusing transport →
    ∃ error after, Transport.connect transport url = (.failed error, after) ∧ refusing after
  disconnect {transport : τ} : refusing transport → refusing (Transport.disconnect transport)

namespace Engine

variable {σ τ : Type} [Transport τ] {refusing : τ → Prop} {engine before after : Engine σ τ}

/-- There is no connection and no attempt that waits for an answer, and every attempt is refused. -/
structure Deserted (refusing : τ → Prop) (engine : Engine σ τ) : Prop where
  unreachable : refusing engine.transport
  apart : engine.machine.isConnected = false
  opening : engine.opening = none

/-- An engine that reaches no server still does not. -/
def StaysDeserted (refusing : τ → Prop) (before after : Engine σ τ) : Prop :=
  before.Deserted refusing → after.Deserted refusing

omit [Transport τ] in
theorem Deserted.congr (deserted : before.Deserted refusing)
    (transport : after.transport = before.transport) (machine : after.machine = before.machine)
    (opening : after.opening = before.opening) : after.Deserted refusing :=
  ⟨by rw [transport]; exact deserted.unreachable, by rw [machine]; exact deserted.apart,
    by rw [opening]; exact deserted.opening⟩

theorem Deserted.dispatch (deserted : engine.Deserted refusing) (envelope : Envelope) :
    ((dispatch envelope).run engine).2 = engine := by
  simp only [Engine.dispatch, isConnected, linkUp, run_bind, run_get, run_pure, deserted.apart]
  rfl

instance : Linking (StaysDeserted refusing : Engine σ τ → Engine σ τ → Prop) where
  refl _ := id
  trans _ _ _ first second := second ∘ first
  dispatches envelope engine deserted := by
    rw [deserted.dispatch]
    exact deserted
  aside before after aside deserted := by
    refine deserted.congr ?_ ?_ ?_ <;> rw [aside]

variable [Refusing refusing]

theorem allows_staysDeserted (input : Input) (found : Engine σ τ) :
    Allows (StaysDeserted refusing) input found where
  moves engine told other deserted := by
    refine ⟨deserted.unreachable, ?_, deserted.opening⟩
    change (engine.machine.handle told).1.isConnected = false
    by_contra connected
    have before := ConnectionMachine.isConnected_of_handle other (by simpa using connected)
    rw [deserted.apart] at before
    cases before
  loses _ _ deserted := deserted.congr rfl rfl rfl
  closes _ _ deserted :=
    ⟨Refusing.disconnect deserted.unreachable, deserted.apart, deserted.opening⟩
  begins _ _ _ _ _ _ deserted := deserted.congr rfl rfl rfl
  forgets _ _ _ _ deserted := deserted.congr rfl rfl rfl
  acknowledges _ _ _ _ _ _ _ _ _ deserted := deserted.congr rfl rfl rfl
  expires _ _ deserted := deserted.congr rfl rfl rfl
  waits _ _ waits deserted := by
    rw [deserted.opening] at waits
    cases waits
  hangsUp _ deserted :=
    ⟨Refusing.disconnect deserted.unreachable, deserted.apart, deserted.opening⟩

/-- An attempt to connect is refused. -/
theorem Deserted.openTransport (deserted : engine.Deserted refusing) :
    Deserted refusing (openTransport.run engine).2 := by
  rcases Refusing.connect engine.url deserted.unreachable with ⟨error, after, refused, unreachable⟩
  rw [run_openTransport_of_failed refused]
  exact always_openFailed_of_moves (allows_staysDeserted .timer engine).moves _ _
    ⟨unreachable, deserted.apart, deserted.opening⟩

variable [MessageLog σ]

theorem Deserted.take (deserted : engine.Deserted refusing) (input : Input) :
    Deserted refusing ((take input).run engine).2 := by
  have allows : Allows (StaysDeserted refusing) input engine := allows_staysDeserted input engine
  rcases allows.take with taken | ⟨tried, attempts, taken⟩
  · refine taken (deserted.congr (by rw [same_heard]) (by rw [same_heard]) ?_)
    by_cases ended : input = .openingOver
    · subst ended
      exact deserted.opening.symm
    · exact opening_heard ended
  · refine taken ?_
    have waits : tried.Deserted refusing := by
      refine ⟨?_, attempts.underway.apart, ?_⟩ <;> rw [attempts.same]
      · exact deserted.unreachable
      · exact deserted.opening
    rw [attempts.opens]
    exact waits.openTransport

theorem Deserted.step (deserted : engine.Deserted refusing) (input : Input) :
    Deserted refusing ((step input).run engine).2 := by
  have loses : AllowsLoss (StaysDeserted refusing : Engine σ τ → Engine σ τ → Prop) :=
    fun _ deserted => deserted.congr rfl rfl rfl
  have notices := always_notice (allows_staysDeserted input engine).moves loses
  exact related_step_of_take notices input engine (deserted.take input)

end Engine

end MessageSync
