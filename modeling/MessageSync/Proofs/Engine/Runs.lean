import Mathlib.Data.List.Induction
import MessageSync.Engine.Run

/-!
# Runs of the engine

A run takes one input after the other. Before an input is taken, things may have changed that are
not the engine's own: time has passed, listeners came and went, what was put out was taken, and the
transport and the log may have been used or broken behind its back. What exactly may change there,
and which input may arrive then, is left open by a relation, so that each theorem about runs can say
what it assumes of the world.
-/

namespace MessageSync

namespace Engine

variable {σ τ : Type}

/-- Between two inputs nothing changes that is the engine's own. -/
def Drifts (before after : Engine σ τ) : Prop :=
  after = { before with
    transport := after.transport
    log := after.log
    listeners := after.listeners
    clock := after.clock
    outputs := after.outputs }

theorem Drifts.refl (engine : Engine σ τ) : Drifts engine engine := rfl

/-- An input comes to an engine that takes it: while an attempt to connect has no answer, that is
only the end of the attempt. -/
structure Arrives (before : Engine σ τ) (input : Input) (found : Engine σ τ) : Prop where
  drifts : Drifts before found
  awaited : before.opening.isSome = true ↔ input = .openingOver

/-- The engine is left by a run from the first one, in which every input comes as given. -/
inductive Runs [MessageLog σ] [Transport τ] (comes : Engine σ τ → Input → Engine σ τ → Prop)
    (first : Engine σ τ) : Engine σ τ → Prop where
  | initial : Runs comes first first
  | next {engine found : Engine σ τ} {input : Input} (runs : Runs comes first engine)
      (arrival : comes engine input found) : Runs comes first ((step input).run found).2

/-- An input that was taken, and the engine that it found. -/
structure Taken (σ τ : Type) where
  found : Engine σ τ
  input : Input

/-- The engine is left by a run from the first one, in which every input comes as given. The past
holds the inputs of the run, in order. -/
inductive Took [MessageLog σ] [Transport τ] (comes : Engine σ τ → Input → Engine σ τ → Prop)
    (first : Engine σ τ) : Engine σ τ → List (Taken σ τ) → Prop where
  | initial : Took comes first first []
  | next {engine found : Engine σ τ} {input : Input} {past : List (Taken σ τ)}
      (took : Took comes first engine past) (arrival : comes engine input found) :
      Took comes first ((step input).run found).2 (past ++ [⟨found, input⟩])

variable [MessageLog σ] [Transport τ]

theorem Took.runs {comes : Engine σ τ → Input → Engine σ τ → Prop} {first engine : Engine σ τ}
    {past : List (Taken σ τ)} (took : Took comes first engine past) : Runs comes first engine := by
  induction took with
  | initial => exact .initial
  | next took arrival runs => exact .next runs arrival

/-- The engine that a step leaves which took an input. -/
def Taken.left (taken : Taken σ τ) : Engine σ τ :=
  ((step taken.input).run taken.found).2

theorem Took.last {comes : Engine σ τ → Input → Engine σ τ → Prop} {first engine : Engine σ τ}
    {past : List (Taken σ τ)} {taken : Taken σ τ}
    (took : Took comes first engine (past ++ [taken])) :
    ∃ before, Took comes first before past ∧ comes before taken.input taken.found ∧
      engine = taken.left := by
  generalize whole : past ++ [taken] = inputs at took
  cases took with
  | initial => simp at whole
  | next took arrival =>
      rw [List.append_singleton_inj] at whole
      rcases whole with ⟨rfl, rfl⟩
      exact ⟨_, took, arrival, rfl⟩

/-- A run can be taken apart at any of its inputs. -/
theorem Took.split {comes : Engine σ τ → Input → Engine σ τ → Prop} {first engine : Engine σ τ}
    {earlier later : List (Taken σ τ)} (took : Took comes first engine (earlier ++ later)) :
    ∃ middle, Took comes first middle earlier ∧ Took comes middle engine later := by
  induction later using List.reverseRecOn generalizing engine with
  | nil => exact ⟨engine, (List.append_nil earlier).symm ▸ took, .initial⟩
  | append_singleton later last split =>
      rw [← List.append_assoc] at took
      rcases took.last with ⟨before, went, arrival, rfl⟩
      rcases split went with ⟨middle, took, rest⟩
      exact ⟨middle, took, .next rest arrival⟩

/-- What holds first, is kept between the inputs and is kept by the steps of a run, holds all through
the run. -/
theorem Took.keeps {comes : Engine σ τ → Input → Engine σ τ → Prop} {first engine : Engine σ τ}
    {past : List (Taken σ τ)} (took : Took comes first engine past) (holds : Engine σ τ → Prop)
    (initially : holds first)
    (waits : ∀ before input found, comes before input found → holds before → holds found)
    (kept : ∀ taken ∈ past, holds taken.found → holds taken.left) :
    holds engine ∧ ∀ taken ∈ past, holds taken.found := by
  induction took with
  | initial => exact ⟨initially, fun _ none => absurd none List.not_mem_nil⟩
  | @next before found input past took arrival ih =>
      rcases ih fun taken mem => kept taken (List.mem_append_left _ mem) with ⟨held, earlier⟩
      have finds : holds found := waits _ _ _ arrival held
      have last : ⟨found, input⟩ ∈ past ++ [(⟨found, input⟩ : Taken σ τ)] :=
        List.mem_append_right _ List.mem_cons_self
      refine ⟨kept _ last finds, fun taken mem => ?_⟩
      rcases List.mem_append.mp mem with mem | mem
      · exact earlier taken mem
      · rwa [List.mem_singleton.mp mem]

/-- What holds first and is kept by every step holds after every run. -/
theorem Runs.keeps {comes : Engine σ τ → Input → Engine σ τ → Prop} {first engine : Engine σ τ}
    {holds : Engine σ τ → Prop} (runs : Runs comes first engine) (initially : holds first)
    (kept : ∀ engine input found, holds engine → comes engine input found →
      holds ((step input).run found).2) :
    holds engine := by
  induction runs with
  | initial => exact initially
  | next runs arrival held => exact kept _ _ _ held arrival

theorem run_step (engine : Engine σ τ) (input : Input) :
    ((step input).run engine).2 =
      if ((take input).run engine).2.opening.isNone then
        (noticeBrokenLink.run ((take input).run engine).2).2
      else ((take input).run engine).2 := by
  change ((if ((take input).run engine).2.opening.isNone = true then _ else _ :
    EngineM σ τ Unit).run _).2 = _
  split <;> rfl

/-- What an engine is like before its first input. -/
structure Fresh (engine : Engine σ τ) (transport : τ) (log : σ) : Prop where
  transport : engine.transport = transport
  log : engine.log = log
  machine : ∃ backoff, engine.machine = .start backoff
  registry : engine.registry.pending = .empty
  waits : ∀ conversationId, engine.coordinator.isInFlight conversationId = false
  schedules : engine.coordinator.conversations = .empty
  retryAt : engine.retryAt = none
  opening : engine.opening = none

omit [MessageLog σ] [Transport τ] in
theorem validate_of_start {settings : Settings} {transport : τ} {log : σ} {clock : Clock}
    {first : Engine σ τ} (started : start settings transport log clock = .ok first) :
    settings.validate = .ok () := by
  simp only [start] at started
  cases valid : settings.validate with
  | error error => simp [valid, bind, Except.bind, throw, throwThe, MonadExceptOf.throw] at started
  | ok done => rfl

omit [MessageLog σ] [Transport τ] in
theorem eq_of_start {settings : Settings} {transport : τ} {log : σ} {clock : Clock}
    {first : Engine σ τ} (started : start settings transport log clock = .ok first) :
    ∃ window, first = {
      url := settings.connection.url
      features := settings.connection.features
      fallbackConversation := settings.connection.defaultConversation.getD ""
      connectTimeout := settings.connection.connectTimeout
      window
      transport
      log
      machine := .start settings.connection.backoff
      stanzas := .start
      registry := .empty settings.connection.subscribeTimeout
      coordinator := .empty settings.sync.policy
      retryAt := none
      opening := none
      status := ⟨.disconnected, 0, none, .empty⟩
      listeners := .empty
      localIds := []
      clock
      outputs := [] } := by
  have valid := validate_of_start started
  cases held : settings.sync.window? with
  | none => simp [start, valid, held, throw, throwThe, MonadExceptOf.throw] at started
  | some window =>
      simp only [start, valid, held] at started
      cases started
      exact ⟨window, rfl⟩

omit [MessageLog σ] [Transport τ] in
theorem fresh_of_start {settings : Settings} {transport : τ} {log : σ} {clock : Clock}
    {first : Engine σ τ} (started : start settings transport log clock = .ok first) :
    first.Fresh transport log := by
  rcases eq_of_start started with ⟨window, rfl⟩
  exact ⟨rfl, rfl, ⟨_, rfl⟩, rfl, fun _ => rfl, rfl, rfl, rfl⟩

end Engine

end MessageSync
