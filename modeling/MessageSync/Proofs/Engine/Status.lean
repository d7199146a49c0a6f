import MessageSync.Proofs.Engine.Changes

/-!
# What is published

What can be seen of the engine is a copy that is brought up to date by hand, next to each change of
what it shows. Every kind of change keeps it up to date, so it is between any two inputs.
-/

namespace MessageSync

namespace Engine

variable {σ τ : Type} {engine before after : Engine σ τ} {input : Input} {asked : List Caller}

/-- What is published is the state and the epoch of the connection machine, and the texts of the last
errors of the conversations that are tracked and have one. -/
structure Mirrors (engine : Engine σ τ) : Prop where
  state : engine.status.state = engine.machine.state
  epoch : engine.status.epoch = engine.machine.epoch
  syncErrors : ∀ conversationId, engine.status.syncErrors.get? conversationId =
    (engine.coordinator.lastError? conversationId).map SyncError.message

theorem Mirrors.change (mirrors : before.Mirrors) (change : Change input asked before after) :
    after.Mirrors := by
  cases change with
  | apart apart =>
      refine ⟨?_, ?_, fun conversationId => ?_⟩
      · rw [apart.state, apart.machine, mirrors.state]
      · rw [apart.epoch, apart.machine, mirrors.epoch]
      · rw [apart.syncErrors, apart.coordinator, mirrors.syncErrors]
  | moved => exact ⟨rfl, rfl, mirrors.syncErrors⟩
  | put | begun | finished => exact ⟨mirrors.state, mirrors.epoch, mirrors.syncErrors⟩
  | rescheduled reschedules =>
      refine ⟨mirrors.state, mirrors.epoch, fun conversationId => ?_⟩
      rw [reschedules.lastError, mirrors.syncErrors]
  | concluded concludes =>
      refine ⟨?_, ?_, fun conversationId => ?_⟩
      · rw [state_published, machine_published]
        exact mirrors.state
      · rw [epoch_published, machine_published]
        exact mirrors.epoch
      · rw [get?_published, coordinator_published]
        split
        · rfl
        · next apart =>
            have kept := concludes.lastError _ apart
            exact (mirrors.syncErrors _).trans (congrArg _ kept.symm)

variable [MessageLog σ] [Transport τ] {comes : Engine σ τ → Input → Engine σ τ → Prop}
  {first : Engine σ τ} {settings : Settings} {transport : τ} {log : σ} {clock : Clock}

theorem Mirrors.step (mirrors : before.Mirrors) (input : Input) :
    Mirrors ((step input).run before).2 :=
  (changes_step input before).keeps (fun _ _ _ change mirrors => mirrors.change change) mirrors

omit [MessageLog σ] [Transport τ] in
theorem Mirrors.drift (mirrors : before.Mirrors) (drifts : Drifts before after) : after.Mirrors := by
  rw [drifts]
  exact ⟨mirrors.state, mirrors.epoch, mirrors.syncErrors⟩

/-- Between two inputs, what is published is up to date: the state and the epoch are those of the
machine, and a conversation has an error exactly if it is tracked and has a last error, whose text it
is. -/
theorem mirrors_of_runs (started : start settings transport log clock = .ok first)
    (drifts : ∀ before input found, comes before input found → Drifts before found)
    (runs : Runs comes first engine) : engine.Mirrors := by
  refine runs.keeps ?_ fun before input found mirrors arrival =>
    (mirrors.drift (drifts _ _ _ arrival)).step input
  rcases eq_of_start started with ⟨window, rfl⟩
  exact ⟨rfl, rfl, fun _ => rfl⟩

/-- An engine that finds no server, of which a sync was asked for. -/
theorem mirrors_deserted : ∃ first engine, deserted = .ok first ∧ Runs Arrives first engine ∧
    engine.status.state = .reconnecting 1 ∧
    engine.status.syncErrors.get? "c1" = some "not connected" ∧ engine.Mirrors := by
  let tried (first : Engine Store ScriptedTransport) := ((step (.command .connect)).run first).2
  let left (first : Engine Store ScriptedTransport) :=
    ((step (.command (.syncNow "c1" 7))).run (tried first)).2
  have seen : deserted.toOption.map (fun first =>
      ((tried first).opening.isNone, (left first).status.state,
        (left first).status.syncErrors.get? "c1")) =
        some (true, .reconnecting 1, some "not connected") := by decide +kernel
  rcases exists_of_toOption_map seen with ⟨first, started, same⟩
  simp only [Prod.mk.injEq] at same
  rcases same with ⟨opening, state, syncError⟩
  have fresh := fresh_of_start started
  have connects : Arrives first (.command .connect) first := ⟨rfl, by simp [fresh.opening]⟩
  have asks : Arrives (tried first) (.command (.syncNow "c1" 7)) (tried first) :=
    ⟨rfl, by simpa [Option.isSome_iff_ne_none] using opening⟩
  have runs : Runs Arrives first (left first) := .next (.next .initial connects) asks
  exact ⟨first, left first, started, runs, state, syncError,
    mirrors_of_runs started (fun _ _ _ arrival => arrival.drifts) runs⟩

end Engine

end MessageSync
