import Mathlib.Order.Defs.Unbundled
import MessageSync.Engine.Run
import MessageSync.Proofs.Reconcile.Lookups
import MessageSync.Proofs.Schedule.Coordinator

/-!
# What every run of a computation does

A computation of the engine is followed part by part. Relations between the engine before and the
engine after that are reflexive and transitive hold of a whole computation if they hold of its
parts. Two such relations are given here, for the parts that put something out and for those that
send something.
-/

namespace MessageSync

namespace Engine

variable {σ τ α β : Type} {engine : Engine σ τ}

/-! ## Parts of computations -/

theorem run_pure (value : α) : (pure value : EngineM σ τ α).run engine = (value, engine) := rfl

theorem run_bind (first : EngineM σ τ α) (next : α → EngineM σ τ β) :
    (first >>= next).run engine = (next (first.run engine).1).run (first.run engine).2 := rfl

theorem run_get : (get : EngineM σ τ (Engine σ τ)).run engine = (engine, engine) := rfl

theorem run_now : (now : EngineM σ τ Instant).run engine = (engine.clock.now, engine) := rfl

theorem run_set (other : Engine σ τ) : (set other : EngineM σ τ Unit).run engine = ((), other) := rfl

theorem run_modify (change : Engine σ τ → Engine σ τ) :
    (modify change : EngineM σ τ Unit).run engine = ((), change engine) := rfl

theorem run_forM_nil (act : β → EngineM σ τ Unit) :
    (([] : List β).forM act).run engine = ((), engine) := rfl

theorem run_forM_cons (act : β → EngineM σ τ Unit) (first : β) (rest : List β) :
    ((first :: rest).forM act).run engine = (rest.forM act).run ((act first).run engine).2 := rfl

theorem run_onLog (run : LogM σ α) :
    (onLog run : EngineM σ τ _).run engine =
      ((run.runOn engine.log).1, { engine with log := (run.runOn engine.log).2 }) := rfl

theorem run_onLog_query (question : σ → Except LogError α) :
    (onLog (.query question) : EngineM σ τ _).run engine = (question engine.log, engine) := rfl

theorem run_onLog_modify (operation : σ → Except LogError σ) :
    (onLog (.modify operation) : EngineM σ τ _).run engine =
      match operation engine.log with
      | .ok log => (.ok (), { engine with log })
      | .error error => (.error error, engine) := by
  simp only [run_onLog, LogM.runOn, LogM.modify, LogM.change]
  cases operation engine.log <;> rfl

/-- Whatever engine the computation is run on, it leaves an engine so related to it. -/
def Always (related : Engine σ τ → Engine σ τ → Prop) (computation : EngineM σ τ α) : Prop :=
  ∀ engine, related engine (computation.run engine).2

namespace Always

variable {related other : Engine σ τ → Engine σ τ → Prop}

theorem mono {computation : EngineM σ τ α} (always : Always related computation)
    (weaker : ∀ before after, related before after → other before after) :
    Always other computation :=
  fun engine => weaker _ _ (always engine)

theorem pure [Std.Refl related] (value : α) : Always related (pure value : EngineM σ τ α) :=
  fun engine => refl_of related engine

theorem get [Std.Refl related] : Always related (get : EngineM σ τ (Engine σ τ)) :=
  fun engine => refl_of related engine

theorem bind [IsTrans _ related] {first : EngineM σ τ α} {next : α → EngineM σ τ β}
    (always : Always related first) (alwaysNext : ∀ value, Always related (next value)) :
    Always related (first >>= next) :=
  fun engine => trans_of related (always engine) (alwaysNext _ _)

/-- What comes after the first part of a computation. -/
theorem rest {first : EngineM σ τ α} {next : α → EngineM σ τ β}
    (alwaysNext : ∀ value, Always related (next value)) :
    related (first.run engine).2 ((first >>= next).run engine).2 :=
  alwaysNext _ _

theorem get_bind {next : Engine σ τ → EngineM σ τ α}
    (leads : ∀ engine, related engine ((next engine).run engine).2) :
    Always related (MonadState.get >>= next) :=
  leads

theorem forM [IsPreorder _ related] {act : β → EngineM σ τ Unit} {values : List β}
    (always : ∀ value ∈ values, Always related (act value)) :
    Always related (values.forM act) := by
  induction values with
  | nil => exact pure ()
  | cons value values rest =>
      exact bind (always value List.mem_cons_self) fun _ =>
        rest fun other mem => always other (List.mem_cons_of_mem _ mem)

end Always

theorem always_onLog {related : Engine σ τ → Engine σ τ → Prop} {run : LogM σ α}
    (logs : ∀ engine : Engine σ τ,
      related engine { engine with log := (run.runOn engine.log).2 }) :
    Always related (onLog run : EngineM σ τ (Except LogError α)) :=
  logs

/-! ## Output -/

/-- The answers to requests to write a message. -/
def written (engine : Engine σ τ) : List (Waiter × Except EngineError Message) :=
  engine.outputs.filterMap fun
    | .reply waiter (.written result) => some (waiter, result)
    | _ => none

/-- Only what is put out and what is published differs, and no request to write a message is
answered. -/
structure Outward (before after : Engine σ τ) : Prop where
  same : after = { before with outputs := after.outputs, status := after.status }
  written : after.written = before.written

instance : IsPreorder (Engine σ τ) Outward where
  refl _ := ⟨rfl, rfl⟩
  trans _ _ _ first second :=
    ⟨by rw [second.same, first.same], second.written.trans first.written⟩

theorem outward_put {output : Output}
    (other : ∀ waiter result, output ≠ .reply waiter (.written result)) :
    Always Outward (put output : EngineM σ τ Unit) := by
  intro engine
  refine ⟨rfl, ?_⟩
  simp only [written, put, run_modify, List.filterMap_append]
  cases output with
  | told => simp
  | reply waiter reply => cases reply <;> simp_all

theorem run_forM_put (output : β → Output) (values : List β) :
    (values.forM fun value => put (output value) : EngineM σ τ Unit).run engine =
      ((), { engine with outputs := engine.outputs ++ values.map output }) := by
  induction values generalizing engine with
  | nil => rw [run_forM_nil, List.map_nil, List.append_nil]
  | cons value values rest =>
      rw [run_forM_cons, rest, List.map_cons, List.append_cons]
      rfl

theorem run_tell (event : Event) :
    (tell event : EngineM σ τ Unit).run engine =
      ((), { engine with outputs := engine.outputs ++
        (engine.listeners.called event).map (.told · event) }) :=
  run_forM_put _ _

theorem run_answerSyncs (answers : List SyncAnswer) :
    (answerSyncs answers : EngineM σ τ Unit).run engine =
      ((), { engine with
        outputs := engine.outputs ++
          answers.map fun answer => .reply answer.waiter (.synced answer.result) }) :=
  run_forM_put _ _

theorem outward_answerSubscribes (answers : List SubscribeAnswer) :
    Always Outward (answerSubscribes answers : EngineM σ τ Unit) :=
  .forM fun _ _ => outward_put (by simp)

theorem outward_onRegistry
    (change : SubscriptionRegistry → α × List SubscribeAnswer × SubscriptionRegistry)
    (engine : Engine σ τ) : Outward { engine with registry := (change engine.registry).2.2 }
      ((onRegistry change).run engine).2 :=
  outward_answerSubscribes (change engine.registry).2.1
    { engine with registry := (change engine.registry).2.2 }

theorem outward_answerSyncs (answers : List SyncAnswer) :
    Always Outward (answerSyncs answers : EngineM σ τ Unit) :=
  .forM fun _ _ => outward_put (by simp)

theorem outward_tell (event : Event) : Always Outward (tell event : EngineM σ τ Unit) :=
  .bind .get fun _ => .forM fun _ _ => outward_put (by simp)

theorem outward_setSyncError (conversationId : String) (error : Option String) :
    Always Outward (setSyncError conversationId error : EngineM σ τ Unit) :=
  fun _ => ⟨rfl, rfl⟩

theorem outward_publishSyncError (conversationId : String) :
    Always Outward (publishSyncError conversationId : EngineM σ τ Unit) :=
  .bind .get fun _ => outward_setSyncError _ _

theorem outward_setLastError (error : Option String) :
    Always Outward (setLastError error : EngineM σ τ Unit) :=
  fun _ => ⟨rfl, rfl⟩

theorem outward_publishState : Always Outward (publishState : EngineM σ τ Unit) :=
  fun _ => ⟨rfl, rfl⟩

/-- A preorder that relates engines between which something was put out. -/
class Telling (related : Engine σ τ → Engine σ τ → Prop) : Prop extends
    IsPreorder (Engine σ τ) related where
  outward : ∀ before after, Outward before after → related before after

section Telling

variable {related : Engine σ τ → Engine σ τ → Prop} [Telling related]

theorem Always.outward {computation : EngineM σ τ α} (always : Always Outward computation) :
    Always related computation :=
  always.mono Telling.outward

theorem always_now : Always related (now : EngineM σ τ Instant) :=
  .bind .get fun _ => .pure _

theorem always_isConnected : Always related (isConnected : EngineM σ τ Bool) :=
  .bind .get fun _ => .pure _

theorem always_pushLive (conversationId : String) :
    Always related (pushLive conversationId : EngineM σ τ Bool) :=
  .bind .get fun _ => .pure _

theorem always_reply {waiter : Waiter} {answer : Reply}
    (other : ∀ result, answer ≠ .written result) :
    Always related (reply waiter answer : EngineM σ τ Unit) :=
  .outward (outward_put fun _ result same => other result (Output.reply.inj same).2)

theorem always_onRegistry
    {change : SubscriptionRegistry → α × List SubscribeAnswer × SubscriptionRegistry}
    (changes : ∀ engine : Engine σ τ,
      related engine { engine with registry := (change engine.registry).2.2 }) :
    Always related (onRegistry change) :=
  fun engine => trans_of related (changes engine) (Telling.outward _ _ (outward_onRegistry _ _))

theorem always_finishSyncs {change : SyncCoordinator → List SyncAnswer × SyncCoordinator}
    (changes : ∀ engine : Engine σ τ,
      related engine { engine with coordinator := (change engine.coordinator).2 }) :
    Always related (finishSyncs change) := by
  intro engine
  simp only [finishSyncs, run_bind, run_get, run_modify]
  exact trans_of related (changes engine) (Always.outward (outward_answerSyncs _) _)

theorem always_query (question : σ → Except LogError α) :
    Always related (onLog (.query question) : EngineM σ τ _) :=
  fun engine => refl_of related engine

theorem always_failSync_of {conversationId : String} {error : SyncError} {instant : Instant}
    (fails : ∀ engine : Engine σ τ, related engine { engine with
      coordinator := (engine.coordinator.fail conversationId error instant).2 }) :
    Always related (failSync conversationId error instant : EngineM σ τ Unit) :=
  .bind (always_finishSyncs fails) fun _ => .outward (outward_publishSyncError _)

theorem always_completeSync_of {summary : SyncSummary} {instant : Instant}
    (succeeds : ∀ (engine : Engine σ τ) (live : Bool), related engine { engine with
      coordinator := (engine.coordinator.succeed summary instant live).2 }) :
    Always related (completeSync summary instant : EngineM σ τ Unit) := by
  refine .bind (always_pushLive _) fun live => ?_
  refine .bind (.outward (outward_tell _)) fun _ => ?_
  exact .bind (always_finishSyncs fun engine => succeeds engine live) fun _ =>
    .outward (outward_publishSyncError _)

theorem always_release [MessageLog σ] {conversationId : String}
    (drops : ∀ engine : Engine σ τ, related engine { engine with
      coordinator := (engine.coordinator.untrack conversationId).2 }) :
    Always related (release conversationId : EngineM σ τ Unit) := by
  refine .bind .get fun _ => ?_
  split
  · exact .pure ()
  · refine .bind (always_query _) fun listed => ?_
    split
    · exact .bind (always_finishSyncs drops) fun _ => .outward (outward_setSyncError _ _)
    · exact .pure ()

end Telling

/-! ## Sending -/

variable [Transport τ]

/-- Only the transport and the count of stanzas differ, and the link was not opened. -/
structure Sends (before after : Engine σ τ) : Prop where
  same : after = { before with transport := after.transport, stanzas := after.stanzas }
  link : Transport.isConnected after.transport = true → Transport.isConnected before.transport = true

instance : IsPreorder (Engine σ τ) Sends where
  refl _ := ⟨rfl, id⟩
  trans _ _ _ first second :=
    ⟨by rw [second.same, first.same], fun connected => first.link (second.link connected)⟩

/-- What sending does while there is a connection. -/
theorem run_dispatch_of_connected (envelope : Envelope) (connected : engine.machine.isConnected)
    (open_ : Transport.isConnected engine.transport = true) :
    (dispatch envelope).run engine =
      match envelope.validate with
      | .error error => (.error (.codec error), engine)
      | .ok () =>
        let (stanza, stanzas) := engine.stanzas.take
        let (sent, transport) :=
          Transport.send engine.transport { envelope with stanzaId := stanza }.frame
        match sent with
        | .error error => (.error (.transport error), { engine with stanzas, transport })
        | .ok () => (.ok stanza, { engine with stanzas, transport }) := by
  simp only [dispatch, isConnected, linkUp, run_bind, run_get, run_pure, connected, open_,
    Bool.and_self, Bool.not_true, Bool.false_eq_true, reduceIte]
  cases envelope.validate with
  | error error => rfl
  | ok valid =>
      simp only [run_bind, run_get, run_set]
      generalize Transport.send engine.transport _ = sending
      rcases sending with ⟨_ | _, _⟩ <;> rfl

theorem run_dispatch_of_not_connected (envelope : Envelope)
    (apart : ¬(engine.machine.isConnected ∧ Transport.isConnected engine.transport = true)) :
    (dispatch envelope).run engine = (.error .notConnected, engine) := by
  have refused : (engine.machine.isConnected && Transport.isConnected engine.transport) = false := by
    simpa using apart
  simp only [dispatch, isConnected, linkUp, run_bind, run_get, run_pure, refused, Bool.not_false,
    reduceIte]

theorem sends_dispatch (envelope : Envelope) :
    Always Sends (dispatch envelope : EngineM σ τ (Except EngineError Int64)) := by
  intro engine
  by_cases linked : engine.machine.isConnected ∧ Transport.isConnected engine.transport = true
  · rw [run_dispatch_of_connected envelope linked.1 linked.2]
    split
    · exact refl_of Sends engine
    · simp only
      split <;> exact ⟨rfl, fun _ => linked.2⟩
  · rw [run_dispatch_of_not_connected envelope linked]
    exact refl_of Sends engine

/-! ## What may happen all the time -/

/-- A preorder that relates engines between which something was put out or sent. -/
class Outspoken (related : Engine σ τ → Engine σ τ → Prop) : Prop extends Telling related where
  dispatches : ∀ envelope : Envelope,
    Always related (dispatch envelope : EngineM σ τ (Except EngineError Int64))

/-- It also relates engines between which the schedules were changed so that no conversation is
lost, and no request and no caller is new. -/
class Discreet (related : Engine σ τ → Engine σ τ → Prop) : Prop extends Outspoken related where
  hushed : ∀ (engine : Engine σ τ) (coordinator : SyncCoordinator),
    engine.coordinator.Hushed coordinator → related engine { engine with coordinator }

/-- Callers may be new, too. -/
class Mild (related : Engine σ τ → Engine σ τ → Prop) : Prop extends Outspoken related where
  tame : ∀ (engine : Engine σ τ) (coordinator : SyncCoordinator),
    engine.coordinator.Tame coordinator → related engine { engine with coordinator }

variable {related : Engine σ τ → Engine σ τ → Prop}

theorem dispatches_of_sends (sends : ∀ before after, Sends before after → related before after)
    (envelope : Envelope) :
    Always related (dispatch envelope : EngineM σ τ (Except EngineError Int64)) :=
  (sends_dispatch envelope).mono sends

section Outspoken

variable [Outspoken related]

theorem always_sendRecord {ρ : Type} (layout : Layout ρ ρ) (conversationId : String)
    (messageType : MessageType) (record : ρ) :
    Always related (sendRecord layout conversationId messageType record : EngineM σ τ Unit) :=
  .bind (Outspoken.dispatches _) fun _ => .pure ()

theorem always_sendHandshake : Always related (sendHandshake : EngineM σ τ Unit) :=
  .bind .get fun _ => always_sendRecord _ _ _ _

theorem always_sendSubscribe (conversationId : String) :
    Always related (sendSubscribe conversationId : EngineM σ τ Unit) :=
  always_sendRecord _ _ _ _

end Outspoken

instance [Mild related] : Discreet related where
  hushed engine coordinator hushed := Mild.tame engine coordinator hushed.toTame

section Discreet

variable [Discreet related]

theorem always_onCoordinator {change : SyncCoordinator → SyncCoordinator}
    (hushed : ∀ coordinator : SyncCoordinator, coordinator.Hushed (change coordinator)) :
    Always related (onCoordinator change : EngineM σ τ Unit) :=
  fun engine => Discreet.hushed engine _ (hushed _)

theorem always_failSync (conversationId : String) (error : SyncError) (instant : Instant) :
    Always related (failSync conversationId error instant : EngineM σ τ Unit) :=
  always_failSync_of fun engine => Discreet.hushed engine _ SyncCoordinator.hushed_fail

theorem always_completeSync (summary : SyncSummary) (instant : Instant) :
    Always related (completeSync summary instant : EngineM σ τ Unit) :=
  always_completeSync_of fun engine live =>
    Discreet.hushed engine _ (SyncCoordinator.hushed_succeed _ live)

/-- Without a connection, a caller that asks for a sync is answered at once. -/
theorem always_syncNow_of_not_connected {engine : Engine σ τ} (conversationId : String)
    (waiter : Waiter) (apart : engine.machine.isConnected = false) :
    related engine ((syncNow conversationId waiter).run engine).2 := by
  have tracks : Always related (onCoordinator (·.track conversationId engine.clock.now) :
      EngineM σ τ Unit) := always_onCoordinator fun _ => SyncCoordinator.hushed_track
  have answers : Always related (do
      failSync conversationId .notConnected engine.clock.now
      reply waiter (.synced (.error .notConnected)) : EngineM σ τ Unit) :=
    .bind (always_failSync _ _ _) fun _ => always_reply (by simp)
  refine trans_of related (tracks engine) ?_
  simp only [syncNow, now, isConnected, onCoordinator, run_bind, run_get, run_pure, run_modify,
    apart, Bool.not_false, reduceIte]
  exact answers _

end Discreet

variable [Mild related]

theorem always_syncNow (conversationId : String) (waiter : Waiter) :
    Always related (syncNow conversationId waiter : EngineM σ τ Unit) := by
  refine .bind always_now fun instant => ?_
  refine .bind (always_onCoordinator fun _ => SyncCoordinator.hushed_track) fun _ => ?_
  refine .bind always_isConnected fun connected => ?_
  cases connected with
  | false =>
      exact .bind (always_failSync _ _ _) fun _ => always_reply (by simp)
  | true =>
      refine .bind (always_finishSyncs fun engine =>
        Mild.tame engine _ (SyncCoordinator.tame_addWaiter waiter)) fun _ => ?_
      refine .bind .get fun _ => ?_
      split
      · exact always_onCoordinator fun _ => SyncCoordinator.hushed_trigger
      · exact .pure ()

end Engine

end MessageSync
