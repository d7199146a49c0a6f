import MessageSync.Proofs.Engine.Connections
import MessageSync.Proofs.Subscription.Registry

/-!
# Subscribes that were cut off

A conversation is interrupted exactly if its subscribe was cut off when the connection went away, and
the conversation was not forgotten since: it was not unsubscribed, and no acknowledgement came for
it. This is told of every step, and from that of every run.
-/

namespace MessageSync

namespace SubscriptionRegistry

/-- Whether the conversation is interrupted is the same. -/
def Recalls (conversationId : String) (before after : SubscriptionRegistry) : Prop :=
  after.isInterrupted conversationId = before.isInterrupted conversationId

instance (conversationId : String) : IsPreorder SubscriptionRegistry (Recalls conversationId) where
  refl _ := rfl
  trans _ _ _ first second := second.trans first

/-- No subscribe is new if none waits. -/
def StaysIdle (before after : SubscriptionRegistry) : Prop :=
  before.pending = .empty → after.pending = .empty

instance : IsPreorder SubscriptionRegistry StaysIdle where
  refl _ := id
  trans _ _ _ first second := second ∘ first

/-- If no subscribe waits, none is cut off. -/
def CutsNone (conversationId : String) (before after : SubscriptionRegistry) : Prop :=
  before.pending = .empty → after.pending = .empty ∧ Recalls conversationId before after

instance (conversationId : String) : IsPreorder SubscriptionRegistry (CutsNone conversationId) where
  refl _ idle := ⟨idle, rfl⟩
  trans _ _ _ first second idle := by
    rcases first idle with ⟨stillIdle, recalls⟩
    rcases second stillIdle with ⟨idleAfter, recallsAfter⟩
    exact ⟨idleAfter, recallsAfter.trans recalls⟩

/-- A sound registry stays sound. -/
def KeepsSound (before after : SubscriptionRegistry) : Prop :=
  before.Sound → after.Sound

instance : IsPreorder SubscriptionRegistry KeepsSound where
  refl _ := id
  trans _ _ _ first second := second ∘ first

theorem cutsNone_abandonPending {registry : SubscriptionRegistry} {conversationId : String}
    (error : SubscribeError) :
    CutsNone conversationId registry (registry.abandonPending error).2 := by
  intro idle
  refine ⟨rfl, ?_⟩
  rw [Recalls, isInterrupted_abandonPending, idle]
  rfl

end SubscriptionRegistry

namespace Engine

variable {σ τ : Type} {before after engine found : Engine σ τ} {input : Input}
  {conversationId : String}

/-! ## Steps and the registry -/

/-- The registries are related. -/
def Registers (r : SubscriptionRegistry → SubscriptionRegistry → Prop)
    (before after : Engine σ τ) : Prop :=
  r before.registry after.registry

variable [Transport τ] {r : SubscriptionRegistry → SubscriptionRegistry → Prop}
  [IsPreorder SubscriptionRegistry r]

omit [Transport τ] in
theorem registers_of_eq (same : after.registry = before.registry) : Registers r before after := by
  rw [Registers, same]
  exact refl_of r _

instance : Linking (Registers r : Engine σ τ → Engine σ τ → Prop) where
  refl _ := refl_of r _
  trans _ _ _ := trans_of r
  dispatches := dispatches_of_sends fun _ _ sends => registers_of_eq (by rw [sends.same])
  aside _ _ aside := registers_of_eq (by rw [aside])

omit [Transport τ] in
theorem allowsMoves_registers :
    AllowsMoves (Registers r : Engine σ τ → Engine σ τ → Prop) :=
  fun _ _ _ => registers_of_eq rfl

theorem registers_openTransport {tried : Engine σ τ} (underway : tried.machine.Underway) :
    Registers r tried (openTransport.run tried).2 := by
  rcases attempt : Transport.connect tried.transport tried.url with ⟨outcome, transport⟩
  have opens (machine : ConnectionMachine) (status : EngineStatus) :
      Registers r tried { tried with transport, machine, status } := registers_of_eq rfl
  cases outcome with
  | opened =>
      rcases run_openTransport_of_opened underway attempt with ⟨machine, status, -, left⟩
      have greets : Always (Registers r) ([.handshake, .resubscribe, .syncAll].forM perform :
          EngineM σ τ Unit) := by
        refine .forM fun effect mem => always_performs ?_ ?_
        · exact fun _ _ => registers_of_eq rfl
        · rintro rfl
          simp at mem
      rw [left]
      exact trans_of (Registers r) (opens machine status) (greets _)
  | failed error =>
      have fails : Always (Registers r) (openFailed error.message : EngineM σ τ Unit) :=
        always_openFailed_of_moves allowsMoves_registers _
      rw [run_openTransport_of_failed attempt]
      exact trans_of (Registers r) (opens tried.machine tried.status) (fails _)
  | unanswered =>
      rw [run_openTransport_of_unanswered attempt]
      exact registers_of_eq rfl

variable [MessageLog σ]

omit [MessageLog σ] in
/-- A relation of registries allows all that an input does if it allows what the input does to the
registry. -/
theorem allows_registers
    (loses : Ends input → ∀ registry : SubscriptionRegistry,
      r registry (registry.abandonPending .connectionLost).2)
    (begins : ∀ conversationId waiter, input = .command (.subscribe conversationId waiter) →
      conversationId ≠ "" → ∀ (registry : SubscriptionRegistry) (instant : Instant),
        r registry (registry.begin conversationId waiter instant).2)
    (forgets : ∀ conversationId waiter, input = .command (.unsubscribe conversationId waiter) →
      ∀ registry : SubscriptionRegistry, r registry (registry.unsubscribe conversationId).2.2)
    (acknowledges : ∀ content envelope ack, input = .frame content →
      Envelope.decodeFrame content found.fallbackConversation = .ok envelope →
      envelope.messageType = .subscribeAck →
      envelope.bodyAs SubscribeAck.layout.codec = .ok ack →
      ∀ (registry : SubscriptionRegistry) (instant : Instant),
        r registry (registry.acknowledge (ack.addressed envelope) instant).2.2)
    (expires : ∀ (registry : SubscriptionRegistry) (instant : Instant),
      r registry (registry.expire instant).2.2) :
    Allows (Registers r) input found where
  moves := allowsMoves_registers
  loses ends engine := loses ends engine.registry
  closes _ _ := registers_of_eq rfl
  begins conversationId waiter same named engine :=
    begins conversationId waiter same named engine.registry
  forgets conversationId waiter same engine := forgets conversationId waiter same engine.registry
  acknowledges content envelope ack same decoded isAck read engine :=
    acknowledges content envelope ack same decoded isAck read engine.registry
  expires engine := expires engine.registry
  waits _ _ _ := registers_of_eq rfl
  hangsUp _ := registers_of_eq rfl

theorem Allows.registers_take (allows : Allows (Registers r) input found) :
    Registers r found ((Engine.take input).run found).2 := by
  have hears : Registers r found (heard input found) := registers_of_eq (by rw [same_heard])
  rcases allows.take with taken | ⟨tried, attempts, taken⟩
  · exact trans_of (Registers r) hears taken
  · have tries : Registers r found tried := registers_of_eq (by rw [attempts.same])
    rw [attempts.opens] at taken
    have opens : Registers r tried (openTransport.run tried).2 :=
      registers_openTransport attempts.underway
    exact trans_of (Registers r) tries (trans_of (Registers r) opens taken)

theorem registers_step (taken : Registers r found ((take input).run found).2)
    (loses : ∀ registry : SubscriptionRegistry,
      r registry (registry.abandonPending .connectionLost).2) :
    Registers r found ((step input).run found).2 :=
  trans_of (Registers r) taken
    (related_step_of_take (always_notice allowsMoves_registers fun _ => loses _) input found)

/-! ## What is forgotten -/

/-- The input makes the engine forget the conversation: it is unsubscribed, or an acknowledgement
comes for it. -/
inductive Forgets (found : Engine σ τ) (conversationId : String) : Input → Prop where
  | unsubscribed (waiter : Waiter) :
      Forgets found conversationId (.command (.unsubscribe conversationId waiter))
  | acknowledged {content : Packing.Bytes} {envelope : Envelope} {ack : SubscribeAck}
      (decoded : Envelope.decodeFrame content found.fallbackConversation = .ok envelope)
      (isAck : envelope.messageType = .subscribeAck)
      (read : envelope.bodyAs SubscribeAck.layout.codec = .ok ack)
      (addressed : (ack.addressed envelope).conversationId = conversationId) :
      Forgets found conversationId (.frame content)

omit [Transport τ] [MessageLog σ] in
theorem not_forgets_of_ends (ends : Ends input) : ¬Forgets found conversationId input := by
  rintro (⟨waiter⟩ | ⟨decoded, isAck, read, addressed⟩) <;>
    rcases ends with ⟨_, ⟨⟩⟩ | ⟨⟨⟩⟩ | ⟨_, ⟨⟩⟩

open SubscriptionRegistry in
theorem not_interrupted_of_forgets (forgets : Forgets found conversationId input) :
    ((take input).run found).2.registry.isInterrupted conversationId = false := by
  cases forgets with
  | unsubscribed waiter =>
      have releases : Always (Registers (Recalls conversationId))
          (release conversationId : EngineM σ τ Unit) := always_release fun _ => registers_of_eq rfl
      have forgot : Registers (Recalls conversationId)
          { found with registry := (found.registry.unsubscribe conversationId).2.2 }
          ((unsubscribe conversationId).run found).2 :=
        trans_of _ (Telling.outward _ _ (outward_onRegistry (·.unsubscribe conversationId) found))
          (related_unsubscribe releases)
      change ((unsubscribe conversationId).run found).2.registry.isInterrupted conversationId = false
      refine forgot.trans ?_
      rw [isInterrupted_unsubscribe, bne_self_eq_false, Bool.false_and]
  | @acknowledged content envelope ack decoded isAck read addressed =>
      let heard : Engine σ τ := { found with stanzas := found.stanzas.observe envelope.stanzaId }
      have taken : ((take (.frame content)).run found).2 = ((takeAck envelope ack).run heard).2 := by
        change ((takeFrame content).run found).2 = _
        rw [run_takeFrame_of_decoded decoded]
        simp only [route, isAck, withBody, read]
        rfl
      have acked : Registers (Recalls conversationId) { heard with registry :=
            (heard.registry.acknowledge (ack.addressed envelope) heard.clock.now).2.2 }
          ((takeAck envelope ack).run heard).2 := related_takeAck envelope ack
      rw [taken]
      refine acked.trans ?_
      rw [isInterrupted_acknowledge, addressed, bne_self_eq_false, Bool.false_and]

open SubscriptionRegistry in
theorem recalls_take (stays : ¬Ends input) (remembers : ¬Forgets found conversationId input) :
    Registers (Recalls conversationId) found ((take input).run found).2 := by
  have other {other : String} (different : other ≠ conversationId) (held : Bool) :
      (conversationId != other && held) = held := by simp [different.symm]
  have allows : Allows (Registers (Recalls conversationId)) input found := by
    refine allows_registers (fun ends => absurd ends stays) (fun _ _ _ _ _ _ => isInterrupted_begin)
      ?_ ?_ fun _ _ => isInterrupted_expire
    · rintro forgotten waiter rfl registry
      refine isInterrupted_unsubscribe.trans (other ?_ _)
      rintro rfl
      exact remembers (.unsubscribed waiter)
    · rintro content envelope ack rfl decoded isAck read registry instant
      exact isInterrupted_acknowledge.trans
        (other (fun addressed => remembers (.acknowledged decoded isAck read addressed)) _)
  exact allows.registers_take

/-- An input that is taken while the connection stays interrupts nothing, and makes the engine forget
what it says. -/
theorem interrupted_take (stays : ¬Ends input) :
    ((take input).run found).2.registry.isInterrupted conversationId = true ↔
      found.registry.isInterrupted conversationId = true ∧ ¬Forgets found conversationId input := by
  by_cases forgets : Forgets found conversationId input
  · simp [not_interrupted_of_forgets forgets, forgets]
  · have recalls := recalls_take stays forgets
    simp only [Registers, SubscriptionRegistry.Recalls] at recalls
    simp [recalls, forgets]

/-! ## While there is no connection -/

open SubscriptionRegistry in
/-- While there is no connection, no subscribe is made to wait. -/
theorem idle_take (apart : found.machine.isConnected = false) :
    Registers StaysIdle found ((take input).run found).2 := by
  by_cases subscribes : ∃ conversationId waiter, input = .command (.subscribe conversationId waiter)
  · rcases subscribes with ⟨conversationId, waiter, rfl⟩
    have refuses : Registers StaysIdle found ((subscribe conversationId waiter).run found).2 := by
      simp only [subscribe]
      split
      · exact always_reply (by simp) found
      · simp only [isConnected, run_bind, run_get, run_pure, apart, Bool.not_false, reduceIte]
        exact always_reply (by simp) found
    exact refuses
  · have allows : Allows (Registers StaysIdle) input found := by
      exact allows_registers (fun _ _ _ => rfl) (fun _ _ same => absurd ⟨_, _, same⟩ subscribes)
        (fun _ _ _ _ => pending_unsubscribe) (fun _ _ _ _ _ _ _ _ _ => pending_acknowledge)
        fun _ _ => pending_expire
    exact allows.registers_take

open SubscriptionRegistry in
/-- Without a connection, an input that says that the connection ends interrupts nothing. -/
theorem cutsNone_take (ends : Ends input) :
    Registers (CutsNone conversationId) found ((take input).run found).2 := by
  have noCommand {command : Command} (same : input = .command command) :
      ∃ waiter, command = .disconnect waiter := by
    rcases ends with ⟨waiter, rfl⟩ | rfl | ⟨error, rfl⟩
    · exact ⟨waiter, (Input.command.inj same).symm⟩
    · cases same
    · cases same
  have allows : Allows (Registers (CutsNone conversationId)) input found := by
    refine allows_registers (fun _ _ => cutsNone_abandonPending .connectionLost) ?_ ?_ ?_
      fun _ _ idle => ⟨pending_expire idle, rfl⟩
    · intro _ _ same
      rcases noCommand same with ⟨_, ⟨⟩⟩
    · intro _ _ same
      rcases noCommand same with ⟨_, ⟨⟩⟩
    · rintro _ _ _ rfl
      rcases ends with ⟨_, ⟨⟩⟩ | ⟨⟨⟩⟩ | ⟨_, ⟨⟩⟩
  exact allows.registers_take

open SubscriptionRegistry in
/-- Without a connection, a step makes no subscribe wait and interrupts none. -/
theorem step_of_idle (conversationId : String) (apart : found.machine.isConnected = false)
    (idle : found.registry.pending = .empty) :
    ((step input).run found).2.registry.pending = .empty ∧
      (((step input).run found).2.registry.isInterrupted conversationId = true ↔
        found.registry.isInterrupted conversationId = true ∧
          ¬Forgets found conversationId input) := by
  have notices : Always (Registers (CutsNone conversationId))
      (noticeBrokenLink : EngineM σ τ Unit) :=
    always_notice allowsMoves_registers fun _ => cutsNone_abandonPending .connectionLost
  have looks : Registers (CutsNone conversationId) ((take input).run found).2
      ((step input).run found).2 :=
    related_step_of_take notices input found
  rcases looks (idle_take apart idle) with ⟨stillIdle, recalls⟩
  refine ⟨stillIdle, ?_⟩
  simp only [Recalls] at recalls
  rw [recalls]
  by_cases ends : Ends input
  · have taken : Recalls conversationId found.registry ((take input).run found).2.registry :=
      (cutsNone_take ends idle).2
    simp only [Recalls] at taken
    simp [taken, not_forgets_of_ends ends]
  · exact interrupted_take ends

/-! ## When the connection goes away -/

/-- The step takes the connection away while the subscribe of the conversation waits for its
acknowledgement. -/
def CutsOff (input : Input) (found : Engine σ τ) (conversationId : String) : Prop :=
  Loses input found ∧ (goingAway input found).registry.pending.contains conversationId = true

/-- A step that leaves a connection has only taken its input. -/
theorem step_of_stays (connected : found.machine.isConnected = true)
    (stillConnected : ((step input).run found).2.machine.isConnected = true) :
    ¬Ends input ∧ ((step input).run found).2 = ((take input).run found).2 := by
  have broken {taken : Engine σ τ} (apart : taken.machine.isConnected = false) :
      (noticeBrokenLink.run taken).2 = taken := noticeBrokenLink_of_not_connected apart
  rw [run_step] at *
  by_cases ends : Ends input
  · have apart := (lost_take connected ends).apart
    rw [broken apart, ite_self] at stillConnected
    cases stillConnected.symm.trans apart
  · refine ⟨ends, ?_⟩
    split at stillConnected
    · next answered =>
        rw [if_pos answered]
        have takenConnected : ((take input).run found).2.machine.isConnected = true := by
          rw [machine_take connected ends, connected]
        rcases noticeBrokenLink_of_connected takenConnected with same | lost
        · exact same
        · cases stillConnected.symm.trans lost.apart
    · next waits => rw [if_neg waits]

/-- A step interrupts the conversations whose subscribes it cuts off, and forgets those that its
input says. -/
theorem interrupted_step
    (idle : found.machine.isConnected = false → found.registry.pending = .empty) :
    ((step input).run found).2.registry.isInterrupted conversationId = true ↔
      CutsOff input found conversationId ∨ found.registry.isInterrupted conversationId = true ∧
        ¬Forgets found conversationId input := by
  cases connected : found.machine.isConnected with
  | false =>
      have kept : ¬CutsOff input found conversationId := by
        rintro ⟨loses, -⟩
        cases connected.symm.trans loses.1
      rw [(step_of_idle conversationId connected (idle connected)).2]
      exact (or_iff_right kept).symm
  | true =>
      cases stays : ((step input).run found).2.machine.isConnected with
      | true =>
          have kept : ¬CutsOff input found conversationId := by
            rintro ⟨loses, -⟩
            cases stays.symm.trans loses.2
          rcases step_of_stays connected stays with ⟨notEnding, same⟩
          rw [same, interrupted_take notEnding]
          exact (or_iff_right kept).symm
      | false =>
          have loses : Loses input found := ⟨connected, stays⟩
          -- What interrupts the connection's subscribes comes after the input was taken, unless the
          -- input itself ends the connection.
          have before : (goingAway input found).registry.isInterrupted conversationId = true ↔
              found.registry.isInterrupted conversationId = true ∧
                ¬Forgets found conversationId input := by
            by_cases ends : Ends input
            · simp [goingAway_of_ends ends, not_forgets_of_ends ends]
            · rw [goingAway_of_stays ends, interrupted_take ends]
          rw [loses.lost.registry, SubscriptionRegistry.isInterrupted_abandonPending,
            Bool.or_eq_true, before, CutsOff, and_iff_right loses]

/-! ## Runs -/

/-- The registry is sound, and while there is no connection no subscribe waits. -/
structure Orderly (engine : Engine σ τ) : Prop where
  sound : engine.registry.Sound
  idle : engine.machine.isConnected = false → engine.registry.pending = .empty

open SubscriptionRegistry in
theorem sound_step (sound : found.registry.Sound) :
    ((step input).run found).2.registry.Sound := by
  have loses (registry : SubscriptionRegistry) :
      KeepsSound registry (registry.abandonPending .connectionLost).2 :=
    fun sound => sound.abandonPending .connectionLost
  have allows : Allows (Registers KeepsSound) input found :=
    allows_registers (fun _ => loses) (fun _ _ _ named _ _ sound => sound.begin named)
      (fun _ _ _ _ sound => sound.unsubscribe) (fun _ _ _ _ _ _ _ _ _ sound => sound.acknowledge)
      fun _ _ sound => sound.expire
  exact registers_step allows.registers_take loses sound

theorem Orderly.step (orderly : found.Orderly) (input : Input) :
    Orderly ((step input).run found).2 := by
  refine ⟨sound_step orderly.sound, fun apart => ?_⟩
  cases connected : found.machine.isConnected with
  | false => exact (step_of_idle "" connected (orderly.idle connected)).1
  | true =>
      have loses : Loses input found := ⟨connected, apart⟩
      rw [loses.lost.registry]
      rfl

omit [Transport τ] [MessageLog σ] in
theorem Orderly.drift (orderly : before.Orderly) (drifts : Drifts before found) : found.Orderly := by
  rw [drifts]
  exact ⟨orderly.sound, orderly.idle⟩

variable {comes : Engine σ τ → Input → Engine σ τ → Prop} {first : Engine σ τ}
  {past : List (Taken σ τ)} {settings : Settings} {transport : τ} {log : σ} {clock : Clock}

/-- The subscribe of the conversation was cut off when the connection went away, and the conversation
was not forgotten since. -/
def Interrupted (past : List (Taken σ τ)) (conversationId : String) : Prop :=
  ∃ (earlier : List (Taken σ τ)) (taken : Taken σ τ) (later : List (Taken σ τ)),
    past = earlier ++ taken :: later ∧ CutsOff taken.input taken.found conversationId ∧
      ∀ next ∈ later, ¬Forgets next.found conversationId next.input

theorem interrupted_append {taken : Taken σ τ} :
    Interrupted (past ++ [taken]) conversationId ↔
      CutsOff taken.input taken.found conversationId ∨
        Interrupted past conversationId ∧ ¬Forgets taken.found conversationId taken.input := by
  constructor
  · rintro ⟨earlier, cut, later, split, cuts, remembers⟩
    rcases List.eq_nil_or_concat' later with rfl | ⟨between, last, rfl⟩
    · rw [List.append_singleton_inj] at split
      exact Or.inl (split.2 ▸ cuts)
    · rw [← List.cons_append, ← List.append_assoc, List.append_singleton_inj] at split
      rcases split with ⟨rfl, rfl⟩
      refine Or.inr ⟨⟨earlier, cut, between, rfl, cuts, fun next mem => ?_⟩, ?_⟩
      · exact remembers next (List.mem_append_left _ mem)
      · exact remembers taken (List.mem_append_right _ List.mem_cons_self)
  · rintro (cuts | ⟨⟨earlier, cut, later, rfl, cuts, remembers⟩, kept⟩)
    · exact ⟨past, taken, [], rfl, cuts, by simp⟩
    · refine ⟨earlier, cut, later ++ [taken], List.append_assoc _ _ _, cuts, fun next mem => ?_⟩
      rcases List.mem_append.mp mem with mem | mem
      · exact remembers next mem
      · rwa [List.mem_singleton.mp mem]

theorem orderly_of_runs (started : start settings transport log clock = .ok first)
    (drifts : ∀ before input found, comes before input found → Drifts before found)
    (runs : Runs comes first engine) : engine.Orderly := by
  refine runs.keeps ?_ fun before input found orderly arrival =>
    (orderly.drift (drifts _ _ _ arrival)).step input
  rcases eq_of_start started with ⟨window, rfl⟩
  exact ⟨SubscriptionRegistry.sound_empty _, fun _ => rfl⟩

/-- The registry has a conversation as interrupted exactly if its subscribe was cut off and it was
not forgotten since. -/
theorem isInterrupted_iff (started : start settings transport log clock = .ok first)
    (drifts : ∀ before input found, comes before input found → Drifts before found)
    (took : Took comes first engine past) :
    engine.registry.isInterrupted conversationId = true ↔ Interrupted past conversationId := by
  induction took with
  | initial =>
      rcases eq_of_start started with ⟨window, rfl⟩
      refine ⟨nofun, ?_⟩
      rintro ⟨earlier, taken, later, split, -⟩
      exact absurd split.symm (by simp)
  | @next engine found input past took arrival known =>
      have drifted := drifts _ _ _ arrival
      have same : found.registry = engine.registry := by rw [drifted]
      have orderly := (orderly_of_runs started drifts took.runs).drift drifted
      rw [interrupted_step orderly.idle, same, known, interrupted_append]

end Engine

end MessageSync
