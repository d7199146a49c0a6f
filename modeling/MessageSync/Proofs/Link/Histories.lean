import Mathlib.Algebra.Group.Nat.Defs
import Mathlib.Data.List.Induction
import Mathlib.Order.Monotone.Defs
import Mathlib.Order.Nat
import MessageSync.Proofs.Link.Machine

/-!
# Histories of the connection machine

What the machine does about an input is one of nine moves. From what a move keeps follows what holds
along every run: the number in the state is the count of attempts, a retry waits for the delay that
belongs to the count of retries, at most one retry is outstanding, nothing is started after a
disconnect until a connection is asked for, and a connection begins and ends with the same work.
-/

namespace MessageSync

/-! ## Delays -/

theorem doubling_of_lt {count : Nat} (fits : count < 32) : doubling count = 2 ^ count := by
  rw [doubling, if_pos fits, Nat.one_shiftLeft]

theorem doubling_of_le {count : Nat} (large : 32 ≤ count) : doubling count = 2 ^ 32 - 1 := by
  have overflows : ¬count < 32 := Nat.not_lt.mpr large
  simp [doubling, overflows]

theorem two_pow_le_of_lt {count : Nat} (fits : count < 32) : 2 ^ count ≤ 2 ^ 32 - 1 := by
  have below : 2 ^ count < 2 ^ 32 := Nat.pow_lt_pow_right (by decide) fits
  omega

theorem doubling_pos (count : Nat) : 0 < doubling count := by
  by_cases fits : count < 32
  · rw [doubling_of_lt fits]
    exact Nat.two_pow_pos count
  · rw [doubling_of_le (Nat.not_lt.mp fits)]
    decide

theorem monotone_doubling : Monotone doubling := by
  intro fewer more le
  by_cases fits : more < 32
  · rw [doubling_of_lt fits, doubling_of_lt (Nat.lt_of_le_of_lt le fits)]
    exact Nat.pow_le_pow_right (by decide) le
  · rw [doubling_of_le (Nat.not_lt.mp fits)]
    by_cases few : fewer < 32
    · rw [doubling_of_lt few]
      exact two_pow_le_of_lt few
    · rw [doubling_of_le (Nat.not_lt.mp few)]

/-- The delays grow with the count of attempts up to their bound, and double before, if the bound is
not too far away. -/
structure Backoff.Doubles (backoff : Backoff) : Prop where
  grows : Monotone backoff.delay
  bounded (attempt : Nat) : backoff.delay attempt ≤ backoff.max
  doubles (near : backoff.max ≤ backoff.initial * (2 ^ 32 - 1)) (attempt : Nat) :
    backoff.delay attempt = min (backoff.initial * 2 ^ attempt) backoff.max

namespace Backoff

theorem delay_pos {backoff : Backoff} (initial : 0 < backoff.initial) (max : 0 < backoff.max)
    (attempt : Nat) : 0 < backoff.delay attempt :=
  Nat.lt_min.mpr ⟨Nat.mul_pos initial (doubling_pos attempt), max⟩

theorem doubles (backoff : Backoff) : backoff.Doubles := by
  refine ⟨?_, fun attempt => Nat.min_le_right _ _, ?_⟩
  · intro fewer more le
    have factor : backoff.initial * doubling fewer ≤ backoff.initial * doubling more :=
      Nat.mul_le_mul_left _ (monotone_doubling le)
    exact Nat.le_min.mpr ⟨(Nat.min_le_left _ _).trans factor, Nat.min_le_right _ _⟩
  · intro near attempt
    by_cases fits : attempt < 32
    · rw [delay, doubling_of_lt fits]
    · -- Beyond 32 bits both products are above the bound.
      have power : 2 ^ 32 - 1 ≤ 2 ^ attempt :=
        (Nat.sub_le _ _).trans (Nat.pow_le_pow_right (by decide) (Nat.not_lt.mp fits))
      have far : backoff.max ≤ backoff.initial * 2 ^ attempt :=
        near.trans (Nat.mul_le_mul_left _ power)
      rw [delay, doubling_of_le (Nat.not_lt.mp fits), Nat.min_eq_right near, Nat.min_eq_right far]

end Backoff

/-- The attempt that a state is named after. -/
def ConnectionState.attempt : ConnectionState → Nat
  | .reconnecting attempt => attempt
  | .disconnected | .connecting | .connected => 0

/-- The effect schedules a retry. -/
def ConnectionEffect.isRetry : ConnectionEffect → Bool
  | .scheduleRetry _ => true
  | _ => false

namespace ConnectionMachine

variable {machine next : ConnectionMachine} {input : ConnectionInput}
  {work : List ConnectionEffect} {backoff : Backoff} {inputs : List ConnectionInput}

/-! ## Moves -/

/-- What the machine does about an input. -/
inductive Moves (machine : ConnectionMachine) :
    ConnectionInput → ConnectionMachine → List ConnectionEffect → Prop
  | stays {input : ConnectionInput} : Moves machine input machine []
  | closesUnasked (apart : machine.state = .disconnected) :
      Moves machine .opened machine [.closeTransport]
  | connects (apart : machine.state = .disconnected) :
      Moves machine .connectRequested { machine with state := .connecting } [.openTransport]
  | disconnects (begun : machine.state ≠ .disconnected) :
      Moves machine .disconnectRequested
        { machine with state := .disconnected, attempt := 0, retryScheduled := false }
        [.cancelRetry, .abandonPending, .closeTransport]
  | opens (underway : machine.Underway) :
      Moves machine .opened
        { machine with
          state := .connected, attempt := 0, retryScheduled := false, epoch := machine.epoch + 1 }
        [.handshake, .resubscribe, .syncAll]
  | breaks (connected : machine.state = .connected) :
      Moves machine .closed machine.scheduleRetry.1
        [.abandonPending, .scheduleRetry (machine.backoff.delay machine.attempt)]
  | fails {input : ConnectionInput} (failed : input = .closed ∨ input = .openFailed)
      (underway : machine.Underway) (unscheduled : machine.retryScheduled = false) :
      Moves machine input machine.scheduleRetry.1
        [.scheduleRetry (machine.backoff.delay machine.attempt)]
  | retries {attempt : Nat} (reconnecting : machine.state = .reconnecting attempt)
      (scheduled : machine.retryScheduled = true) :
      Moves machine .retryDue { machine with retryScheduled := false } [.openTransport]
  | hurries {attempt : Nat} (reconnecting : machine.state = .reconnecting attempt)
      (scheduled : machine.retryScheduled = true) :
      Moves machine .networkOnline
        { machine with attempt := 0, retryScheduled := false, state := .reconnecting 0 }
        [.cancelRetry, .openTransport]

theorem moves_handle (machine : ConnectionMachine) (input : ConnectionInput) :
    machine.Moves input (machine.handle input).1 (machine.handle input).2 := by
  rcases machine with ⟨state, attempt, epoch, retryScheduled, backoff⟩
  cases input with
  | connectRequested =>
      cases state with
      | disconnected => exact .connects rfl
      | connecting | connected | reconnecting => exact .stays
  | disconnectRequested =>
      cases state with
      | disconnected => exact .stays
      | connecting | connected | reconnecting => exact .disconnects (by simp)
  | opened =>
      cases state with
      | disconnected => exact .closesUnasked rfl
      | connected => exact .stays
      | connecting => exact .opens (Or.inl rfl)
      | reconnecting number => exact .opens (Or.inr ⟨number, rfl⟩)
  | closed =>
      cases state with
      | disconnected => exact .stays
      | connected => exact .breaks rfl
      | connecting =>
          cases retryScheduled with
          | true => exact .stays
          | false => exact .fails (Or.inl rfl) (Or.inl rfl) rfl
      | reconnecting number =>
          cases retryScheduled with
          | true => exact .stays
          | false => exact .fails (Or.inl rfl) (Or.inr ⟨number, rfl⟩) rfl
  | openFailed =>
      cases state with
      | disconnected | connected => exact .stays
      | connecting =>
          cases retryScheduled with
          | true => exact .stays
          | false => exact .fails (Or.inr rfl) (Or.inl rfl) rfl
      | reconnecting number =>
          cases retryScheduled with
          | true => exact .stays
          | false => exact .fails (Or.inr rfl) (Or.inr ⟨number, rfl⟩) rfl
  | retryDue =>
      cases state with
      | disconnected | connecting | connected => exact .stays
      | reconnecting number =>
          cases retryScheduled with
          | true => exact .retries rfl rfl
          | false => exact .stays
  | networkOnline =>
      cases state with
      | disconnected | connecting | connected => exact .stays
      | reconnecting number =>
          cases retryScheduled with
          | true => exact .hurries rfl rfl
          | false => exact .stays

theorem Moves.backoff_eq (moves : machine.Moves input next work) :
    next.backoff = machine.backoff := by
  cases moves <;> rfl

/-! ## Runs -/

/-- The machine after a sequence of inputs. -/
def run (machine : ConnectionMachine) (inputs : List ConnectionInput) : ConnectionMachine :=
  inputs.foldl (fun machine input => (machine.handle input).1) machine

/-- The machine that a sequence of inputs leads to. -/
def reached (backoff : Backoff) (inputs : List ConnectionInput) : ConnectionMachine :=
  (start backoff).run inputs

/-- What is to be done about an input that comes after others. -/
def effects (backoff : Backoff) (inputs : List ConnectionInput) (input : ConnectionInput) :
    List ConnectionEffect :=
  ((reached backoff inputs).handle input).2

theorem reached_append_singleton : reached backoff (inputs ++ [input]) =
    ((reached backoff inputs).handle input).1 := by
  simp [reached, run]

theorem reached_append_cons (earlier later : List ConnectionInput) :
    reached backoff (earlier ++ input :: later) =
      ((reached backoff earlier).handle input).1.run later := by
  simp [reached, run]

theorem moves_reached (backoff : Backoff) (inputs : List ConnectionInput)
    (input : ConnectionInput) :
    (reached backoff inputs).Moves input (reached backoff (inputs ++ [input]))
      (effects backoff inputs input) := by
  rw [reached_append_singleton]
  exact moves_handle _ input

theorem backoff_reached (backoff : Backoff) (inputs : List ConnectionInput) :
    (reached backoff inputs).backoff = backoff := by
  induction inputs using List.reverseRecOn with
  | nil => rfl
  | append_singleton inputs input same =>
      exact (moves_reached backoff inputs input).backoff_eq.trans same

/-- What every input keeps that does not end it holds after all inputs, or one of them ends it. -/
theorem run_keeps {Holds : ConnectionMachine → Prop}
    {Ends : ConnectionMachine → ConnectionInput → Prop}
    (keeps : ∀ machine input, Holds machine → ¬Ends machine input →
      Holds (machine.handle input).1)
    (inputs : List ConnectionInput) (holds : Holds machine) :
    Holds (machine.run inputs) ∨
      ∃ part next rest, inputs = part ++ next :: rest ∧ Ends (machine.run part) next := by
  induction inputs generalizing machine with
  | nil => exact Or.inl holds
  | cons input inputs ends =>
      by_cases now : Ends machine input
      · exact Or.inr ⟨[], input, inputs, rfl, now⟩
      · rcases ends (keeps machine input holds now) with kept | ⟨part, next, rest, rfl, later⟩
        · exact Or.inl kept
        · exact Or.inr ⟨input :: part, next, rest, rfl, later⟩

/-! ## The count of attempts -/

/-- The input changes the machine. -/
def Accepts (machine : ConnectionMachine) (input : ConnectionInput) : Prop :=
  (machine.handle input).1 ≠ machine

/-- The input starts the count of retries anew. -/
def Restarts (machine : ConnectionMachine) (input : ConnectionInput) : Prop :=
  machine.Accepts input ∧
    (input = .opened ∨ input = .networkOnline ∨ input = .disconnectRequested)

instance (machine : ConnectionMachine) (input : ConnectionInput) :
    Decidable (machine.Restarts input) :=
  inferInstanceAs (Decidable (¬(machine.handle input).1 = machine ∧ _))

/-- The count of retries after further inputs. -/
def retriesFrom (machine : ConnectionMachine) (count : Nat) : List ConnectionInput → Nat
  | [] => count
  | input :: inputs =>
    let (next, effects) := machine.handle input
    next.retriesFrom
      (if machine.Restarts input then 0 else count + effects.countP ConnectionEffect.isRetry) inputs

/-- How many retries were scheduled since the latest input that starts their count anew. -/
def retries (backoff : Backoff) (inputs : List ConnectionInput) : Nat :=
  (start backoff).retriesFrom 0 inputs

theorem retriesFrom_append_singleton (count : Nat) :
    machine.retriesFrom count (inputs ++ [input]) =
      if (machine.run inputs).Restarts input then 0
      else machine.retriesFrom count inputs +
        ((machine.run inputs).handle input).2.countP ConnectionEffect.isRetry := by
  induction inputs generalizing machine count with
  | nil => rfl
  | cons first inputs counted => exact counted _

theorem retries_append_singleton : retries backoff (inputs ++ [input]) =
    if (reached backoff inputs).Restarts input then 0
    else retries backoff inputs + (effects backoff inputs input).countP ConnectionEffect.isRetry :=
  retriesFrom_append_singleton 0

/-- A retry is scheduled only while the machine reconnects, and the attempt that its state names is
the one that it counts. -/
structure Counted (machine : ConnectionMachine) : Prop where
  scheduled : machine.retryScheduled = true → ∃ attempt, machine.state = .reconnecting attempt
  numbered : machine.attempt = machine.state.attempt

theorem Moves.counted (moves : machine.Moves input next work) (counted : machine.Counted) :
    next.Counted := by
  cases moves with
  | stays | closesUnasked => exact counted
  | connects apart =>
      refine ⟨?_, ?_⟩
      · intro scheduled
        rcases counted.scheduled scheduled with ⟨attempt, reconnecting⟩
        cases apart.symm.trans reconnecting
      · rw [counted.numbered, apart]
        rfl
  | disconnects | opens => exact ⟨nofun, rfl⟩
  | breaks | fails => exact ⟨fun _ => ⟨_, rfl⟩, rfl⟩
  | retries => exact ⟨nofun, counted.numbered⟩
  | hurries => exact ⟨nofun, rfl⟩

theorem counted_reached (backoff : Backoff) (inputs : List ConnectionInput) :
    (reached backoff inputs).Counted := by
  induction inputs using List.reverseRecOn with
  | nil => exact ⟨nofun, rfl⟩
  | append_singleton inputs input counted =>
      exact (moves_reached backoff inputs input).counted counted

theorem Moves.attempt_of_restarts (moves : machine.Moves input next work)
    (accepted : next ≠ machine)
    (anew : input = .opened ∨ input = .networkOnline ∨ input = .disconnectRequested) :
    next.attempt = 0 := by
  cases moves with
  | stays | closesUnasked => exact absurd rfl accepted
  | connects | breaks | retries => simp at anew
  | fails failed => rcases failed with rfl | rfl <;> simp at anew
  | disconnects | opens | hurries => rfl

theorem Moves.attempt_of_not_restarts (moves : machine.Moves input next work)
    (goesOn : next ≠ machine →
      ¬(input = .opened ∨ input = .networkOnline ∨ input = .disconnectRequested))
    (fits : machine.attempt ≤ 0xFFFFFFFF) :
    next.attempt = min (machine.attempt + work.countP ConnectionEffect.isRetry) 0xFFFFFFFF := by
  cases moves with
  | stays | closesUnasked | connects | retries =>
      simpa [ConnectionEffect.isRetry] using (Nat.min_eq_left fits).symm
  | breaks | fails => simp [ConnectionEffect.isRetry, scheduleRetry]
  | disconnects | opens | hurries =>
      -- The input starts the count anew, so it changed nothing: the count was zero before.
      have same := not_not.mp fun accepted => goesOn accepted (by simp)
      have zero := congrArg ConnectionMachine.attempt same
      simp [ConnectionEffect.isRetry, ← zero]

/-- The attempts follow the retries, as far as 32 bits go. -/
theorem attempt_reached (backoff : Backoff) (inputs : List ConnectionInput) :
    (reached backoff inputs).attempt = min (retries backoff inputs) 0xFFFFFFFF := by
  induction inputs using List.reverseRecOn with
  | nil => rfl
  | append_singleton inputs input follows =>
      have moves := moves_reached backoff inputs input
      rw [retries_append_singleton]
      by_cases restarts : (reached backoff inputs).Restarts input
      · have accepted := restarts.1
        rw [Accepts, ← reached_append_singleton] at accepted
        rw [if_pos restarts, moves.attempt_of_restarts accepted restarts.2]
        rfl
      · have goesOn := not_and.mp restarts
        rw [Accepts, ← reached_append_singleton] at goesOn
        rw [if_neg restarts, moves.attempt_of_not_restarts goesOn (by omega), follows]
        omega

/-! ## Retries -/

/-- A retry is scheduled. -/
def Schedules (effects : List ConnectionEffect) : Prop :=
  ∃ delay, .scheduleRetry delay ∈ effects

/-- The input leads to another attempt, or ends the wait for one. -/
def Consumes (machine : ConnectionMachine) (input : ConnectionInput) : Prop :=
  .openTransport ∈ (machine.handle input).2 ∨
    machine.Accepts input ∧ (input = .opened ∨ input = .disconnectRequested)

/-- The machine waits for a retry. -/
def Awaits (machine : ConnectionMachine) : Prop :=
  machine.retryScheduled = true ∧ ∃ attempt, machine.state = .reconnecting attempt

theorem Moves.awaits (moves : machine.Moves input next work) (schedules : Schedules work) :
    next.Awaits := by
  rcases schedules with ⟨delay, mem⟩
  cases moves with
  | breaks | fails => exact ⟨rfl, _, rfl⟩
  | stays | closesUnasked | connects | disconnects | opens | retries | hurries => simp at mem

theorem Moves.not_schedules (moves : machine.Moves input next work) (awaits : machine.Awaits) :
    ¬Schedules work := by
  rintro ⟨delay, mem⟩
  rcases awaits with ⟨scheduled, attempt, reconnecting⟩
  cases moves with
  | breaks connected => cases connected.symm.trans reconnecting
  | fails failed underway unscheduled => cases scheduled.symm.trans unscheduled
  | stays | closesUnasked | connects | disconnects | opens | retries | hurries => simp at mem

/-- The machine goes on to wait unless the input consumes the retry. -/
theorem awaits_handle (machine : ConnectionMachine) (input : ConnectionInput)
    (awaits : machine.Awaits) (unconsumed : ¬machine.Consumes input) :
    (machine.handle input).1.Awaits := by
  have moves := moves_handle machine input
  simp only [Consumes, Accepts, not_or, not_and] at unconsumed
  generalize (machine.handle input).1 = next at moves unconsumed ⊢
  generalize (machine.handle input).2 = work at moves unconsumed
  cases moves with
  | stays | closesUnasked => exact awaits
  | connects | retries | hurries => simp at unconsumed
  | disconnects | opens =>
      have same := not_not.mp fun accepted => (unconsumed.2 accepted).elim (by simp)
      rw [same]
      exact awaits
  | breaks | fails => exact ⟨rfl, _, rfl⟩

/-- Between two retries that are scheduled, an input consumes the first. -/
theorem consumes_between {earlier between : List ConnectionInput}
    {first second : ConnectionInput}
    (schedules : Schedules (effects backoff earlier first))
    (again : Schedules (effects backoff (earlier ++ first :: between) second)) :
    ∃ part next rest, between = part ++ next :: rest ∧
      (reached backoff (earlier ++ first :: part)).Consumes next := by
  have awaits := (moves_handle (reached backoff earlier) first).awaits schedules
  have moves := moves_handle (reached backoff (earlier ++ first :: between)) second
  rcases run_keeps awaits_handle between awaits with waits | ⟨part, next, rest, split, consumes⟩
  · rw [← reached_append_cons] at waits
    exact absurd again (moves.not_schedules waits)
  · rw [← reached_append_cons] at consumes
    exact ⟨part, next, rest, split, consumes⟩

/-! ## Disconnected -/

/-- Nothing is begun. -/
structure Quiet (work : List ConnectionEffect) : Prop where
  opens : .openTransport ∉ work
  greets : .handshake ∉ work
  schedules : ¬Schedules work

theorem Moves.apart_of_disconnects (moves : machine.Moves .disconnectRequested next work)
    (accepted : next ≠ machine) : next.state = .disconnected := by
  cases moves with
  | stays => exact absurd rfl accepted
  | fails failed => simp at failed
  | disconnects => rfl

theorem Moves.quiet (moves : machine.Moves input next work) (apart : machine.state = .disconnected)
    (other : input ≠ .connectRequested) : next = machine ∧ Quiet work := by
  have notUnderway : ¬machine.Underway := by simp [Underway, apart]
  cases moves with
  | stays | closesUnasked => exact ⟨rfl, by simp, by simp, by simp [Schedules]⟩
  | connects => exact absurd rfl other
  | disconnects begun => exact absurd apart begun
  | opens underway => exact absurd underway notUnderway
  | fails failed underway => exact absurd underway notUnderway
  | breaks connected => cases apart.symm.trans connected
  | retries reconnecting => cases apart.symm.trans reconnecting
  | hurries reconnecting => cases apart.symm.trans reconnecting

theorem Moves.quiet_of_disconnects (moves : machine.Moves .disconnectRequested next work) :
    Quiet work := by
  cases moves with
  | stays => exact ⟨by simp, by simp, by simp [Schedules]⟩
  | disconnects => exact ⟨by simp, by simp, by simp [Schedules]⟩
  | fails failed => simp at failed

/-- After a disconnect nothing is begun until a connection is asked for. -/
theorem quiet_after_disconnect {earlier between : List ConnectionInput}
    (accepted : (reached backoff earlier).Accepts .disconnectRequested)
    (unasked : .connectRequested ∉ between) (other : input ≠ .connectRequested) :
    Quiet (effects backoff (earlier ++ .disconnectRequested :: between) input) := by
  have apart := (moves_handle (reached backoff earlier) .disconnectRequested).apart_of_disconnects
    accepted
  have stays : ∀ (machine : ConnectionMachine) input, machine.state = .disconnected →
      ¬input = .connectRequested → (machine.handle input).1.state = .disconnected := by
    intro machine input apart other
    rw [((moves_handle machine input).quiet apart other).1]
    exact apart
  rcases run_keeps stays between apart with apart | ⟨part, next, rest, rfl, rfl⟩
  · rw [← reached_append_cons] at apart
    exact ((moves_handle _ input).quiet apart other).2
  · simp at unasked

/-! ## Connected -/

theorem Moves.enters (moves : machine.Moves input next work) (apart : machine.isConnected = false)
    (connected : next.isConnected = true) :
    next.epoch = machine.epoch + 1 ∧ work = [.handshake, .resubscribe, .syncAll] := by
  cases moves with
  | opens => exact ⟨rfl, rfl⟩
  | stays | closesUnasked => cases apart.symm.trans connected
  | connects | disconnects | breaks | fails | hurries => cases connected
  | retries reconnecting => simp [isConnected, reconnecting] at connected

theorem Moves.epoch_eq (moves : machine.Moves input next work)
    (stays : machine.isConnected = true ∨ next.isConnected = false) :
    next.epoch = machine.epoch := by
  cases moves with
  | opens underway =>
      rcases stays with connected | apart
      · cases connected.symm.trans underway.apart
      · cases apart
  | stays | closesUnasked | connects | disconnects | breaks | fails | retries | hurries => rfl

theorem Moves.epoch_le (moves : machine.Moves input next work) : next.epoch ≤ machine.epoch + 1 := by
  cases moves with
  | opens => exact le_rfl
  | stays | closesUnasked | connects | disconnects | breaks | fails | retries | hurries =>
      exact Nat.le_succ _

theorem epoch_reached_le (backoff : Backoff) (inputs : List ConnectionInput) :
    (reached backoff inputs).epoch ≤ inputs.length := by
  induction inputs using List.reverseRecOn with
  | nil => exact le_rfl
  | append_singleton inputs input counted =>
      rw [List.length_append]
      exact (moves_reached backoff inputs input).epoch_le.trans (Nat.succ_le_succ counted)

/-- In 64 bits the epoch is the same number, as long as there are no more inputs than that. -/
theorem toNat_epoch_reached (backoff : Backoff) (few : inputs.length < 2 ^ 64) :
    (UInt64.ofNat (reached backoff inputs).epoch).toNat = (reached backoff inputs).epoch := by
  rw [UInt64.toNat_ofNat', Nat.mod_eq_of_lt ((epoch_reached_le backoff inputs).trans_lt few)]

theorem Moves.leaves (moves : machine.Moves input next work)
    (connected : machine.isConnected = true) (apart : next.isConnected = false) :
    (∃ delay, work = [.abandonPending, .scheduleRetry delay]) ∨
      work = [.cancelRetry, .abandonPending, .closeTransport] := by
  have notUnderway : ¬machine.Underway := fun underway => by
    cases connected.symm.trans underway.apart
  cases moves with
  | breaks => exact Or.inl ⟨_, rfl⟩
  | disconnects => exact Or.inr rfl
  | stays | closesUnasked => cases connected.symm.trans apart
  | connects disconnected => simp [isConnected, disconnected] at connected
  | opens underway => exact absurd underway notUnderway
  | fails failed underway => exact absurd underway notUnderway
  | retries reconnecting => exact absurd (Or.inr ⟨_, reconnecting⟩) notUnderway
  | hurries reconnecting => exact absurd (Or.inr ⟨_, reconnecting⟩) notUnderway

/-! ## The laws of a run -/

theorem Moves.delay_eq (moves : machine.Moves input next work) {delay : Millis}
    (scheduled : .scheduleRetry delay ∈ work) :
    delay = machine.backoff.delay machine.attempt := by
  cases moves with
  | breaks | fails => simpa using scheduled
  | stays | closesUnasked | connects | disconnects | opens | retries | hurries =>
      simp at scheduled

theorem Moves.countP_le (moves : machine.Moves input next work) :
    work.countP ConnectionEffect.isRetry ≤ 1 := by
  cases moves <;> simp [ConnectionEffect.isRetry]

/-- What holds of the machine that inputs lead to, and of what it does about the input that comes
after them. -/
structure Orderly (backoff : Backoff) (inputs : List ConnectionInput) (input : ConnectionInput) :
    Prop where
  scheduled : (reached backoff inputs).retryScheduled = true →
    ∃ attempt, (reached backoff inputs).state = .reconnecting attempt
  numbered : (reached backoff inputs).attempt = (reached backoff inputs).state.attempt
  /-- A retry waits as long as belongs to the count of those before it, which stays in 32 bits. -/
  delayed (delay : Millis) : .scheduleRetry delay ∈ effects backoff inputs input →
    delay = backoff.delay (min (retries backoff inputs) 0xFFFFFFFF)
  single : (effects backoff inputs input).countP ConnectionEffect.isRetry ≤ 1
  /-- An earlier retry was consumed before another is scheduled. -/
  consumed (earlier between : List ConnectionInput) (first : ConnectionInput) :
    inputs = earlier ++ first :: between → Schedules (effects backoff earlier first) →
    Schedules (effects backoff inputs input) → ∃ part next rest, between = part ++ next :: rest ∧
      (reached backoff (earlier ++ first :: part)).Consumes next
  /-- Nothing is begun by a disconnect, and after it until a connection is asked for. -/
  disconnects : input = .disconnectRequested → Quiet (effects backoff inputs input)
  quiet (earlier between : List ConnectionInput) :
    inputs = earlier ++ .disconnectRequested :: between →
    (reached backoff earlier).Accepts .disconnectRequested → .connectRequested ∉ between →
    input ≠ .connectRequested → Quiet (effects backoff inputs input)
  enters : (reached backoff inputs).isConnected = false →
    (reached backoff (inputs ++ [input])).isConnected = true →
    (reached backoff (inputs ++ [input])).epoch = (reached backoff inputs).epoch + 1 ∧
      effects backoff inputs input = [.handshake, .resubscribe, .syncAll]
  /-- Otherwise the count of connections stays. -/
  remains : (reached backoff inputs).isConnected = true ∨
      (reached backoff (inputs ++ [input])).isConnected = false →
    (reached backoff (inputs ++ [input])).epoch = (reached backoff inputs).epoch
  /-- What waits for an answer is given up once, before a retry is scheduled and before the
  transport is closed. -/
  leaves : (reached backoff inputs).isConnected = true →
    (reached backoff (inputs ++ [input])).isConnected = false →
    (∃ delay, effects backoff inputs input = [.abandonPending, .scheduleRetry delay]) ∨
      effects backoff inputs input = [.cancelRetry, .abandonPending, .closeTransport]

/-- The delays are those of a backoff that doubles, and every run is orderly. -/
theorem doubles_and_orderly (backoff : Backoff) :
    backoff.Doubles ∧ ∀ inputs input, Orderly backoff inputs input := by
  refine ⟨backoff.doubles, fun inputs input => ?_⟩
  have counted := counted_reached backoff inputs
  have moves := moves_reached backoff inputs input
  refine ⟨counted.scheduled, counted.numbered, ?_, moves.countP_le, ?_, ?_, ?_, moves.enters,
    moves.epoch_eq, moves.leaves⟩
  · intro delay scheduled
    rw [moves.delay_eq scheduled, backoff_reached, attempt_reached]
  · rintro earlier between first rfl schedules again
    exact consumes_between schedules again
  · rintro rfl
    exact moves.quiet_of_disconnects
  · rintro earlier between rfl accepted unasked other
    exact quiet_after_disconnect accepted unasked other

/-- The count of retries starts anew when the network is back. -/
example : retries .standard [.connectRequested, .openFailed, .retryDue, .openFailed] = 2 ∧
    retries .standard [.connectRequested, .openFailed, .networkOnline, .openFailed] = 1 := by
  decide

end ConnectionMachine

end MessageSync
