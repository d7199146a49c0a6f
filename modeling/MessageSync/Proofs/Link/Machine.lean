import MessageSync.Link.Machine

/-!
# How the connection machine goes on

Between two inputs the machine rests: it is not in the middle of an attempt to connect, and it
awaits a retry exactly while it is reconnecting. An input leaves a resting machine as it is, leads
it to rest in another state, or makes it try to connect. A trying machine rests again once it is
told how the attempt went.
-/

namespace MessageSync

namespace ConnectionMachine

variable {machine : ConnectionMachine}

/-- The machine is not making an attempt, and awaits a retry exactly if it is reconnecting. -/
structure Resting (machine : ConnectionMachine) : Prop where
  still : machine.state ≠ .connecting
  scheduled : machine.retryScheduled = true ↔ ∃ attempt, machine.state = .reconnecting attempt

/-- The machine is making an attempt to connect. -/
structure Trying (machine : ConnectionMachine) : Prop where
  state : machine.state = .connecting ∨ ∃ attempt, machine.state = .reconnecting attempt
  unscheduled : machine.retryScheduled = false

theorem isConnected_iff : machine.isConnected = true ↔ machine.state = .connected := by
  simp [isConnected]

theorem scheduleRetry_resting : machine.scheduleRetry.1.Resting :=
  ⟨by simp [scheduleRetry], by simp [scheduleRetry]⟩

theorem resting_start (backoff : Backoff) : (start backoff).Resting :=
  ⟨by simp [start], by simp [start]⟩

/-! ## Inputs of a resting machine -/

theorem Resting.handle_connectRequested (resting : machine.Resting) :
    machine.handle .connectRequested = (machine, []) ∨
      machine.isConnected = false ∧ machine.retryScheduled = false ∧ ∃ next : ConnectionMachine,
        machine.handle .connectRequested = (next, [.openTransport]) ∧ next.Trying := by
  rcases machine with ⟨state, attempt, epoch, retryScheduled, backoff⟩
  cases state with
  | disconnected =>
      have unscheduled : retryScheduled = false := by
        rw [← Bool.not_eq_true]
        intro scheduled
        rcases resting.scheduled.mp scheduled with ⟨_, ⟨⟩⟩
      exact Or.inr ⟨rfl, unscheduled, _, rfl, Or.inl rfl, unscheduled⟩
  | connecting | connected | reconnecting => exact Or.inl rfl

theorem Resting.handle_networkOnline (resting : machine.Resting) :
    machine.handle .networkOnline = (machine, []) ∨
      machine.isConnected = false ∧ ∃ next : ConnectionMachine,
        machine.handle .networkOnline = (next, [.cancelRetry, .openTransport]) ∧ next.Trying := by
  rcases machine with ⟨state, attempt, epoch, retryScheduled, backoff⟩
  cases state with
  | reconnecting number =>
      obtain rfl : retryScheduled = true := resting.scheduled.mpr ⟨number, rfl⟩
      exact Or.inr ⟨rfl, _, rfl, Or.inr ⟨0, rfl⟩, rfl⟩
  | disconnected | connecting | connected => exact Or.inl rfl

theorem Resting.handle_retryDue (scheduled : machine.retryScheduled = true)
    (resting : machine.Resting) :
    machine.isConnected = false ∧ ∃ next : ConnectionMachine,
      machine.handle .retryDue = (next, [.openTransport]) ∧ next.Trying := by
  rcases machine with ⟨state, attempt, epoch, retryScheduled, backoff⟩
  obtain rfl : retryScheduled = true := scheduled
  rcases resting.scheduled.mp rfl with ⟨number, rfl⟩
  exact ⟨rfl, _, rfl, Or.inr ⟨number, rfl⟩, rfl⟩

/-! ## Inputs of a connected machine -/

/-- A connection goes away only when that is asked for or noticed. -/
theorem handle_of_connected (connected : machine.isConnected = true) {input : ConnectionInput}
    (stays : input ≠ .disconnectRequested ∧ input ≠ .closed) :
    machine.handle input = (machine, []) := by
  rcases machine with ⟨state, attempt, epoch, retryScheduled, backoff⟩
  obtain rfl : state = .connected := isConnected_iff.mp connected
  cases input with
  | disconnectRequested => exact absurd rfl stays.1
  | closed => exact absurd rfl stays.2
  | connectRequested | opened | openFailed | retryDue | networkOnline => rfl

theorem handle_disconnectRequested_of_open (open_ : machine.state ≠ .disconnected) :
    ∃ next : ConnectionMachine, machine.handle .disconnectRequested =
      (next, [.cancelRetry, .abandonPending, .closeTransport]) ∧ next.isConnected = false := by
  rcases machine with ⟨state, attempt, epoch, retryScheduled, backoff⟩
  cases state with
  | disconnected => exact absurd rfl open_
  | connecting | connected | reconnecting => exact ⟨_, rfl, rfl⟩

theorem handle_disconnectRequested_of_connected (connected : machine.isConnected = true) :
    ∃ next : ConnectionMachine, machine.handle .disconnectRequested =
      (next, [.cancelRetry, .abandonPending, .closeTransport]) ∧ next.isConnected = false :=
  handle_disconnectRequested_of_open (by rw [isConnected_iff.mp connected]; simp)

theorem handle_closed_of_connected (connected : machine.isConnected = true) :
    machine.handle .closed = (machine.scheduleRetry.1,
      [.abandonPending, .scheduleRetry (machine.backoff.delay machine.attempt)]) := by
  rcases machine with ⟨state, attempt, epoch, retryScheduled, backoff⟩
  obtain rfl : state = .connected := isConnected_iff.mp connected
  rfl

/-! ## Inputs that end a connection -/

theorem handle_disconnectRequested (machine : ConnectionMachine) :
    machine.handle .disconnectRequested = (machine, []) ∨ ∃ next : ConnectionMachine,
      machine.handle .disconnectRequested =
        (next, [.cancelRetry, .abandonPending, .closeTransport]) ∧
      next.Resting ∧ next.isConnected = false ∧ next.retryScheduled = false := by
  rcases machine with ⟨state, attempt, epoch, retryScheduled, backoff⟩
  cases state with
  | disconnected => exact Or.inl rfl
  | connecting | connected | reconnecting =>
      exact Or.inr ⟨_, rfl, ⟨by simp, by simp⟩, rfl, rfl⟩

theorem Resting.handle_closed (resting : machine.Resting) :
    machine.handle .closed = (machine, []) ∧ machine.isConnected = false ∨
      machine.isConnected = true ∧ ∃ (next : ConnectionMachine) (delay : Millis),
        machine.handle .closed = (next, [.abandonPending, .scheduleRetry delay]) ∧
        next.Resting ∧ next.isConnected = false ∧ next.retryScheduled = true := by
  rcases machine with ⟨state, attempt, epoch, retryScheduled, backoff⟩
  cases state with
  | connected =>
      exact Or.inr ⟨rfl, _, _, handle_closed_of_connected rfl, scheduleRetry_resting, rfl, rfl⟩
  | disconnected => exact Or.inl ⟨rfl, rfl⟩
  | connecting => exact absurd rfl resting.still
  | reconnecting number =>
      obtain rfl : retryScheduled = true := resting.scheduled.mpr ⟨number, rfl⟩
      exact Or.inl ⟨rfl, rfl⟩

/-! ## The end of an attempt -/

theorem Trying.handle_opened (trying : machine.Trying) :
    ∃ next : ConnectionMachine,
      machine.handle .opened = (next, [.handshake, .resubscribe, .syncAll]) ∧
      next.Resting ∧ next.isConnected = true ∧ next.retryScheduled = false := by
  rcases machine with ⟨state, attempt, epoch, retryScheduled, backoff⟩
  rcases trying.state with rfl | ⟨number, rfl⟩ <;>
    exact ⟨_, rfl, ⟨by simp, by simp⟩, rfl, rfl⟩

theorem Trying.handle_openFailed (trying : machine.Trying) :
    ∃ (next : ConnectionMachine) (delay : Millis),
      machine.handle .openFailed = (next, [.scheduleRetry delay]) ∧
      next.Resting ∧ next.isConnected = false ∧ next.retryScheduled = true := by
  have handled : machine.handle .openFailed = (machine.scheduleRetry.1,
      [.scheduleRetry (machine.backoff.delay machine.attempt)]) := by
    rcases machine with ⟨state, attempt, epoch, retryScheduled, backoff⟩
    obtain rfl : retryScheduled = false := trying.unscheduled
    rcases trying.state with rfl | ⟨number, rfl⟩ <;> rfl
  exact ⟨_, _, handled, scheduleRetry_resting, rfl, rfl⟩

/-! ## Inputs that open the transport -/

/-- The machine awaits the outcome of an attempt, or a retry. -/
def Underway (machine : ConnectionMachine) : Prop :=
  machine.state = .connecting ∨ ∃ attempt, machine.state = .reconnecting attempt

theorem Underway.apart (underway : machine.Underway) : machine.isConnected = false := by
  rcases underway with state | ⟨attempt, state⟩ <;> simp [isConnected, state]

theorem input_of_opens {input : ConnectionInput}
    (opens : .openTransport ∈ (machine.handle input).2) :
    input = .connectRequested ∨ input = .retryDue ∨ input = .networkOnline := by
  rcases machine with ⟨state, attempt, epoch, retryScheduled, backoff⟩
  cases input <;> cases state <;> cases retryScheduled <;>
    simp [handle, scheduleRetry] at opens ⊢

/-- The transport is opened after nothing else was done than to cancel a retry. -/
theorem handle_of_opens {input : ConnectionInput}
    (opens : .openTransport ∈ (machine.handle input).2) :
    (machine.handle input).1.Underway ∧
      ((machine.handle input).2 = [.openTransport] ∨
        (machine.handle input).2 = [.cancelRetry, .openTransport]) := by
  rcases machine with ⟨state, attempt, epoch, retryScheduled, backoff⟩
  cases input <;> cases state <;> cases retryScheduled <;>
    simp [handle, scheduleRetry, Underway] at opens ⊢

theorem Underway.handle_opened (underway : machine.Underway) :
    ∃ next : ConnectionMachine, machine.handle .opened =
      (next, [.handshake, .resubscribe, .syncAll]) ∧ next.isConnected = true := by
  rcases machine with ⟨state, attempt, epoch, retryScheduled, backoff⟩
  rcases underway with rfl | ⟨number, rfl⟩ <;> exact ⟨_, rfl, rfl⟩

/-- Only an open transport connects the machine. -/
theorem isConnected_of_handle {input : ConnectionInput} (other : input ≠ .opened)
    (connected : (machine.handle input).1.isConnected = true) : machine.isConnected = true := by
  rcases machine with ⟨state, attempt, epoch, retryScheduled, backoff⟩
  cases input <;> cases state <;> cases retryScheduled <;>
    simp_all [handle, scheduleRetry, isConnected]

/-- The transport is closed when that is asked for, or when it opens unasked. -/
theorem input_of_closes {input : ConnectionInput}
    (closes : .closeTransport ∈ (machine.handle input).2) :
    input = .disconnectRequested ∧ machine.state ≠ .disconnected ∨
      input = .opened ∧ machine.state = .disconnected := by
  rcases machine with ⟨state, attempt, epoch, retryScheduled, backoff⟩
  cases input <;> cases state <;> cases retryScheduled <;>
    simp [handle, scheduleRetry] at closes ⊢

/-- What waits for an answer is given up only when the connection ends. -/
theorem input_of_abandons {input : ConnectionInput}
    (abandons : .abandonPending ∈ (machine.handle input).2) :
    input = .disconnectRequested ∨ input = .closed := by
  rcases machine with ⟨state, attempt, epoch, retryScheduled, backoff⟩
  cases input <;> cases state <;> cases retryScheduled <;>
    simp [handle, scheduleRetry] at abandons ⊢

theorem effect_of_closed {effect : ConnectionEffect} (mem : effect ∈ (machine.handle .closed).2) :
    effect = .abandonPending ∨ ∃ delay, effect = .scheduleRetry delay := by
  rcases machine with ⟨state, attempt, epoch, retryScheduled, backoff⟩
  cases state with
  | disconnected => cases mem
  | connected =>
      rw [handle_closed_of_connected rfl] at mem
      simp only [List.mem_cons, List.not_mem_nil, or_false] at mem
      exact mem.imp_right fun retry => ⟨_, retry⟩
  | connecting | reconnecting =>
      cases retryScheduled with
      | true => cases mem
      | false => exact Or.inr ⟨_, List.mem_singleton.mp mem⟩

end ConnectionMachine

end MessageSync
