import MessageSync.Proofs.Engine.Deserted
import MessageSync.Proofs.Engine.Outbox
import MessageSync.Proofs.Engine.Status
import MessageSync.Proofs.Engine.Timers
import MessageSync.Proofs.Simulation.Waits

/-!
# Courses that reach no server

The steps that a course may take at an instant are limited, and so are the stages of a wait. Without a
server neither limit is ever met. A timer leaves no timer that is due, so that after every command
there is at most one; and every stage ends later than the one before, because it ends with a timer
that was not due yet.

While time passes nothing is stored and no request to write is answered, however often the engine
tries to connect or skips a sync.
-/

namespace MessageSync

namespace Course

variable {σ τ α : Type} {refusing : τ → Prop} {course : Course σ τ}

/-- The engine runs and reaches no server. -/
structure Stranded (refusing : τ → Prop) (course : Course σ τ) : Prop where
  running : course.phase = .running
  deserted : course.engine.Deserted refusing
  paced : course.engine.Paced
  mirrors : course.engine.Mirrors
  collected : course.engine.outputs = []

/-- There is nothing left to do at the present instant. -/
structure Idle (refusing : τ → Prop) (course : Course σ τ) : Prop extends
    Stranded refusing course where
  taken : course.queue = []
  ahead : ∀ wake, Engine.nextWake course.engine = some wake → course.now < wake

theorem Stranded.setNow (stranded : course.Stranded refusing) (instant : Instant) :
    (course.setNow instant).Stranded refusing where
  running := stranded.running
  deserted := stranded.deserted.congr rfl rfl rfl
  paced := stranded.paced.drift rfl
  mirrors := stranded.mirrors.drift rfl
  collected := stranded.collected

theorem Stranded.apart (stranded : course.Stranded refusing) :
    course.engine.status.state ≠ .connected := by
  intro connected
  rw [stranded.mirrors.state] at connected
  have := stranded.deserted.apart
  rw [ConnectionMachine.isConnected_iff.mpr connected] at this
  cases this

theorem Stranded.noticeConnected (stranded : course.Stranded refusing) :
    course.noticeConnected = course :=
  if_neg stranded.apart

theorem engine_noticeConnected (course : Course σ τ) :
    course.noticeConnected.engine = course.engine := by
  rw [Course.noticeConnected]
  split <;> rfl

theorem phase_noticeConnected (course : Course σ τ) :
    course.noticeConnected.phase = course.phase := by
  rw [Course.noticeConnected]
  split <;> rfl

/-! ## What is stored and answered -/

/-- The answer of an output to a request to write a message. -/
def writtenIn? : Output → Option (Waiter × Except EngineError Message)
  | .reply waiter (.written result) => some (waiter, result)
  | _ => none

/-- The answers to requests to write a message. -/
def written (course : Course σ τ) : List (Waiter × Except EngineError Message) :=
  course.outputs.filterMap fun output => writtenIn? output.value

/-- The log and the answers to requests to write are the same. -/
structure Retains (before after : Course σ τ) : Prop where
  log : after.engine.log = before.engine.log
  written : after.written = before.written

theorem Retains.trans {before middle after : Course σ τ} (first : Retains before middle)
    (second : Retains middle after) : Retains before after :=
  ⟨second.log.trans first.log, second.written.trans first.written⟩

/-- By the instant nothing was stored and no request to write was answered, and there is nothing
left to do. -/
structure Reaches (refusing : τ → Prop) (before : Course σ τ) (instant : Instant)
    (after : Course σ τ) : Prop where
  idle : after.Idle refusing
  now : after.now = instant
  retains : Retains before after

/-- While an idle course waits nothing happens, if it has nothing to do before. -/
theorem Idle.reaches_setNow (idle : course.Idle refusing) {target : Instant}
    (later : ∀ wake, Engine.nextWake course.engine = some wake → target < wake) :
    course.Reaches refusing target (course.setNow target) where
  idle := ⟨idle.toStranded.setNow target, idle.taken, later⟩
  now := rfl
  retains := ⟨rfl, rfl⟩

variable [KeepsSent τ]

theorem written_run (course : Course σ τ) (computation : EngineM σ τ Unit) :
    (course.run computation).written =
      course.written ++ (computation.run course.engine).2.written := by
  simp only [written, run, collect, List.filterMap_append, List.filterMap_map]
  rfl

variable [Transport τ]

theorem stop_of_taken (course : Course σ τ) (taken : course.queue = []) :
    course.stop = { course.run Engine.teardown with phase := .stopped, queue := [] } := by
  simp only [Course.stop, taken, List.filterMap_nil, List.forM_eq_forM, List.forM_nil, pure_bind]

variable [MessageLog σ]

theorem Stranded.retains_run (stranded : course.Stranded refusing) {input : Input}
    (saves : Engine.Saves course.engine ((Engine.step input).run course.engine).2) :
    Retains course (course.run (Engine.step input)) := by
  refine ⟨saves.log, ?_⟩
  rw [written_run, saves.written, Engine.written, stranded.collected]
  exact List.append_nil _

theorem Stranded.retains_timer (stranded : course.Stranded refusing) :
    Retains course (course.run (Engine.step .timer)) :=
  stranded.retains_run (Engine.always_step_of_take
    (Engine.always_fires Engine.saves_runSync (.inl rfl)) course.engine)

theorem Stranded.retains_connect (stranded : course.Stranded refusing) :
    Retains course (course.run (Engine.step (.command .connect))) := by
  have connects : Engine.Always Engine.Saves
      (Engine.take (.command .connect) : EngineM σ τ Unit) :=
    Engine.always_apply .connectRequested
  exact stranded.retains_run (Engine.always_step_of_take connects course.engine)

/-! ## The beginning and the end -/

theorem Idle.shutdown_eq (idle : course.Idle refusing) :
    course.shutdown = ({ course with phase := .stopping } : Course σ τ).stop.noticeConnected := by
  let stopping : Course σ τ := { course with phase := .stopping }
  have opening : stopping.engine.opening = none := idle.deserted.opening
  obtain ⟨steps, enough⟩ : ∃ steps, stopping.settleSteps = steps + 1 := ⟨_, rfl⟩
  have settles : Course.settle stopping.settleSteps stopping = stopping.stop := by
    rw [enough, Course.settle, if_neg (by simp [stopping])]
    simp only [opening]
    exact if_pos rfl
  rw [Course.shutdown, if_neg (by simp [idle.running])]
  simp only [idle.deserted.opening]
  exact congrArg Course.noticeConnected settles

/-- A course that is shut down stops at once and leaves the log as it is. -/
theorem Idle.shutdown (idle : course.Idle refusing) :
    course.shutdown.phase = .stopped ∧ course.shutdown.now = course.now ∧
      course.shutdown.engine.log = course.engine.log := by
  have saves := Engine.saves_teardown course.engine
  rw [idle.shutdown_eq, now_noticeConnected, phase_noticeConnected, engine_noticeConnected, now_stop,
    stop_of_taken { course with phase := .stopping } idle.taken]
  exact ⟨rfl, rfl, saves.log⟩

omit [KeepsSent τ] in
/-- An engine that was just started has nothing to do. -/
theorem idle_start {settings : Settings} {transport : τ} {log : σ} {clock : Clock}
    {first : Engine σ τ} (unreachable : refusing transport)
    (started : Engine.start settings transport log clock = .ok first)
    (arrivals : List (Timed Arrival)) :
    (start first arrivals).Idle refusing where
  running := rfl
  deserted := by
    have fresh := Engine.fresh_of_start started
    rcases fresh.machine with ⟨backoff, machine⟩
    have apart : first.machine.isConnected = false := by rw [machine]; rfl
    exact ⟨fresh.transport ▸ unreachable, apart, fresh.opening⟩
  paced := Engine.paced_of_start started
  mirrors := by
    have runs : Engine.Runs Engine.Arrives first first := .initial
    exact Engine.mirrors_of_runs started (fun _ _ _ arrival => arrival.drifts) runs
  collected := by
    rcases Engine.eq_of_start started with ⟨window, rfl⟩
    rfl
  taken := rfl
  ahead wake wakes := by
    rcases Engine.eq_of_start started with ⟨window, rfl⟩
    cases wakes

/-! ## Settling -/

theorem Stranded.settle_command {command : Command} {queue : List Command}
    (stranded : course.Stranded refusing) (queued : course.queue = command :: queue) (steps : Nat) :
    Course.settle (steps + 1) course =
      Course.settle steps
        (({ course with queue } : Course σ τ).run (Engine.step (.command command))) := by
  have runs : course.phase ≠ .stopped ∧ course.phase ≠ .stopping := by simp [stranded.running]
  rw [Course.settle, if_neg runs.1]
  simp only [stranded.deserted.opening]
  rw [if_neg runs.2]
  simp only [queued]

variable [Refusing refusing]

omit [KeepsSent τ] [MessageLog σ] in
/-- Without a connection nothing arrives. -/
theorem Stranded.nextArrival (stranded : course.Stranded refusing) : course.nextArrival = none := by
  have apart : course.isOpen = false := Refusing.apart stranded.deserted.unreachable
  rw [Course.nextArrival, apart]
  rfl

omit [KeepsSent τ] [MessageLog σ] in
theorem Stranded.arrived (stranded : course.Stranded refusing) : course.arrived = none := by
  rw [Course.arrived, stranded.nextArrival]

omit [KeepsSent τ] [MessageLog σ] in
/-- What may happen next is a timer. -/
theorem Stranded.nextInstant (stranded : course.Stranded refusing) :
    course.nextInstant = Engine.nextWake course.engine := by
  have runs : course.phase ≠ .stopped := by simp [stranded.running]
  rw [Course.nextInstant, if_neg runs, stranded.deserted.opening, stranded.nextArrival]
  cases Engine.nextWake course.engine <;> rfl

theorem Stranded.run (stranded : course.Stranded refusing) (input : Input) :
    (course.run (Engine.step input)).Stranded refusing := by
  have deserted := stranded.deserted.step input
  have drifts : Engine.Drifts ((Engine.step input).run course.engine).2
    (course.run (Engine.step input)).engine := rfl
  exact {
    running := stranded.running
    deserted := ⟨deserted.unreachable, deserted.apart, deserted.opening⟩
    paced := (stranded.paced.changes (Engine.changes_step input course.engine)).drift drifts
    mirrors := (stranded.mirrors.step input).drift drifts
    collected := rfl }

/-- A timer leaves nothing to do. -/
theorem Stranded.idle_timer (stranded : course.Stranded refusing) (taken : course.queue = []) :
    (course.run (Engine.step .timer)).Idle refusing where
  toStranded := stranded.run .timer
  taken := taken
  ahead wake wakes := by
    have answered : (Engine.onTimer.run course.engine).2.opening = none :=
      (stranded.deserted.take .timer).opening
    rcases Engine.ahead_onTimer stranded.paced answered with ⟨ahead, patient⟩
    have paced : Engine.Paced (Engine.onTimer.run course.engine).2 :=
      stranded.paced.changes (Engine.changes_take .timer course.engine)
    have left : Engine.Ahead ((Engine.step .timer).run course.engine).2 course.now := by
      rw [Engine.run_step]
      split
      · exact Engine.ahead_noticeBrokenLink paced patient ahead
      · exact ahead
    have sorted := (stranded.run .timer).paced.schedules.sorted
    rw [now_step]
    exact Engine.Ahead.lt_nextWake ⟨left.retry, left.subscribes, left.syncs⟩ sorted wakes

theorem Idle.settle (idle : course.Idle refusing) (steps : Nat) : settle steps course = course := by
  have rests : course.engine.nextWake.any (· ≤ course.now) = false := by
    cases wakes : course.engine.nextWake with
    | none => rfl
    | some wake => simpa using idle.ahead wake wakes
  cases steps with
  | zero => rfl
  | succ steps =>
      simp [Course.settle, idle.running, idle.deserted.opening, idle.taken, idle.arrived, rests]

/-- When all commands are taken there is nothing to do, or nothing but a timer. -/
theorem Stranded.settle (stranded : course.Stranded refusing) (taken : course.queue = [])
    (steps : Nat) :
    (settle (steps + 1) course).Idle refusing ∧
      (settle (steps + 1) course = course ∨
        settle (steps + 1) course = course.run (Engine.step .timer)) := by
  by_cases due : course.engine.nextWake.any (· ≤ course.now) = true
  · have fires : Course.settle (steps + 1) course = course.run (Engine.step .timer) := by
      rw [Course.settle]
      simp only [stranded.running, stranded.deserted.opening, taken, stranded.arrived, due, if_true,
        reduceCtorEq, if_false]
      exact (stranded.idle_timer taken).settle steps
    exact ⟨by rw [fires]; exact stranded.idle_timer taken, .inr fires⟩
  · have idle : course.Idle refusing := by
      refine ⟨stranded, taken, fun wake wakes => ?_⟩
      rw [wakes] at due
      simpa using due
    have rests := idle.settle (steps + 1)
    exact ⟨by rw [rests]; exact idle, .inl rests⟩

/-- When all commands are taken, any number of steps is enough to leave nothing to do. -/
theorem Stranded.reaches_settle (stranded : course.Stranded refusing) (taken : course.queue = [])
    (steps : Nat) :
    course.Reaches refusing course.now (Course.settle (steps + 1) course).noticeConnected := by
  rcases stranded.settle taken steps with ⟨idle, same⟩
  rw [idle.noticeConnected]
  rcases same with same | fires
  · rw [same] at idle ⊢
    exact ⟨idle, rfl, rfl, rfl⟩
  · rw [fires] at idle ⊢
    exact ⟨idle, course.now_step _, stranded.retains_timer⟩

/-! ## The passage of time -/

/-- A wait for what there never is without a server is in vain. The stages are enough, because every
stage ends later than the one before. -/
theorem Idle.waitFor {answer? : Course σ τ → Option α}
    (never : ∀ course : Course σ τ, course.Stranded refusing → answer? course = none)
    {stages : Nat} {target : Instant} (idle : course.Idle refusing) (later : course.now ≤ target)
    (enough : target - course.now < stages) :
    ∃ after, waitFor answer? stages target course = (none, after) ∧
      course.Reaches refusing target after := by
  induction stages generalizing course with
  | zero => cases enough
  | succ stages waits =>
      rw [Course.waitFor, never course idle.toStranded, idle.nextInstant]
      cases wakes : Engine.nextWake course.engine with
      | none => exact ⟨_, rfl, idle.reaches_setNow (by simp [wakes])⟩
      | some wake =>
          have ahead := idle.ahead wake wakes
          by_cases due : wake ≤ target
          · simp only [due, if_true, Nat.max_eq_left ahead.le]
            have stranded : (course.setNow wake).Stranded refusing := idle.toStranded.setNow wake
            have stage : Reaches refusing _ _ (course.setNow wake).settled :=
              stranded.reaches_settle idle.taken _
            have now : (course.setNow wake).settled.now = wake := stage.now
            have nearer : target - wake < stages :=
              (Nat.sub_lt_sub_left (ahead.trans_le due) ahead).trans_le (Nat.le_of_lt_succ enough)
            rcases waits stage.idle (by rwa [now]) (by rwa [now]) with ⟨after, waited, rest⟩
            have passes : Retains course (course.setNow wake) := ⟨rfl, rfl⟩
            exact ⟨after, waited, rest.idle, rest.now,
              passes.trans (stage.retains.trans rest.retains)⟩
          · simp only [due, if_false]
            exact ⟨_, rfl, idle.reaches_setNow (by simpa [wakes] using due)⟩

/-- A command is taken, and after it a timer if one is due then. -/
theorem Idle.reaches_command (idle : course.Idle refusing) (command : Command) :
    ∃ after, course.command command = (true, after) ∧
      (course.run (Engine.step (.command command))).Reaches refusing course.now after := by
  let given : Course σ τ := { course with queue := [command] }
  have stranded : given.Stranded refusing := { idle.toStranded with }
  have emptied : { course with queue := [] } = course := by rw [← idle.taken]
  obtain ⟨steps, enough⟩ : ∃ steps, given.settleSteps = steps + 2 := ⟨_, rfl⟩
  have taken := (idle.toStranded.run (.command command)).reaches_settle idle.taken steps
  rw [now_step] at taken
  refine ⟨_, ?_, taken⟩
  rw [Course.command, if_pos idle.running, idle.taken]
  change (true, (Course.settle given.settleSteps given).noticeConnected) = _
  rw [enough, stranded.settle_command rfl, emptied]

end Course

end MessageSync
