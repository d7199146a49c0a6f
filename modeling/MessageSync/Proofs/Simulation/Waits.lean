import MessageSync.Proofs.Engine.Givens
import MessageSync.Simulation.Course

/-!
# Waiting

What happens at an instant takes no time. So a wait goes on from stage to stage and ends at the first
of them at which there is an answer, or else at its last instant.
-/

namespace MessageSync

namespace Course

variable {σ τ α : Type} {course : Course σ τ}

/-! ## What takes no time -/

theorem now_noticeConnected (course : Course σ τ) : course.noticeConnected.now = course.now := by
  rw [noticeConnected]
  split <;> rfl

variable [KeepsSent τ]

theorem now_run (computation : EngineM σ τ Unit)
    (same : Engine.SameGivens course.engine (computation.run course.engine).2) :
    (course.run computation).now = course.now :=
  congrArg (Clock.now ∘ Engine.Givens.clock) same

variable [Transport τ]

theorem now_stop (course : Course σ τ) : course.stop.now = course.now := by
  refine now_run _ ?_
  refine Engine.Always.bind (Engine.Always.forM fun answer _ => ?_)
    (fun _ => Engine.sameGivens_teardown) course.engine
  exact fun _ => rfl

variable [MessageLog σ]

theorem now_step (course : Course σ τ) (input : Input) :
    (course.run (Engine.step input)).now = course.now :=
  now_run _ (Engine.sameGivens_step input course.engine)

theorem now_deliver (course : Course σ τ) (arrival : Arrival) :
    (course.deliver arrival).now = course.now := by
  cases arrival with
  | frame content => exact course.now_step _
  | closed => exact (course.onTransport Transport.disconnect).now_step _
  | failed text => exact (course.onTransport Transport.disconnect).now_step _

theorem now_settle (steps : Nat) (course : Course σ τ) : (settle steps course).now = course.now := by
  induction steps generalizing course with
  | zero => rfl
  | succ steps same =>
      rw [settle]
      split
      · rfl
      · split
        · split
          · exact (same _).trans (course.now_step _)
          · rfl
        · split
          · exact course.now_stop
          · split
            · exact (same _).trans (now_step _ _)
            · exact (same _).trans (now_deliver _ _)
            · split
              · exact (same _).trans (course.now_step _)
              · rfl

theorem now_settled (course : Course σ τ) : course.settled.now = course.now :=
  (now_noticeConnected _).trans (now_settle _ _)

/-- An engine that runs takes a command at once. -/
theorem command_of_running (running : course.phase = .running) (command : Command) :
    ∃ after, course.command command = (true, after) ∧ after.now = course.now :=
  ⟨_, if_pos running, now_settled _⟩

/-! ## Answers and last instants -/

/-- The wait for an answer ended at an instant: with the answer that there is then, in time, or without
one when the time is over. -/
structure Ends (answer? : Course σ τ → Option α) (target : Instant)
    (ended : Option α × Course σ τ) : Prop where
  answered : ∀ answer, ended.1 = some answer → answer? ended.2 = some answer ∧ ended.2.now ≤ target
  unanswered : ended.1 = none → ended.2.now = target

theorem ends_waitFor {answer? : Course σ τ → Option α} {target : Instant}
    (later : course.now ≤ target) (stages : Nat) :
    Ends answer? target (waitFor answer? stages target course) := by
  have expired (course : Course σ τ) : Ends answer? target (none, course.setNow target) :=
    ⟨nofun, fun _ => rfl⟩
  induction stages generalizing course with
  | zero => exact expired course
  | succ stages ends =>
      rw [waitFor]
      split
      · next answer answers =>
          refine ⟨fun given same => ?_, nofun⟩
          cases same
          exact ⟨answers, later⟩
      · next instant unanswered wakes =>
          split
          · next due =>
              refine ends ?_
              rw [now_settled]
              exact max_le due later
          · exact expired course
      · exact expired course

/-- A wait for something takes its whole time, or ends before with what there is then. -/
theorem ends_await (course : Course σ τ) (answer? : Course σ τ → Option α) (limit : Millis) :
    Ends answer? (course.now + limit) (course.await answer? limit) :=
  ends_waitFor (Nat.le_add_right _ _) _

/-- What is there already is not waited for. -/
theorem await_of_answer {answer? : Course σ τ → Option α} {answer : α}
    (answers : answer? course = some answer) (limit : Millis) :
    course.await answer? limit = (some answer, course) := by
  simp only [await, waitFor, answers]

end Course

end MessageSync
