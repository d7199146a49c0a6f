import MessageSync.CommandLine.Console
import MessageSync.Proofs.Simulation.Stranded
import MessageSync.Simulation.Session

/-!
# Requests of a command

A request is over as soon as the engine has answered it, and so is the wait for the connection once it
is open. Without a server a message is still written at once, and the wait takes all of its time.
-/

namespace MessageSync

namespace ConsoleM

variable {σ τ α β : Type} {console after : Console σ τ} {first : ConsoleM σ τ α} {result : α}
  {error : ClientError}

theorem runOn_bind_of_ok (ends : first.runOn console = (.ok result, after))
    (next : α → ConsoleM σ τ β) : (first >>= next).runOn console = (next result).runOn after := by
  change (ExceptT.bindCont next (first.runOn console).1) (first.runOn console).2 = _
  rw [ends]
  rfl

theorem runOn_bind_of_error (fails : first.runOn console = (.error error, after))
    (next : α → ConsoleM σ τ β) : (first >>= next).runOn console = (.error error, after) := by
  change (ExceptT.bindCont next (first.runOn console).1) (first.runOn console).2 = _
  rw [fails]
  rfl

theorem runOn_get : (get : ConsoleM σ τ (Console σ τ)).runOn console = (.ok console, console) := rfl

theorem runOn_modify {change : Console σ τ → Console σ τ} :
    (modify change : ConsoleM σ τ PUnit).runOn console = (.ok (), change console) := rfl

end ConsoleM

namespace Console

open ConsoleM

variable {σ τ α ε : Type} {console : Console σ τ}

/-- Something happens to the course, whatever is printed about it. -/
theorem runOn_onCourse (action : Course σ τ → α × Course σ τ) {result : α} {after : Course σ τ}
    (acts : action console.course = (result, after)) :
    ∃ printed, (onCourse action).runOn console =
      (.ok result, ⟨after, printed, console.requests⟩) := by
  have runs : (onCourse action).runOn console = (.ok (action console.course).1,
    ⟨(action console.course).2, _, console.requests⟩) := rfl
  rw [acts] at runs
  exact ⟨_, runs⟩

theorem runOn_orFail (error : ε → ClientError) (result : Except ε α) (console : Console σ τ) :
    (orFail error result : ConsoleM σ τ α).runOn console = (result.mapError error, console) := by
  cases result <;> rfl

variable [MessageLog σ] [Transport τ] [KeepsSent τ] {taken : Bool} {after ended : Course σ τ}
  {limit : Millis}

theorem runOn_within {answer? : Course σ τ → Option α} {answer : Option α}
    (waits : console.course.await answer? limit = (answer, ended)) :
    ∃ printed, (within limit answer?).runOn console =
      (.ok answer, ⟨ended, printed, console.requests⟩) :=
  runOn_onCourse (·.await answer? limit) waits

/-! ## Waiting for an answer -/

/-- A request that is answered at once takes no time, and the time given to it does not matter. -/
theorem runOn_requestWithin {request : Waiter → Command} {read : Reply → Option α} {answer : α}
    (given : console.course.command (request console.requests) = (taken, after))
    (answers : after.answer? console.requests read = some answer) (limit : Millis) :
    ∃ printed, (requestWithin limit request read).runOn console =
      (.ok (some answer), ⟨after, printed, console.requests + 1⟩) := by
  let asking : Console σ τ := { console with requests := console.requests + 1 }
  have asks : asking.course.command (request console.requests) = (taken, after) := given
  rcases runOn_onCourse (·.command (request console.requests)) asks with ⟨lines, commands⟩
  let asked : Console σ τ := ⟨after, lines, console.requests + 1⟩
  have waits : asked.course.await (·.answer? console.requests read) limit = (some answer, after) :=
    Course.await_of_answer answers limit
  rcases runOn_within waits with ⟨printed, awaits⟩
  refine ⟨printed, ?_⟩
  rw [requestWithin, runOn_bind_of_ok runOn_get, runOn_bind_of_ok runOn_modify,
    runOn_bind_of_ok commands]
  exact awaits

theorem runOn_request (stopped : ε) {request : Waiter → Command}
    {read : Reply → Option (Except ε α)} {answer : Except ε α}
    (given : console.course.command (request console.requests) = (taken, after))
    (answers : after.answer? console.requests read = some answer) :
    ∃ printed, (Console.request stopped request read).runOn console =
      (.ok answer, ⟨after, printed, console.requests + 1⟩) := by
  rcases runOn_requestWithin given answers (patience console.course.engine) with ⟨printed, asks⟩
  refine ⟨printed, ?_⟩
  rw [Console.request, runOn_bind_of_ok runOn_get, runOn_bind_of_ok asks]
  rfl

/-! ## Waiting for the connection -/

theorem runOn_waitConnected (given : console.course.command .connect = (true, after))
    {opened : Option Unit} (waits : after.await Course.opened? limit = (opened, ended)) :
    ∃ printed, (waitConnected limit).runOn console =
      (if opened.isNone then .error (.timeout "connection") else .ok (),
        ⟨ended, printed, console.requests⟩) := by
  rcases runOn_onCourse (·.command .connect) given with ⟨lines, connects⟩
  let connecting : Console σ τ := ⟨after, lines, console.requests⟩
  have waits : connecting.course.await Course.opened? limit = (opened, ended) := waits
  rcases runOn_within waits with ⟨printed, awaits⟩
  refine ⟨printed, ?_⟩
  rw [waitConnected, runOn_bind_of_ok connects]
  -- The engine took the command, so that the wait begins.
  change ConsoleM.runOn (within limit Course.opened? >>= _) connecting = _
  rw [runOn_bind_of_ok awaits]
  split <;> rfl

/-- The wait for the connection is over as soon as there is one, and otherwise when its time is
over. -/
theorem waitConnected_ends (running : console.course.phase = .running) (limit : Millis) :
    ∃ result ended, (waitConnected limit).runOn console = (result, ended) ∧
      (result = .ok () ∧ ended.course.engine.status.state = .connected ∧
          ended.course.now ≤ console.course.now + limit ∨
        result = .error (.timeout "connection") ∧
          ended.course.now = console.course.now + limit) := by
  rcases Course.command_of_running running .connect with ⟨after, given, now⟩
  rcases waits : after.await Course.opened? limit with ⟨opened, ended⟩
  rcases runOn_waitConnected given waits with ⟨printed, runs⟩
  have ends := after.ends_await Course.opened? limit
  rw [waits, now] at ends
  refine ⟨_, _, runs, ?_⟩
  cases opened with
  | none => exact .inr ⟨rfl, ends.unanswered rfl⟩
  | some opened =>
      rcases ends.answered opened rfl with ⟨answers, early⟩
      refine .inl ⟨rfl, ?_, early⟩
      by_contra apart
      rw [Course.opened?, if_neg apart] at answers
      cases answers

/-- Where the third attempt to connect succeeds, the wait is over with it. -/
example : (Engine.start Settings.standard { failingConnects := 2 : ScriptedTransport } Store.empty
    ⟨0, default⟩).toOption.map (fun engine =>
      let (result, ended) := (waitConnected 30000).runOn (.start (.start engine []))
      (result.toOption, ended.course.now)) = some (some (), 3000) := by decide +kernel

end Console

/-! ## Without a server -/

namespace Course

variable {σ τ : Type} {refusing : τ → Prop} {course : Course σ τ}

theorem answer?_written_of_output (waiter : Waiter) (output : Output) :
    output.answer? waiter Reply.written? =
      ((writtenIn? output).filter fun answer => answer.1 = waiter).map (·.2) := by
  rcases output with ⟨answered, reply⟩ | ⟨listener, event⟩
  · cases reply with
    | written result =>
        by_cases mine : answered = waiter <;>
          simp [Output.answer?, Reply.written?, writtenIn?, mine, Option.filter]
    | _ => exact ite_self none
  · rfl

theorem answer?_written (course : Course σ τ) (waiter : Waiter) :
    course.answer? waiter Reply.written? =
      (course.written.find? fun answer => answer.1 = waiter).map (·.2) := by
  simp only [answer?, written, answer?_written_of_output]
  induction course.outputs with
  | nil => rfl
  | cons output outputs same =>
      rw [List.findSome?_cons, List.filterMap_cons]
      cases writtenIn? output.value with
      | none => exact same
      | some answer =>
          by_cases mine : answer.1 = waiter
          · simp [mine, Option.filter]
          · simpa [mine, Option.filter] using same

theorem Stranded.opened? (stranded : course.Stranded refusing) : course.opened? = none :=
  if_neg stranded.apart

end Course

namespace Console

open ConsoleM

variable {σ τ : Type} [MessageLog σ] [Transport τ] [KeepsSent τ] {refusing : τ → Prop}
  [Refusing refusing] {console : Console σ τ}

/-- The wait for the connection is in vain, and nothing is stored meanwhile. -/
theorem waitConnected_idle (idle : console.course.Idle refusing) (limit : Millis) :
    ∃ ended, (waitConnected limit).runOn console = (.error (.timeout "connection"), ended) ∧
      ended.course.Idle refusing ∧ ended.course.now = console.course.now + limit ∧
      ended.course.engine.log = console.course.engine.log := by
  rcases idle.reaches_command .connect with ⟨after, given, connects⟩
  have saves := idle.toStranded.retains_connect
  have enough : after.now + limit - after.now < limit + 1 := by
    rw [Nat.add_sub_cancel_left]
    exact Nat.lt_succ_self _
  rcases connects.idle.waitFor (fun _ => Course.Stranded.opened?) (Nat.le_add_right _ _) enough with
    ⟨ended, waits, passes⟩
  rcases runOn_waitConnected given waits with ⟨printed, runs⟩
  refine ⟨_, runs, passes.idle, ?_, ?_⟩
  · rw [passes.now, connects.now]
  · exact passes.retains.log.trans (connects.retains.log.trans saves.log)

/-- A message is written at once, or refused at once. No other answer can be taken for that to the
request, because none was given before. -/
theorem sendMessage_idle (idle : console.course.Idle refusing)
    (fresh : console.course.written = []) (conversationId contents : String) :
    let write := (Engine.sendMessage conversationId contents).run console.course.engine
    ∃ ended, (Console.sendMessage conversationId contents).runOn console =
        (write.1.mapError .engine, ended) ∧
      ended.course.Idle refusing ∧ ended.course.now = console.course.now ∧
      ended.course.engine.log = write.2.log := by
  intro write
  let command := Command.sendMessage conversationId contents console.requests
  rcases idle.reaches_command command with ⟨after, given, taken⟩
  have saves := Engine.saves_step_of_take console.course.engine (.command command)
  have nothing : console.course.engine.written = [] := by
    rw [Engine.written, idle.collected]
    rfl
  have answers : after.written = [(console.requests, write.1)] := by
    rw [taken.retains.written, Course.written_run, saves.written,
      Engine.written_take_sendMessage, fresh, nothing]
    rfl
  have answered : after.answer? console.requests Reply.written? = some write.1 := by
    rw [Course.answer?_written, answers]
    simp
  rcases runOn_request .stopped given answered with ⟨printed, asks⟩
  refine ⟨⟨after, printed, console.requests + 1⟩, ?_, taken.idle, taken.now,
    taken.retains.log.trans saves.log⟩
  rw [Console.sendMessage, runOn_bind_of_ok asks, runOn_orFail]

end Console

end MessageSync
