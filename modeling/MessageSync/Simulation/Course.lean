import MessageSync.Engine.Run

/-!
# Courses

A course runs the engine on a clock that moves only when told. After each action, everything happens
that can happen at the same instant: commands are taken in the order in which they were given, then
what has arrived, then timers that are due.

What the server does is a list of what arrives and when. Of it only that arrives for which there is a
connection: what comes before waits for it.
-/

namespace MessageSync

/-- Whether the engine still runs. -/
inductive Phase where
  | running
  /-- The engine is to stop as soon as it takes its next input. -/
  | stopping
  | stopped
deriving DecidableEq, Inhabited

/-- Something at an instant. -/
structure Timed (α : Type) where
  instant : Instant
  value : α

/-- Something that arrives over the connection. -/
inductive Arrival where
  | frame (content : Packing.Bytes)
  /-- The server closes the connection. -/
  | closed
  /-- Receiving fails, and the connection is gone. -/
  | failed (text : String)
deriving DecidableEq, Inhabited

/-- Transports that keep the frames they sent. -/
class KeepsSent (τ : Type) where
  /-- The frames sent so far, in order. -/
  sent : τ → List Packing.Bytes

/-- The state of a course. -/
structure Course (σ τ : Type) where
  engine : Engine σ τ
  phase : Phase
  /-- Commands that the engine has not taken. -/
  queue : List Command
  /-- What the server does from now on, in order. -/
  arrivals : List (Timed Arrival)
  /-- Callers that wait for the connection. -/
  awaiting : List Waiter
  /-- What was put out, in order. -/
  outputs : List (Timed Output)
  /-- Callers whose wait for the connection is over. -/
  connectedAt : List (Timed Waiter)
  /-- The frames that were sent, in order. -/
  sent : List (Timed Packing.Bytes)
  /-- How many of the frames that the transport keeps were noted. -/
  noted : Nat

namespace Course

variable {σ τ α : Type}

/-- A course before its first action. -/
def start (engine : Engine σ τ) (arrivals : List (Timed Arrival)) : Course σ τ :=
  { engine, phase := .running, queue := [], arrivals, awaiting := [], outputs := []
    connectedAt := [], sent := [], noted := 0 }

/-- The present instant. -/
def now (course : Course σ τ) : Instant :=
  course.engine.clock.now

/-- The course at an instant. -/
def setNow (course : Course σ τ) (instant : Instant) : Course σ τ :=
  { course with engine := { course.engine with
      clock := { course.engine.clock with now := instant } } }

/-- The calendar clock a little later, so that no two of its readings are the same. -/
def tick (clock : Clock) : Clock :=
  { clock with
    calendar := (Moment.of? clock.calendar.seconds (clock.calendar.nanos + 1)).getD clock.calendar }

/-- Tells callers that wait for the connection, if it is open. -/
def noticeConnected (course : Course σ τ) : Course σ τ :=
  if course.engine.status.state = .connected then
    { course with
      awaiting := []
      connectedAt := course.connectedAt ++ course.awaiting.map (⟨course.now, ·⟩) }
  else course

/-- A caller that waits for the connection. -/
def awaitConnected (course : Course σ τ) (waiter : Waiter) : Course σ τ :=
  noticeConnected { course with awaiting := course.awaiting ++ [waiter] }

/-- Changes the transport behind the engine's back. -/
def onTransport (course : Course σ τ) (change : τ → τ) : Course σ τ :=
  { course with engine := { course.engine with transport := change course.engine.transport } }

/-- Changes the log behind the engine's back. -/
def onLog (course : Course σ τ) (change : σ → σ) : Course σ τ :=
  { course with engine := { course.engine with log := change course.engine.log } }

variable [KeepsSent τ]

/-- Takes what the engine put out and sent, with the present instant. -/
def collect (course : Course σ τ) : Course σ τ :=
  let engine := course.engine
  let sent := KeepsSent.sent engine.transport
  let stamp {α : Type} (values : List α) : List (Timed α) := values.map (⟨course.now, ·⟩)
  { course with
    engine := { engine with outputs := [], clock := tick engine.clock }
    outputs := course.outputs ++ stamp engine.outputs
    sent := course.sent ++ stamp (sent.drop course.noted)
    noted := sent.length }

/-- Runs a computation of the engine. -/
def run (course : Course σ τ) (computation : EngineM σ τ Unit) : Course σ τ :=
  collect { course with engine := (computation.run course.engine).2 }

variable [MessageLog σ] [Transport τ]

/-- Stops the engine. Commands that it did not take are answered. -/
def stop (course : Course σ τ) : Course σ τ :=
  let unanswered := course.queue.filterMap Command.stopped
  let course := course.run do
    unanswered.forM fun (waiter, answer) => Engine.reply waiter answer
    Engine.teardown
  { course with phase := .stopped, queue := [] }

/-- Whether the server has a connection over which the engine listens. -/
def isOpen (course : Course σ τ) : Bool :=
  Transport.isConnected course.engine.transport

/-- Takes what arrives over the connection. -/
def deliver (course : Course σ τ) : Arrival → Course σ τ
  | .frame content => course.run (Engine.step (.frame content))
  | .closed => (course.onTransport Transport.disconnect).run (Engine.step .closed)
  | .failed text => (course.onTransport Transport.disconnect).run
      (Engine.step (.receiveFailed (.receiveFailed text)))

/-- What arrives next, if there is a connection. -/
def nextArrival (course : Course σ τ) : Option (Timed Arrival) :=
  if course.isOpen then course.arrivals.head? else none

/-- What has arrived and is to be taken next. -/
def arrived (course : Course σ τ) : Option Arrival :=
  match course.nextArrival with
  | some arrival => if arrival.instant ≤ course.now then some arrival.value else none
  | none => none

/-- Lets happen what can happen at the present instant, in no more than the given number of
steps. -/
def settle : Nat → Course σ τ → Course σ τ
  | 0, course => course
  | steps + 1, course =>
    if course.phase = .stopped then course
    else
      match course.engine.opening with
      | some opening =>
        if opening.deadline ≤ course.now then settle steps (course.run (Engine.step .openingOver))
        else course
      | none =>
        if course.phase = .stopping then stop course
        else
          match course.queue, course.arrived with
          | command :: queue, _ =>
            settle steps (({ course with queue }).run (Engine.step (.command command)))
          | [], some arrival =>
            settle steps (({ course with arrivals := course.arrivals.tail }).deliver arrival)
          | [], none =>
            if course.engine.nextWake.any (· ≤ course.now) then
              settle steps (course.run (Engine.step .timer))
            else course

/-- The steps that settling takes at most: one for each command and each arrival, each followed by a
timer, and some more for attempts to connect. -/
def settleSteps (course : Course σ τ) : Nat :=
  2 * (course.queue.length + course.arrivals.length) + 16

/-- Lets happen what can happen at the present instant. -/
def settled (course : Course σ τ) : Course σ τ :=
  noticeConnected (settle course.settleSteps course)

/-! ## The passage of time -/

/-- When a timer is due, something arrives, or an attempt to connect is over. -/
def nextInstant (course : Course σ τ) : Option Instant :=
  if course.phase = .stopped then none
  else
    match course.engine.opening with
    | some opening => some opening.deadline
    | none => [course.nextArrival.map (·.instant), course.engine.nextWake].reduceOption.min?

/-- Waits until there is an answer, but no longer than up to an instant, in no more than the given
number of stages. Every stage ends where something may happen. An answer that comes at the last
instant is still in time. -/
def waitFor (answer? : Course σ τ → Option α) :
    Nat → Instant → Course σ τ → Option α × Course σ τ
  | 0, target, course => (none, course.setNow target)
  | stages + 1, target, course =>
    match answer? course, course.nextInstant with
    | some answer, _ => (some answer, course)
    | none, some instant =>
      if instant ≤ target then
        waitFor answer? stages target (settled (course.setNow (max instant course.now)))
      else (none, course.setNow target)
    | none, none => (none, course.setNow target)

/-- Waits until there is an answer, but no longer than for the given time. -/
def await (course : Course σ τ) (answer? : Course σ τ → Option α) (limit : Millis) :
    Option α × Course σ τ :=
  waitFor answer? (limit + 1) (course.now + limit) course

/-- Lets time pass. -/
def advance (course : Course σ τ) (millis : Millis) : Course σ τ :=
  (course.await (fun _ => (none : Option Unit)) millis).2

/-! ## Actions -/

/-- Gives the engine a command. The result says whether it still runs. -/
def command (course : Course σ τ) (command : Command) : Bool × Course σ τ :=
  if course.phase = .running then
    (true, settled { course with queue := course.queue ++ [command] })
  else
    match command.stopped with
    | some (waiter, reply) => (false, course.run (Engine.reply waiter reply))
    | none => (false, course)

/-- The server does something. The result says whether a connection is open. -/
def receive (course : Course σ τ) (arrival : Arrival) : Bool × Course σ τ :=
  if course.isOpen then (true, settled (course.deliver arrival)) else (false, course)

/-- The server closes the connection. -/
def drop (course : Course σ τ) : Bool × Course σ τ :=
  course.receive .closed

/-- The next receive fails, and the connection is gone. -/
def failReceive (course : Course σ τ) (text : String) : Bool × Course σ τ :=
  course.receive (.failed text)

/-- Stops the engine and waits until it has stopped. If it waits for an attempt to connect, that
ends first. -/
def shutdown (course : Course σ τ) : Course σ τ :=
  if course.phase = .stopped then course
  else
    let course := { course with phase := .stopping }
    let course :=
      match course.engine.opening with
      | some opening => course.setNow (max opening.deadline course.now)
      | none => course
    settled course

end Course

end MessageSync
