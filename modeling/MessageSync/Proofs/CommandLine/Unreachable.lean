import MessageSync.CommandLine.Run
import MessageSync.Proofs.CommandLine.Consoles
import MessageSync.Proofs.Engine.Deadlines

/-!
# A message to a server that cannot be reached

A message that is sent from the command line is stored before anything else is done about it. If
there is no server the command gives up after a while, and the message is still there, pending, for
the next time.
-/

namespace MessageSync

/-! ## The settings of an invocation -/

theorem Settings.validate_standard : standard.validate = .ok () := by
  decide +kernel

theorem Settings.validate_of_loadOrStandard {settings : Settings} {content : Option String}
    (accepted : loadOrStandard content = .ok settings) : settings.validate = .ok () := by
  cases content with
  | none =>
      cases accepted
      exact validate_standard
  | some document =>
      have loaded : load (some document) = .ok settings := accepted
      exact validate_of_load loaded

/-- The settings of an invocation are valid, wherever they come from. -/
theorem CommandLine.validate_of_settingsFor {invocation : Invocation} {file : Option String}
    {settings : Settings} (loads : settingsFor invocation file = .ok settings) :
    settings.validate = .ok () := by
  simp only [settingsFor] at loads
  cases address : invocation.url with
  | some url =>
      simp only [address] at loads
      split at loads
      all_goals
        rcases except_bind_eq_ok.mp loads with ⟨given, -, checked⟩
        rcases except_bind_eq_ok.mp checked with ⟨done, valid, same⟩
        cases same
        exact valid
  | none =>
      simp only [address, bind_pure] at loads
      split at loads
      · exact Settings.validate_of_load loads
      · exact Settings.validate_of_loadOrStandard loads

/-! ## Sending without a server -/

/-- The row is that of a message that the user wrote here and that no server knows of. -/
structure Row.HoldsUnsent (row : Row) (conversationId contents : String) : Prop where
  conversation : row.conversationId = conversationId
  contents : row.contents = contents
  author : row.role = "user"
  waits : row.syncStatus = "pending"
  localName : row.localId = some row.id
  serverName : row.serverId = none
  unsequenced : row.sequenceNumber = -1

theorem Row.holdsUnsent_newLocal (conversationId contents : String) (createdAt : Moment)
    (counter : Nat) :
    (ofMessage (.newLocal conversationId .user contents createdAt counter)).HoldsUnsent
      conversationId contents :=
  ⟨rfl, rfl, rfl, rfl, rfl, rfl, rfl⟩

/-- What a command leaves in the store. -/
def CommandReport.Leaves (report : CommandReport Store) (path : String) (rows : List Row) : Prop :=
  ∃ store, report.store = some (path, store) ∧ store.rows = rows

namespace CommandLine

open ConsoleM

variable {τ : Type} {invocation : Invocation} {settings : Settings} {path : String}
  {host : Host Store τ}

/-- The engine of a command before its first input, with a store that has no records. -/
def firstEngine (settings : Settings) (host : Host Store τ) :
    Except StartError (Engine Store τ) :=
  Engine.start settings host.transport .empty ⟨0, host.calendar⟩

/-- A command before its first request. -/
def firstConsole (host : Host Store τ) (first : Engine Store τ) : Console Store τ :=
  .start (.start first host.arrivals)

variable [Transport τ] {refusing : τ → Prop}

theorem idle_first (unreachable : refusing host.transport) {first : Engine Store τ}
    (started : firstEngine settings host = .ok first) :
    (firstConsole host first).course.Idle refusing ∧ (firstConsole host first).course.now = 0 ∧
      first.log = .empty := by
  refine ⟨Course.idle_start unreachable started host.arrivals, ?_⟩
  rcases Engine.eq_of_start started with ⟨window, rfl⟩
  exact ⟨rfl, rfl⟩

variable [KeepsSent τ]

/-- The report is of a task that was carried out until nothing was left to do at its last instant,
and the engine stopped at that instant. -/
def Completes (refusing : τ → Prop) (settings : Settings) (host : Host Store τ) (task : Task)
    (report : CommandReport Store) : Prop :=
  ∃ first ended, firstEngine settings host = .ok first ∧
    (carryOut host.interruptAfter task).runOn (firstConsole host first) = (report.result, ended) ∧
    ended.course.Idle refusing ∧ ended.course.shutdown.phase = .stopped ∧
    ended.course.now = report.elapsed

/-- A task that leaves nothing to do is reported as it ended. -/
theorem perform_of_carryOut (loads : settingsFor invocation host.file = .ok settings)
    (located : settings.store.path.or host.usualPath = some path)
    (fresh : host.opens path = .ok .empty) {first : Engine Store τ}
    (started : firstEngine settings host = .ok first) {result : Except ClientError Unit}
    {ended : Console Store τ}
    (carries : (carryOut host.interruptAfter invocation.task).runOn (firstConsole host first) =
      (result, ended))
    (idle : ended.course.Idle refusing) :
    ∃ report, perform invocation host = .ok report ∧
      Completes refusing settings host invocation.task report ∧ report.result = result ∧
      report.elapsed = ended.course.now ∧ report.Leaves path ended.course.engine.log.rows := by
  rcases idle.shutdown with ⟨stopped, now, log⟩
  refine ⟨⟨result, ended.course.now, ended.printed, some (path, ended.course.engine.log),
    ended.course.shutdown.engine.localIds⟩, ?_,
    ⟨first, ended, started, carries, idle, stopped, rfl⟩, rfl, rfl, _, rfl, rfl⟩
  rw [firstEngine] at started
  rw [firstConsole] at carries
  simp only [perform, loads, located, fresh, started, carries, now, log]
  rfl

variable [Refusing refusing]

/-- A message to a conversation is stored, and the wait for the connection is in vain. -/
theorem send_first (unreachable : refusing host.transport) {first : Engine Store τ}
    (started : firstEngine settings host = .ok first) {conversationId : String}
    (named : conversationId ≠ "") (contents : String) (timeout : Nat) :
    ∃ ended row, (send conversationId contents timeout).runOn (firstConsole host first) =
        (.error (.timeout "connection"), ended) ∧ ended.course.Idle refusing ∧
      ended.course.now = connectWait ∧ ended.course.engine.log.rows = [row] ∧
      row.HoldsUnsent conversationId contents := by
  rcases idle_first unreachable started with ⟨idle, start, empty⟩
  let message := first.minted conversationId contents
  have inserted : MessageLog.insert first.log message =
      .ok ⟨[.ofMessage message], Store.empty.version⟩ := by
    rw [empty]
    rfl
  rcases Engine.sendMessage_of_inserted named inserted with ⟨written, saves⟩
  rcases Console.sendMessage_idle idle rfl conversationId contents with
    ⟨stored, sends, storedIdle, storedNow, storedLog⟩
  rcases Console.waitConnected_idle storedIdle connectWait with
    ⟨ended, waits, endedIdle, endedNow, endedLog⟩
  refine ⟨ended, .ofMessage message, ?_, endedIdle, ?_, ?_, Row.holdsUnsent_newLocal _ _ _ _⟩
  · have same : (firstConsole host first).course.engine = first := rfl
    rw [same, written] at sends
    rw [send, runOn_bind_of_ok sends]
    exact runOn_bind_of_error waits _
  · rw [endedNow, storedNow, start, Nat.zero_add]
  · rw [endedLog, storedLog]
    exact congrArg Store.rows saves.log

/-- A message to no conversation is refused, and nothing is stored. -/
theorem send_first_unnamed (unreachable : refusing host.transport) {first : Engine Store τ}
    (started : firstEngine settings host = .ok first) (contents : String) (timeout : Nat) :
    ∃ ended, (send "" contents timeout).runOn (firstConsole host first) =
        (.error (.engine (.invalidInput "conversation id is empty")), ended) ∧
      ended.course.Idle refusing ∧ ended.course.now = 0 ∧ ended.course.engine.log.rows = [] := by
  rcases idle_first unreachable started with ⟨idle, start, empty⟩
  have refused : (Engine.sendMessage "" contents).run first =
      (.error (.invalidInput "conversation id is empty"), first) := by
    simp only [Engine.sendMessage, reduceIte]
    rfl
  rcases Console.sendMessage_idle idle rfl "" contents with
    ⟨ended, sends, endedIdle, endedNow, endedLog⟩
  have same : (firstConsole host first).course.engine = first := rfl
  rw [same, refused] at sends endedLog
  refine ⟨ended, ?_, endedIdle, by rw [endedNow, start], ?_⟩
  · rw [send]
    exact runOn_bind_of_error sends _
  · rw [endedLog, empty]
    rfl

/-- A message that is sent to a conversation while the server cannot be reached is stored and stays
pending, and the wait for the connection is over after its time. Without a conversation nothing is
stored, and nothing is waited for. -/
theorem send_unreachable {conversationId contents : String} {timeout : Nat}
    (sends : invocation.task = .send conversationId contents timeout)
    (loads : settingsFor invocation host.file = .ok settings)
    (holdable : settings.sync.window?.isSome = true)
    (located : settings.store.path.or host.usualPath = some path)
    (fresh : host.opens path = .ok .empty) (unreachable : refusing host.transport) :
    ∃ report, perform invocation host = .ok report ∧
      Completes refusing settings host invocation.task report ∧
      (conversationId ≠ "" →
        report.result = .error (.timeout "connection") ∧ report.elapsed = 30000 ∧
          ∃ row, report.Leaves path [row] ∧ row.HoldsUnsent conversationId contents) ∧
      (conversationId = "" →
        report.result = .error (.engine (.invalidInput "conversation id is empty")) ∧
          report.elapsed = 0 ∧ report.Leaves path []) := by
  obtain ⟨first, started⟩ : ∃ first, firstEngine settings host = .ok first := by
    rcases Option.isSome_iff_exists.mp holdable with ⟨window, held⟩
    simp only [firstEngine, Engine.start, validate_of_settingsFor loads, held]
    exact ⟨_, rfl⟩
  have carries : (carryOut host.interruptAfter invocation.task : ConsoleM Store τ Unit) =
      send conversationId contents timeout := by
    rw [sends]
    rfl
  by_cases unnamed : conversationId = ""
  · subst unnamed
    rcases send_first_unnamed unreachable started contents timeout with
      ⟨ended, refuses, idle, now, rows⟩
    rw [← carries] at refuses
    rcases perform_of_carryOut loads located fresh started refuses idle with
      ⟨report, performs, completes, result, elapsed, leaves⟩
    rw [rows] at leaves
    exact ⟨report, performs, completes, fun named => absurd rfl named, fun _ =>
      ⟨result, elapsed.trans now, leaves⟩⟩
  · rcases send_first unreachable started unnamed contents timeout with
      ⟨ended, row, waits, idle, now, rows, holds⟩
    rw [← carries] at waits
    rcases perform_of_carryOut loads located fresh started waits idle with
      ⟨report, performs, completes, result, elapsed, leaves⟩
    rw [rows] at leaves
    exact ⟨report, performs, completes, fun _ =>
      ⟨result, elapsed.trans now, row, leaves, holds⟩, fun empty => absurd empty unnamed⟩

/-- A command to send a greeting. -/
def greeting : Invocation :=
  ⟨none, none, false, none, .send "general" "hello" 30⟩

/-- The transport refuses every attempt to connect and has no connection. -/
def Isolated (transport : ScriptedTransport) : Prop :=
  transport.unreachable = true ∧ transport.connected = false

instance : Refusing Isolated where
  apart isolated := isolated.2
  connect {transport} _ isolated := by
    refine ⟨.connectionFailed "connection refused",
      { transport with attempts := transport.attempts + 1 }, ?_, isolated⟩
    change transport.connect = _
    simp only [ScriptedTransport.connect, isolated.1, if_true]
    rfl
  disconnect isolated := ⟨isolated.1, rfl⟩

/-- The greeting is stored and stays pending. -/
theorem send_unreachable_greeting : ∃ report row,
    run greeting none (some "log.db") default = .ok report ∧
      report.result = .error (.timeout "connection") ∧ report.elapsed = 30000 ∧
      report.Leaves "log.db" [row] ∧ row.contents = "hello" := by
  let host : Host Store ScriptedTransport :=
    ⟨none, some "log.db", fun _ => .ok .empty, { unreachable := true }, [], 0, default⟩
  have loads : settingsFor greeting host.file = .ok .standard := rfl
  have located : Settings.standard.store.path.or host.usualPath = some "log.db" := rfl
  have fresh : host.opens "log.db" = .ok .empty := rfl
  have isolated : Isolated host.transport := ⟨rfl, rfl⟩
  rcases send_unreachable rfl loads rfl located fresh isolated with ⟨report, performs, -, waits, -⟩
  rcases waits (by decide) with ⟨result, elapsed, row, leaves, holds⟩
  exact ⟨report, row, performs, result, elapsed, leaves, holds.contents⟩

end CommandLine

end MessageSync
