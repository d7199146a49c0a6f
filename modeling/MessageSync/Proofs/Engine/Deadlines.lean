import MessageSync.Proofs.Engine.Givens
import MessageSync.Proofs.Engine.Timers
import MessageSync.Proofs.Schedule.Deadlines
import MessageSync.Proofs.Time.Distance
import MessageSync.Settings.Document

/-!
# Settings that an engine can work with

An engine starts with settings that are accepted, if the echo window can be held. That is not looked
at when they are read. Everything else that the engine reckons with fits the numbers that it is held
in, whatever the settings are and whatever happens: what is set does not change, and the delays that
are stored stay within 64 bits.
-/

namespace MessageSync

namespace Engine

variable {σ τ : Type} {engine before after first : Engine σ τ} {input : Input}

/-! ## What fits -/

/-- All that the engine reckons with fits the numbers that it is held in. -/
structure Bounded (engine : Engine σ τ) : Prop where
  retries : engine.machine.backoff.max < 2 ^ 64
  opens : (Span.ofMillis engine.connectTimeout).IsHeld
  subscribes : engine.registry.timeout < 2 ^ 64
  schedules : engine.coordinator.Fits

/-- The part of it that is about the machine and the schedules is kept by every change. -/
theorem bounded_change {asked : List Caller} (change : Change input asked before after)
    (fits : before.machine.backoff.max < 2 ^ 64 ∧ before.coordinator.Fits) :
    after.machine.backoff.max < 2 ^ 64 ∧ after.coordinator.Fits := by
  rcases fits with ⟨retries, schedules⟩
  cases change with
  | apart apart => exact ⟨by rwa [apart.machine], by rwa [apart.coordinator]⟩
  | moved engine told =>
      have moves := ConnectionMachine.moves_handle before.machine told
      exact ⟨by rwa [moved, moves.backoff_eq], schedules⟩
  | put | begun | finished => exact ⟨retries, schedules⟩
  | rescheduled reschedules => exact ⟨retries, schedules.operated reschedules.operated⟩
  | concluded concludes =>
      refine ⟨by rwa [machine_published], ?_⟩
      rw [coordinator_published]
      exact schedules.operated concludes.operated

theorem Bounded.step [MessageLog σ] [Transport τ] (bounded : engine.Bounded) (input : Input) :
    Bounded ((step input).run engine).2 := by
  rcases (changes_step input engine).keeps (fun _ _ _ => bounded_change)
    ⟨bounded.retries, bounded.schedules⟩ with ⟨retries, schedules⟩
  have same := sameGivens_step input engine
  have connects := congrArg Givens.connectTimeout same
  have subscribes := congrArg Givens.subscribeTimeout same
  simp only [givens] at connects subscribes
  exact ⟨retries, by rw [connects]; exact bounded.opens,
    by rw [subscribes]; exact bounded.subscribes, schedules⟩

theorem Bounded.drift (bounded : before.Bounded) (drifts : Drifts before after) :
    after.Bounded := by
  rw [drifts]
  exact ⟨bounded.retries, bounded.opens, bounded.subscribes, bounded.schedules⟩

theorem bounded_of_start {settings : Settings} {transport : τ} {log : σ} {clock : Clock}
    (started : start settings transport log clock = .ok first) : first.Bounded := by
  have threshold := Settings.pos_of_validate (validate_of_start started)
    settings.sync.idleThresholdMs (by simp [Settings.positives])
  rcases eq_of_start started with ⟨window, rfl⟩
  refine ⟨UInt64.toNat_lt _, ?_, UInt64.toNat_lt _, SyncCoordinator.fits_empty ?_ threshold⟩
  · have seconds := UInt64.toNat_lt settings.connection.connectTimeoutSecs
    simp only [Span.IsHeld, Span.longest, Span.ofMillis, ConnectionSettings.connectTimeout]
    omega
  · exact ⟨UInt64.toNat_lt _, UInt64.toNat_lt _, UInt64.toNat_lt _, UInt64.toNat_lt _,
      UInt64.toNat_lt _, UInt64.toNat_lt _⟩

/-- All that the engine reckons with has deadlines, and is computed in numbers of limited width. -/
structure Reckons (engine : Engine σ τ) : Prop where
  retries (input : ConnectionInput) (delay : Millis) :
    .scheduleRetry delay ∈ (engine.machine.handle input).2 →
      ((Span.ofMillis engine.machine.backoff.initial).times
          (doubling engine.machine.attempt)).shorter (Span.ofMillis engine.machine.backoff.max) =
        Span.ofMillis delay ∧
      (Span.ofMillis delay).HasDeadlines
  /-- An attempt to connect may last for any span. Only the span itself has to be held. -/
  opens : (Span.ofMillis engine.connectTimeout).IsHeld
  subscribes : (Span.ofMillis engine.registry.timeout).HasDeadlines
  schedules : engine.coordinator.Reckons

theorem Bounded.reckons (bounded : engine.Bounded) : engine.Reckons where
  retries input delay scheduled := by
    have moves := ConnectionMachine.moves_handle engine.machine input
    obtain rfl := moves.delay_eq scheduled
    have le := (Backoff.doubles engine.machine.backoff).bounded engine.machine.attempt
    exact ⟨Span.shorter_times_ofMillis _ _ _ bounded.retries,
      Span.hasDeadlines_of_fits (le.trans_lt bounded.retries)⟩
  opens := bounded.opens
  subscribes := Span.hasDeadlines_of_fits bounded.subscribes
  schedules := bounded.schedules.reckons

theorem reckons_of_runs [MessageLog σ] [Transport τ] {settings : Settings} {transport : τ} {log : σ}
    {clock : Clock} {comes : Engine σ τ → Input → Engine σ τ → Prop}
    (started : start settings transport log clock = .ok first)
    (drifts : ∀ before input found, comes before input found → Drifts before found)
    (runs : Runs comes first engine) : engine.Reckons :=
  have bounded : engine.Bounded := runs.keeps (bounded_of_start started)
    fun _ input _ bounded arrival => (bounded.drift (drifts _ _ _ arrival)).step input
  bounded.reckons

end Engine

/-! ## The echo window -/

theorem Moment.leapSeconds_range (moment : Moment) :
    0 ≤ moment.leapSeconds ∧ moment.leapSeconds ≤ 1 := by
  simp only [leapSeconds]
  split <;> decide

/-- The distance of two moments, in milliseconds, fits 64 bits with a sign. -/
theorem Moment.distance_range (first second : Moment) :
    (first.distance second).natAbs ≤ 9223372036854775807 * 1000000 := by
  have range (earlier later : Moment) :
      (later.since earlier).natAbs ≤ 9223372036854775807 * 1000000 := by
    rcases earlier.seconds_eq with ⟨earlierSeconds, -⟩
    rcases later.seconds_eq with ⟨laterSeconds, -⟩
    have earlierLeap := earlier.leapSeconds_range
    have laterLeap := later.leapSeconds_range
    have bounds := And.intro earlier.earliest (And.intro earlier.latest earlier.nanos_lt)
    have laterBounds := And.intro later.earliest (And.intro later.latest later.nanos_lt)
    rw [since_eq]
    generalize earlier.leapSeconds = earlierLeapSeconds at *
    generalize later.leapSeconds = laterLeapSeconds at *
    split
    · omega
    · split <;> omega
  rw [distance]
  split
  · exact range second first
  · exact range first second

namespace Settings

variable {settings : Settings} {content : Option String}

/-- The longest echo window that can be held, in seconds. -/
def longestWindow : Int := 9223372036854775

theorem validate_of_load (accepted : load content = .ok settings) : settings.validate = .ok () := by
  cases content with
  | none => cases accepted
  | some document =>
      simp only [load, ofDocument] at accepted
      cases read : Toml.read document with
      | none => simp [read, throw, throwThe, MonadExceptOf.throw] at accepted
      | some entries =>
          simp only [read] at accepted
          rcases except_bind_eq_ok.mp accepted with ⟨given, -, checked⟩
          rcases except_bind_eq_ok.mp checked with ⟨done, valid, same⟩
          cases same
          exact valid

theorem window_nonneg (valid : settings.validate = .ok ()) :
    0 ≤ settings.sync.fingerprintWindowSecs.toInt := by
  have negative : ¬settings.sync.fingerprintWindowSecs < 0 := by
    intro negative
    simp only [validate, negative, if_true] at valid
    split at valid
    · cases valid
    · split at valid
      · cases valid
      · split at valid <;> cases valid
  simpa [Int64.lt_iff_toInt_lt] using negative

/-- An engine starts with valid settings exactly if the echo window can be held. -/
theorem start_of_valid {σ τ : Type} (valid : settings.validate = .ok ()) (transport : τ) (log : σ)
    (clock : Clock) :
    (∃ first, Engine.start settings transport log clock = .ok first) ∧
        settings.sync.fingerprintWindowSecs.toInt ≤ longestWindow ∨
      Engine.start settings transport log clock = .error .unholdableWindow ∧
        longestWindow < settings.sync.fingerprintWindowSecs.toInt := by
  have nonneg := window_nonneg valid
  by_cases holdable : settings.sync.fingerprintWindowSecs.toInt.natAbs ≤ 9223372036854775
  · have held : settings.sync.window? = some ⟨_, _⟩ := dif_pos holdable
    refine .inl ⟨?_, by simp only [longestWindow]; omega⟩
    simp only [Engine.start, valid, held]
    exact ⟨_, rfl⟩
  · have unheld : settings.sync.window? = none := dif_neg holdable
    refine .inr ⟨?_, by simp only [longestWindow]; omega⟩
    simp only [Engine.start, valid, unheld]
    rfl

/-- What comes of settings once they are accepted. -/
structure Workable (settings : Settings) : Prop where
  /-- An engine starts with them exactly if the echo window can be held. -/
  starts (σ τ : Type) (transport : τ) (log : σ) (clock : Clock) :
    (∃ first, Engine.start settings transport log clock = .ok first) ∧
        settings.sync.fingerprintWindowSecs.toInt ≤ longestWindow ∨
      Engine.start settings transport log clock = .error .unholdableWindow ∧
        longestWindow < settings.sync.fingerprintWindowSecs.toInt
  /-- Nothing else that the engine reckons with in a run is too large. -/
  reckons (σ τ : Type) [MessageLog σ] [Transport τ] (transport : τ) (log : σ) (clock : Clock)
    (comes : Engine σ τ → Input → Engine σ τ → Prop) (first engine : Engine σ τ) :
    Engine.start settings transport log clock = .ok first →
      (∀ before input found, comes before input found → Engine.Drifts before found) →
      Engine.Runs comes first engine → engine.Reckons
  /-- What is compared with the window can be held whenever the window can. -/
  compares (first second : Moment) :
    (first.distance second).natAbs ≤ 9223372036854775807 * 1000000

/-- Settings that are accepted can be worked with, but for an echo window that cannot be held. -/
theorem workable_of_load (accepted : load content = .ok settings) : settings.Workable where
  starts _ _ := start_of_valid (validate_of_load accepted)
  reckons _ _ _ _ _ _ _ _ _ _ started drifts runs :=
    Engine.reckons_of_runs started drifts runs
  compares := Moment.distance_range

/-- The standard settings with another echo window. -/
def withWindow (seconds : Int64) : Settings :=
  { standard with sync := { SyncSettings.standard with fingerprintWindowSecs := seconds } }

/-- An engine starts with the longest echo window. -/
theorem workable_of_load_longestWindow :
    load (some "[sync]\nfingerprint_window_secs = 9223372036854775\n") =
        .ok (withWindow 9223372036854775) ∧
      ∃ first, Engine.start (withWindow 9223372036854775) () () default = .ok first := by
  have accepted : load (some "[sync]\nfingerprint_window_secs = 9223372036854775\n") =
      .ok (withWindow 9223372036854775) := except_eq_ok_of_toOption (by decide +kernel)
  refine ⟨accepted, ?_⟩
  rcases (workable_of_load accepted).starts Unit Unit () () default with ⟨starts, -⟩ | ⟨-, long⟩
  · exact starts
  · exact absurd long (by decide)

/-- A second more is accepted as well, and no engine starts with it. -/
theorem accepted_and_unholdable :
    load (some "[sync]\nfingerprint_window_secs = 9223372036854776\n") =
        .ok (withWindow 9223372036854776) ∧
      Engine.start (withWindow 9223372036854776) () () default =
        .error .unholdableWindow := by
  refine ⟨except_eq_ok_of_toOption (by decide +kernel), ?_⟩
  rfl

end Settings

end MessageSync
