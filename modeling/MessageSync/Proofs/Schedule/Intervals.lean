import MessageSync.Proofs.Link.Histories
import MessageSync.Schedule.Policy

/-!
# How the interval adapts

Without a push the interval is the base interval while a conversation is active, and grows with the
idle time up to its bound after that. It doubles with every further threshold, if the bound is not
too far away.

Computed for an idle time in nanoseconds, step by step and in numbers of limited width, the result is
always there, and it is the interval of the policy with all times in nanoseconds.
-/

namespace MessageSync

theorem doubling_narrowed (count : Nat) : doubling (narrowed count) = doubling count := by
  rw [narrowed]
  rcases Nat.le_total count 0xFFFFFFFF with fits | large
  · rw [Nat.min_eq_left fits]
  · have wide : 32 ≤ count := Nat.le_trans (by decide) large
    rw [Nat.min_eq_right large, doubling_of_le (by decide), doubling_of_le wide]

namespace SyncPolicy

variable {policy : SyncPolicy} {idle : Millis}

/-- The policy with its times in nanoseconds instead of milliseconds. -/
def inNanos (policy : SyncPolicy) : SyncPolicy :=
  { baseInterval := (Span.ofMillis policy.baseInterval).nanos
    pushInterval := (Span.ofMillis policy.pushInterval).nanos
    idleThreshold := (Span.ofMillis policy.idleThreshold).nanos
    maxInterval := (Span.ofMillis policy.maxInterval).nanos
    errorBackoffBase := (Span.ofMillis policy.errorBackoffBase).nanos
    errorBackoffMax := (Span.ofMillis policy.errorBackoffMax).nanos
    responseTimeout := (Span.ofMillis policy.responseTimeout).nanos }

/-! ## The interval in any unit of time -/

theorem interval_of_active (active : idle ≤ policy.idleThreshold) :
    policy.interval idle false = policy.baseInterval := by
  simp only [interval, Bool.false_eq_true, reduceIte, active]

/-- Beyond the threshold the interval is a delay that grows with the number of doublings. -/
theorem interval_of_inactive (inactive : ¬idle ≤ policy.idleThreshold) :
    policy.interval idle false =
      Backoff.delay ⟨policy.baseInterval, policy.maxInterval⟩ (policy.doublings idle) := by
  simp only [interval, Bool.false_eq_true, reduceIte, inactive, Backoff.delay]

theorem monotone_doublings (policy : SyncPolicy) : Monotone policy.doublings := by
  intro shorter longer le
  exact Nat.add_le_add_right (Nat.div_le_div_right (Nat.sub_le_sub_right le _)) 1

theorem baseInterval_le_interval (ordered : policy.baseInterval ≤ policy.maxInterval)
    (idle : Millis) : policy.baseInterval ≤ policy.interval idle false := by
  by_cases active : idle ≤ policy.idleThreshold
  · rw [interval_of_active active]
  · rw [interval_of_inactive active]
    exact Nat.le_min.mpr ⟨Nat.le_mul_of_pos_right _ (doubling_pos _), ordered⟩

/-- Only the interval of an active conversation may be beyond the bound. -/
theorem interval_le_or_active (policy : SyncPolicy) (idle : Millis) :
    policy.interval idle false ≤ policy.maxInterval ∨
      idle ≤ policy.idleThreshold ∧ policy.interval idle false = policy.baseInterval := by
  by_cases active : idle ≤ policy.idleThreshold
  · exact .inr ⟨active, interval_of_active active⟩
  · rw [interval_of_inactive active]
    exact .inl ((Backoff.doubles _).bounded _)

theorem interval_le_maxInterval (ordered : policy.baseInterval ≤ policy.maxInterval)
    (idle : Millis) : policy.interval idle false ≤ policy.maxInterval := by
  rcases policy.interval_le_or_active idle with le | ⟨active, base⟩
  · exact le
  · rwa [base]

theorem monotone_interval (ordered : policy.baseInterval ≤ policy.maxInterval) :
    Monotone (policy.interval · false) := by
  intro shorter longer le
  by_cases active : shorter ≤ policy.idleThreshold
  · have base := interval_of_active active
    exact base.trans_le (baseInterval_le_interval ordered longer)
  · have inactive : ¬longer ≤ policy.idleThreshold := fun active' => active (le.trans active')
    simp only [interval_of_inactive active, interval_of_inactive inactive]
    exact (Backoff.doubles _).grows (monotone_doublings policy le)

/-- Beyond the threshold the interval doubles with every further threshold, up to its bound. -/
theorem interval_doubles (threshold : 1 ≤ policy.idleThreshold)
    (near : policy.maxInterval ≤ policy.baseInterval * (2 ^ 32 - 1))
    (inactive : policy.idleThreshold < idle) :
    policy.interval idle false =
      min (policy.baseInterval * 2 ^ ((idle - policy.idleThreshold) / policy.idleThreshold + 1))
        policy.maxInterval := by
  rw [interval_of_inactive (Nat.not_le.mpr inactive), (Backoff.doubles _).doubles near, doublings,
    Nat.max_eq_left threshold]

/-! ## The interval in nanoseconds -/

/-- Counted in nanoseconds, an idle time of whole milliseconds leads to the same interval. -/
theorem interval_inNanos (threshold : 1 ≤ policy.idleThreshold) (idle : Millis) :
    policy.inNanos.interval (Span.ofMillis idle).nanos false =
      (Span.ofMillis (policy.interval idle false)).nanos := by
  have small : 1 ≤ policy.idleThreshold * 1000000 := Nat.mul_pos threshold (by decide)
  have count : policy.inNanos.doublings (Span.ofMillis idle).nanos = policy.doublings idle := by
    simp only [doublings, inNanos, Span.ofMillis]
    rw [Nat.max_eq_left threshold, Nat.max_eq_left small, ← Nat.sub_mul,
      Nat.mul_div_mul_right _ _ (by decide)]
  by_cases active : idle ≤ policy.idleThreshold
  · rw [interval_of_active active]
    exact interval_of_active (Nat.mul_le_mul_right _ active)
  · have inactive : ¬(Span.ofMillis idle).nanos ≤ policy.inNanos.idleThreshold := fun active' =>
      active (Nat.le_of_mul_le_mul_right active' (by decide))
    rw [interval_of_inactive active, interval_of_inactive inactive, count]
    simp only [inNanos, Span.ofMillis, Backoff.delay]
    rw [Nat.mul_right_comm, Nat.mul_min_mul_right]

/-- The whole thresholds in a time are the same, counted in milliseconds or in nanoseconds. -/
theorem doublings_inNanos (threshold : 1 ≤ policy.idleThreshold) (idle : Span) :
    policy.inNanos.doublings idle.nanos =
      Span.millis ⟨idle.nanos - (Span.ofMillis policy.idleThreshold).nanos⟩ /
        max (Span.ofMillis policy.idleThreshold).millis 1 + 1 := by
  have small : 1 ≤ policy.idleThreshold * 1000000 := Nat.mul_pos threshold (by decide)
  simp only [doublings, inNanos, Span.ofMillis, Span.millis]
  rw [Nat.mul_div_cancel _ (by decide), Nat.max_eq_left threshold, Nat.max_eq_left small,
    Nat.div_div_eq_div_mul, Nat.mul_comm 1000000]

theorem shorter_times (base : Span) (factor : Nat) {maximum : Span} (held : maximum.IsHeld) :
    (base.times factor).shorter maximum = ⟨min (base.nanos * factor) maximum.nanos⟩ := by
  have shorter : ∀ first second : Span, first.shorter second = ⟨min first.nanos second.nanos⟩ := by
    intro first second
    rw [Span.shorter, Nat.min_def]
    split <;> rfl
  rw [shorter, Span.times, Nat.min_assoc, Nat.min_eq_right held]

/-- Every step has a result. -/
theorem interval?_eq (threshold : 1 ≤ policy.idleThreshold)
    (held : (Span.ofMillis policy.maxInterval).IsHeld) {idle : Span} (idleHeld : idle.IsHeld) :
    policy.interval? idle = some ⟨policy.inNanos.interval idle.nanos false⟩ := by
  by_cases active : idle.nanos ≤ (Span.ofMillis policy.idleThreshold).nanos
  · rw [interval_of_active active, interval?, if_pos active]
    rfl
  have subtracts : idle.minus? (Span.ofMillis policy.idleThreshold) =
      some ⟨idle.nanos - (Span.ofMillis policy.idleThreshold).nanos⟩ :=
    if_pos (Nat.le_of_not_le active)
  have divides (dividend other : Nat) :
      quotient? dividend (max other 1) = some (dividend / max other 1) :=
    if_neg (by omega)
  have fits : wide? (policy.inNanos.doublings idle.nanos) =
      some (policy.inNanos.doublings idle.nanos) := by
    refine if_pos (Nat.lt_of_le_of_lt (Nat.add_le_add_right (Nat.div_le_self _ _) 1) ?_)
    have small : idle.nanos < 2 ^ 64 * 1000000000 := by
      simp only [Span.IsHeld, Span.longest] at idleHeld
      omega
    omega
  have computed : policy.interval? idle = some (((Span.ofMillis policy.baseInterval).times
      (doubling (narrowed (policy.inNanos.doublings idle.nanos)))).shorter
        (Span.ofMillis policy.maxInterval)) := by
    rw [interval?, if_neg active, subtracts, Option.bind_eq_bind, Option.bind_some, divides,
      Option.bind_eq_bind, Option.bind_some, ← doublings_inNanos threshold, fits, Option.bind_some]
    rfl
  rw [computed, doubling_narrowed, shorter_times _ _ held, interval_of_inactive active]
  rfl

/-- The law of the interval, for all idle times that can be held. -/
structure Adapts (policy : SyncPolicy) : Prop where
  /-- The interval is computed without a step that has no result, and lies within the bounds. -/
  computed (idle : Span) (held : idle.IsHeld) : ∃ interval, policy.interval? idle = some interval ∧
    (Span.ofMillis policy.baseInterval).nanos ≤ interval.nanos ∧
    interval.nanos ≤ (Span.ofMillis policy.maxInterval).nanos
  grows (idle longer earlier later : Span) (held : longer.IsHeld) (le : idle.nanos ≤ longer.nanos)
    (first : policy.interval? idle = some earlier) (second : policy.interval? longer = some later) :
    earlier.nanos ≤ later.nanos
  active (idle : Span) (active : idle.nanos ≤ (Span.ofMillis policy.idleThreshold).nanos) :
    policy.interval? idle = some (Span.ofMillis policy.baseInterval)
  doubles (near : policy.maxInterval ≤ policy.baseInterval * (2 ^ 32 - 1)) (idle : Span)
    (held : idle.IsHeld) (inactive : (Span.ofMillis policy.idleThreshold).nanos < idle.nanos) :
    let threshold := (Span.ofMillis policy.idleThreshold).nanos
    policy.interval? idle = some ⟨min ((Span.ofMillis policy.baseInterval).nanos *
      2 ^ ((idle.nanos - threshold) / threshold + 1)) (Span.ofMillis policy.maxInterval).nanos⟩
  /-- For whole milliseconds it is the interval by which the coordinator goes. -/
  whole (idle : Millis) (held : (Span.ofMillis idle).IsHeld) :
    policy.interval? (Span.ofMillis idle) = some (Span.ofMillis (policy.interval idle false))

/-- Without a push the interval of a conversation that has been idle for any time is computed, is
that of an active conversation up to the threshold, and doubles with every further threshold up to
its bound. -/
theorem adapts (policy : SyncPolicy) (threshold : 1 ≤ policy.idleThreshold)
    (ordered : policy.baseInterval ≤ policy.maxInterval)
    (held : (Span.ofMillis policy.maxInterval).IsHeld) : policy.Adapts := by
  have orderedNanos : policy.inNanos.baseInterval ≤ policy.inNanos.maxInterval :=
    Nat.mul_le_mul_right _ ordered
  have thresholdNanos : 1 ≤ policy.inNanos.idleThreshold := Nat.mul_pos threshold (by decide)
  refine ⟨?_, ?_, ?_, ?_, ?_⟩
  · intro idle idleHeld
    exact ⟨_, interval?_eq threshold held idleHeld, baseInterval_le_interval orderedNanos _,
      interval_le_maxInterval orderedNanos _⟩
  · intro idle longer earlier later longerHeld le first second
    rw [interval?_eq threshold held (le.trans longerHeld), Option.some.injEq] at first
    rw [interval?_eq threshold held longerHeld, Option.some.injEq] at second
    rw [← first, ← second]
    exact monotone_interval orderedNanos le
  · intro idle active
    exact if_pos active
  · intro near idle idleHeld inactive
    have nearNanos : policy.inNanos.maxInterval ≤ policy.inNanos.baseInterval * (2 ^ 32 - 1) := by
      simp only [inNanos, Span.ofMillis]
      rw [Nat.mul_right_comm]
      exact Nat.mul_le_mul_right _ near
    rw [interval?_eq threshold held idleHeld,
      interval_doubles thresholdNanos nearNanos inactive]
    rfl
  · intro idle idleHeld
    rw [interval?_eq threshold held idleHeld, interval_inNanos threshold]

/-- The standard interval after 90.0005 seconds without activity: two thresholds beyond the first
would make it 40 seconds. -/
theorem adapts_standard :
    1 ≤ standard.idleThreshold ∧ standard.baseInterval ≤ standard.maxInterval ∧
      (Span.ofMillis standard.maxInterval).IsHeld ∧
      standard.interval? ⟨90000500000⟩ = some (Span.ofMillis 40000) := by
  have held : (Span.ofMillis standard.maxInterval).IsHeld := by decide
  have law := adapts standard (by decide) (by decide) held
  exact ⟨by decide, by decide, held, law.doubles (by decide) ⟨90000500000⟩ (by decide) (by decide)⟩

end SyncPolicy

end MessageSync
