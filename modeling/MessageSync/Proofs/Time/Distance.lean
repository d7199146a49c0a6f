import MessageSync.Proofs.Time.StoredOrder
import MessageSync.Store.Reconcile

/-!
# How far moments are apart

The time between two moments is counted in nanoseconds, and a leap second in which the earlier one
lies is counted in full. The distance that a window is compared with is the same, unless a leap
second is concerned and the later moment is on another day at an hour that is not later: then up to
two seconds are not counted.
-/

namespace MessageSync

namespace Moment

variable {earlier later first second : Moment}

/-- One in a leap second, zero at any other time. -/
def leapSeconds (moment : Moment) : Int :=
  if 1000000000 ≤ moment.nanos then 1 else 0

/-- The nanoseconds from one moment to a later one. -/
def elapsed (earlier later : Moment) : Int :=
  (later.seconds - earlier.seconds +
      if earlier.seconds < later.seconds then earlier.leapSeconds else 0) * 1000000000 +
    (later.nanos - earlier.nanos)

/-- The leap seconds that are not counted from one moment to a later one. -/
def uncounted (earlier later : Moment) : Int :=
  if later.secondOfDay < earlier.secondOfDay then earlier.leapSeconds + later.leapSeconds
  else if later.secondOfDay = earlier.secondOfDay ∧ earlier.day < later.day then
    earlier.leapSeconds
  else 0

theorem seconds_eq (moment : Moment) :
    moment.seconds = moment.day * 86400 + moment.secondOfDay ∧ moment.secondOfDay < 86400 := by
  simp only [day, secondOfDay]
  omega

theorem since_eq : later.since earlier =
    ((later.day - earlier.day) * 86400 + (later.secondOfDay - earlier.secondOfDay) +
        if earlier.secondOfDay < later.secondOfDay then earlier.leapSeconds
        else if later.secondOfDay < earlier.secondOfDay then -later.leapSeconds
        else 0) * 1000000000 + (later.nanos - earlier.nanos) := by
  have taken : (if 1000000000 ≤ later.nanos then (-1 : Int) else 0) = -later.leapSeconds := by
    simp only [leapSeconds]
    split <;> rfl
  simp only [since, taken]
  rfl

theorem elapsed_eq_since (order : ¬later.Before earlier) :
    earlier.elapsed later =
      later.since earlier + earlier.uncounted later * 1000000000 := by
  rcases earlier.seconds_eq with ⟨earlierSeconds, earlierRange⟩
  rcases later.seconds_eq with ⟨laterSeconds, laterRange⟩
  rw [since_eq]
  simp only [Before] at order
  simp only [elapsed, uncounted]
  generalize earlier.leapSeconds = earlierLeap
  generalize later.leapSeconds = laterLeap
  rcases Nat.lt_trichotomy earlier.secondOfDay later.secondOfDay with less | same | more
  · rw [if_pos (by omega), if_pos less, if_neg (by omega), if_neg (by omega)]
    omega
  · rw [if_neg (by omega : ¬earlier.secondOfDay < later.secondOfDay),
      if_neg (by omega : ¬later.secondOfDay < earlier.secondOfDay),
      if_neg (by omega : ¬later.secondOfDay < earlier.secondOfDay)]
    by_cases nextDay : earlier.day < later.day
    · rw [if_pos (by omega), if_pos ⟨same.symm, nextDay⟩]
      omega
    · rw [if_neg (by omega), if_neg (fun both => nextDay both.2)]
      omega
  · rw [if_pos (by omega), if_neg (by omega), if_pos more, if_pos more]
    omega

/-! ## In either order -/

/-- The nanoseconds between two moments, whichever is earlier. -/
def apart (first second : Moment) : Int :=
  if second.Before first then second.elapsed first else first.elapsed second

/-- The leap seconds that are not counted between two moments, whichever is earlier. -/
def disregarded (first second : Moment) : Int :=
  if second.Before first then second.uncounted first else first.uncounted second

theorem not_before_of_before (before : first.Before second) : ¬second.Before first := by
  simp only [Before] at *
  omega

theorem apart_eq : first.apart second =
    first.distance second + first.disregarded second * 1000000000 := by
  simp only [apart, distance, disregarded]
  split
  · next before => exact elapsed_eq_since (not_before_of_before before)
  · next order => exact elapsed_eq_since order

theorem uncounted_eq_zero (order : ¬later.Before earlier)
    (plain : earlier.day = later.day ∨ earlier.leapSeconds = 0 ∧ later.leapSeconds = 0) :
    earlier.uncounted later = 0 := by
  have earlierSeconds := earlier.seconds_eq
  have laterSeconds := later.seconds_eq
  simp only [Before] at order
  simp only [uncounted]
  split
  · omega
  · split
    · omega
    · rfl

/-- All leap seconds are counted between moments of one day, or if neither is in a leap second. -/
theorem disregarded_eq_zero
    (plain : first.day = second.day ∨ first.leapSeconds = 0 ∧ second.leapSeconds = 0) :
    first.disregarded second = 0 := by
  simp only [disregarded]
  split
  · next before =>
      exact uncounted_eq_zero (not_before_of_before before) (plain.imp Eq.symm And.symm)
  · next order => exact uncounted_eq_zero order plain

end Moment

namespace MatchWindow

variable {window : MatchWindow} {first second : Moment}

/-- The moments are no further apart than the window, but for the leap seconds that are not
counted. -/
def Spans (window : MatchWindow) (first second : Moment) : Prop :=
  first.apart second ≤ window.nanos + first.disregarded second * 1000000000

theorem admits_iff_spans : window.admits first second = true ↔ window.Spans first second := by
  rw [admits, decide_eq_true_eq, Spans, Moment.apart_eq]
  omega

/-- Where all leap seconds are counted, the window is a bound on the time between the moments. -/
theorem spans_iff_apart_le
    (plain : first.day = second.day ∨ first.leapSeconds = 0 ∧ second.leapSeconds = 0) :
    window.Spans first second ↔ first.apart second ≤ window.nanos := by
  rw [Spans, Moment.disregarded_eq_zero plain, Int.zero_mul, Int.add_zero]

end MatchWindow

end MessageSync
