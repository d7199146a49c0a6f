import Mathlib.Algebra.Order.Group.Int
import MessageSync.Link.Stanzas

/-!
# How stanza numbers go on

The numbers of the client go up by one until the last one there is, and stay there. The number that
the next greeting carries is the highest magnitude among the server's numbers.
-/

namespace MessageSync

/-- The highest magnitude among the numbers that are the server's, as far as it fits into the type of
the numbers. It is zero if there is none. -/
def highestMagnitude (stanzas : List Int64) : Int :=
  ((stanzas.filter (· < 0)).map fun stanza => min (-stanza.toInt) (2 ^ 63 - 1)).foldr max 0

namespace StanzaTracker

variable {tracker : StanzaTracker}

theorem toInt_take :
    tracker.take.2.nextClient.toInt = min (tracker.nextClient.toInt + 1) (2 ^ 63 - 1) := by
  simp only [take]
  split
  · next last =>
      rw [last, Int64.toInt_maxValue]
      rfl
  · next notLast =>
      have notLast : tracker.nextClient.toInt ≠ 2 ^ 63 - 1 := by
        rwa [← Int64.toInt_maxValue, ne_eq, Int64.toInt_inj]
      have high := tracker.nextClient.toInt_lt
      have low := tracker.nextClient.le_toInt
      rw [Int64.toInt_add, Int64.toInt_one, Int.bmod_eq_of_le (by omega) (by omega)]
      omega

theorem toInt_magnitude {stanza : Int64} (server : stanza < 0) :
    (magnitude stanza).toInt = min (-stanza.toInt) (2 ^ 63 - 1) := by
  have negative : stanza.toInt < 0 := Int64.lt_iff_toInt_lt.mp server
  simp only [magnitude, server, if_true]
  split
  · next lowest =>
      rw [lowest, Int64.toInt_maxValue, Int64.toInt_minValue]
      rfl
  · next notLowest =>
      have notLowest : stanza.toInt ≠ -2 ^ 63 := by
        rwa [← Int64.toInt_minValue, ne_eq, Int64.toInt_inj]
      have low := stanza.le_toInt
      rw [Int64.toInt_neg, Int.bmod_eq_of_le (by omega) (by omega)]
      omega

theorem toInt_max (first second : Int64) :
    (max first second).toInt = max first.toInt second.toInt := by
  change (if first ≤ second then second else first).toInt = _
  simp only [Int64.le_iff_toInt_le]
  split <;> omega

theorem toInt_observe (stanza : Int64) :
    (tracker.observe stanza).lastServer.toInt =
      if stanza < 0 then max tracker.lastServer.toInt (min (-stanza.toInt) (2 ^ 63 - 1))
      else tracker.lastServer.toInt := by
  simp only [observe]
  split
  · next server => rw [toInt_max, toInt_magnitude server]
  · rfl

theorem nextClient_observe (stanza : Int64) :
    (tracker.observe stanza).nextClient = tracker.nextClient := by
  simp only [observe]
  split <;> rfl

end StanzaTracker

theorem highestMagnitude_cons (stanza : Int64) (stanzas : List Int64) :
    highestMagnitude (stanza :: stanzas) =
      if stanza < 0 then max (min (-stanza.toInt) (2 ^ 63 - 1)) (highestMagnitude stanzas)
      else highestMagnitude stanzas := by
  simp only [highestMagnitude, List.filter_cons, decide_eq_true_eq]
  split <;> rfl

theorem highestMagnitude_nonneg (stanzas : List Int64) : 0 ≤ highestMagnitude stanzas := by
  induction stanzas with
  | nil => exact le_refl 0
  | cons stanza stanzas nonneg =>
      rw [highestMagnitude_cons]
      split
      · exact le_max_of_le_right nonneg
      · exact nonneg

end MessageSync
