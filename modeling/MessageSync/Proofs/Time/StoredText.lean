import Mathlib.Algebra.Group.Nat.Defs
import Mathlib.Data.Option.Basic
import MessageSync.Proofs.Time.Calendar
import MessageSync.Time.Timestamp

/-!
# Stored times read back

The text of a moment in a stored row reads back as the moment exactly when the year has four digits
without a sign. Every field is written at its full width, so that the reader finds the separators
where it looks for them.
-/

namespace MessageSync

namespace Timestamp

/-! ## Numbers of a fixed width -/

theorem toList_padded (width value : Nat) :
    (padded width value).toList =
      List.replicate (width - (Nat.toDigits 10 value).length) '0' ++ Nat.toDigits 10 value := by
  simp only [padded, Nat.toString_eq_repr, String.toList_append, String.toList_ofList,
    Nat.toList_repr, ← String.length_toList]

theorem length_padded {width value : Nat} (pos : 0 < width) (lt : value < 10 ^ width) :
    (padded width value).toList.length = width := by
  have := (Nat.length_toDigits_le_iff (by decide) pos).mpr lt
  simp only [toList_padded, List.length_append, List.length_replicate]
  omega

theorem isDigit_padded {width value : Nat} {c : Char} (mem : c ∈ (padded width value).toList) :
    c.isDigit := by
  rw [toList_padded, List.mem_append, List.mem_replicate] at mem
  rcases mem with ⟨-, rfl⟩ | mem
  · decide
  · exact Nat.isDigit_of_mem_toDigits (by decide) (by decide) mem

theorem digitsValue_eq (digits : List Char) :
    digitsValue digits = Nat.ofDigitChars 10 digits 0 := by
  simp [digitsValue, Nat.ofDigitChars, Nat.mul_comm]

theorem digitsValue_append_zeros (digits : List Char) (count : Nat) :
    digitsValue (digits ++ List.replicate count '0') = 10 ^ count * digitsValue digits := by
  simp [digitsValue_eq, Nat.ofDigitChars_append]

theorem digitsValue_padded (width value : Nat) :
    digitsValue (padded width value).toList = value := by
  simp [digitsValue_eq, toList_padded, Nat.ofDigitChars_append]

theorem takeWhile_padded (width value : Nat) (rest : List Char) :
    ((padded width value).toList ++ rest).takeWhile Char.isDigit =
      (padded width value).toList ++ rest.takeWhile Char.isDigit :=
  List.takeWhile_append_of_pos fun _ mem => isDigit_padded mem

/-- A number at its full width is read, also where fewer digits would do. -/
theorem number_padded (width : Nat) {least value : Nat} (enough : least ≤ width) (pos : 0 < width)
    (lt : value < 10 ^ width) (rest : List Char) :
    number least width ((padded width value).toList ++ rest) = some (value, rest) := by
  have length := length_padded pos lt
  have valueEq := digitsValue_padded width value
  have digits := takeWhile_padded width value []
  generalize (padded width value).toList = text at length valueEq digits ⊢
  subst length
  simp only [List.append_nil, List.takeWhile_nil] at digits
  simp [number, digits, valueEq, enough]

theorem number_eq_none {c : Char} (least most : Nat) (rest : List Char) (pos : 0 < least)
    (other : c.isDigit = false) : number least most (c :: rest) = none := by
  have : least ≠ 0 := by omega
  cases most with
  | zero => simp [number, this]
  | succ most => simp [number, other, this]

/-! ## The fraction of a second -/

/-- A fraction of the given number of digits, up to nine. -/
theorem fraction_padded {places value : Nat} (pos : 0 < places) (le : places ≤ 9)
    (lt : value < 10 ^ places) (rest : List Char) (stop : rest.takeWhile Char.isDigit = []) :
    fraction ('.' :: ((padded places value).toList ++ rest)) =
      some (10 ^ (9 - places) * value, rest) := by
  have length := length_padded pos lt
  have valueEq := digitsValue_padded places value
  have digits := takeWhile_padded places value rest
  generalize (padded places value).toList = text at length valueEq digits ⊢
  rw [stop, List.append_nil] at digits
  have filled : (text ++ List.replicate 9 '0').take 9 =
      text ++ List.replicate (9 - places) '0' := by
    rw [List.take_append, length, List.take_of_length_le (by omega), List.take_replicate,
      Nat.min_eq_left (by omega)]
  have nonempty : text ≠ [] := by
    rintro rfl
    simp only [List.length_nil] at length
    omega
  simp only [fraction, digits]
  rw [filled, digitsValue_append_zeros, valueEq, List.drop_left]

theorem fraction_fractionText {nanos : Nat} (lt : nanos < 1000000000) (rest : List Char)
    (stop : rest.takeWhile Char.isDigit = []) (noPoint : rest.head? ≠ some '.') :
    fraction ((fractionText nanos).toList ++ rest) = some (nanos, rest) := by
  have point : ∀ text : String, ("." ++ text).toList ++ rest = '.' :: (text.toList ++ rest) := by
    intro text
    rw [String.toList_append]
    rfl
  simp only [fractionText]
  split
  · subst nanos
    cases rest with
    | nil => rfl
    | cons c rest =>
        have : c ≠ '.' := by simpa using noPoint
        simp [fraction, this]
  · split
    · rw [point, fraction_padded (by decide) (by decide) (by omega) rest stop]
      congr 2
      omega
    · split
      · rw [point, fraction_padded (by decide) (by decide) (by omega) rest stop]
        congr 2
        omega
      · rw [point, fraction_padded (by decide) (by decide) (by omega) rest stop]
        congr 2
        omega

/-! ## Whole times -/

theorem literal_cons (c : Char) (rest : List Char) : literal c (c :: rest) = some rest := by
  simp [literal]

theorem dateMark_cons (rest : List Char) : dateMark ('T' :: rest) = some rest := rfl

/-- What comes after a part that was read goes on with what was read. -/
theorem bind_of_eq_some {α β : Type} {part : Option α} {value : α} {next : α → Option β}
    (read : part = some value) : (part >>= next) = next value := by
  rw [read]
  rfl

/-- The characters of a time in universal time whose fields have the given values. -/
def fields (year month day hour minute second nanos : Nat) (zone : List Char) : List Char :=
  (padded 4 year).toList ++ '-' :: ((padded 2 month).toList ++ '-' :: ((padded 2 day).toList ++
    'T' :: ((padded 2 hour).toList ++ ':' :: ((padded 2 minute).toList ++ ':' ::
      ((padded 2 second).toList ++ ((fractionText nanos).toList ++ zone))))))

/-- The strict reader finds every field that is no wider than its place. -/
theorem readStrict_fields {text : String} {year month day hour minute second nanos : Nat}
    (textEq : text.toList = fields year month day hour minute second nanos "+00:00".toList)
    (year_lt : year < 10000) (month_lt : month < 100) (day_lt : day < 100) (hour_lt : hour < 100)
    (minute_lt : minute < 100) (second_lt : second < 100) (nanos_lt : nanos < 1000000000) :
    readStrict text = moment? ⟨year, month, day⟩ hour minute second nanos 0 := by
  have zone : offset (literal ':') "+00:00".toList = some (0, []) := by decide
  have nanosRead := fraction_fractionText nanos_lt "+00:00".toList (by decide) (by decide)
  rw [readStrict, textEq, fields]
  -- One step for each part of the text, in the order in which the reader takes them.
  refine (bind_of_eq_some (number_padded 4 (by decide) (by decide) year_lt _)).trans ?_
  refine (bind_of_eq_some (literal_cons '-' _)).trans ?_
  refine (bind_of_eq_some (number_padded 2 (by decide) (by decide) month_lt _)).trans ?_
  refine (bind_of_eq_some (literal_cons '-' _)).trans ?_
  refine (bind_of_eq_some (number_padded 2 (by decide) (by decide) day_lt _)).trans ?_
  refine (bind_of_eq_some (dateMark_cons _)).trans ?_
  refine (bind_of_eq_some (number_padded 2 (by decide) (by decide) hour_lt _)).trans ?_
  refine (bind_of_eq_some (literal_cons ':' _)).trans ?_
  refine (bind_of_eq_some (number_padded 2 (by decide) (by decide) minute_lt _)).trans ?_
  refine (bind_of_eq_some (literal_cons ':' _)).trans ?_
  refine (bind_of_eq_some (number_padded 2 (by decide) (by decide) second_lt _)).trans ?_
  refine (bind_of_eq_some nanosRead).trans ?_
  exact bind_of_eq_some zone

theorem toList_write (zone : String) (moment : Moment) (lower : 0 ≤ moment.year)
    (upper : moment.year ≤ 9999) :
    (write zone moment).toList =
      fields moment.year.toNat (Calendar.Date.ofDay moment.day).month
        (Calendar.Date.ofDay moment.day).day (moment.secondOfDay / 3600)
        (moment.secondOfDay / 60 % 60) (moment.secondOfDay % 60 + moment.nanos / 1000000000)
        (moment.nanos % 1000000000) zone.toList := by
  have year : yearText (Calendar.Date.ofDay moment.day).year = padded 4 moment.year.toNat :=
    if_pos ⟨lower, upper⟩
  have dash : "-".toList = ['-'] := rfl
  have mark : "T".toList = ['T'] := rfl
  have colon : ":".toList = [':'] := rfl
  simp only [write, fields, year, dash, mark, colon, String.toList_append, List.append_assoc,
    List.cons_append, List.nil_append]

theorem moment?_of_moment (moment : Moment)
    (representable : -262143 ≤ moment.year ∧ moment.year ≤ 262142) :
    moment? (Calendar.Date.ofDay moment.day) (moment.secondOfDay / 3600)
      (moment.secondOfDay / 60 % 60) (moment.secondOfDay % 60 + moment.nanos / 1000000000)
      (moment.nanos % 1000000000) 0 = some moment := by
  have dateExists := Calendar.exists_ofDay moment.day
  have dayAgain := Calendar.toDay_ofDay moment.day
  rcases moment with ⟨seconds, nanos, nanos_lt, leap_last, earliest, latest⟩
  simp only [Moment.year, Moment.day, Moment.secondOfDay] at *
  have secondsAgain : seconds / 86400 * 86400 + ((seconds % 86400).toNat / 3600 : Nat) * 3600 +
      ((seconds % 86400).toNat / 60 % 60 : Nat) * 60 +
      (min ((seconds % 86400).toNat % 60 + nanos / 1000000000) 59 : Nat) - 0 = seconds := by
    omega
  have nanosAgain : (if (seconds % 86400).toNat % 60 + nanos / 1000000000 = 60 then
      nanos % 1000000000 + 1000000000 else nanos % 1000000000) = nanos := by
    split <;> omega
  have valid : nanos < 2000000000 ∧ (1000000000 ≤ nanos → seconds % 60 = 59) ∧
      -8334601228800 ≤ seconds ∧ seconds ≤ 8210266876799 :=
    ⟨nanos_lt, leap_last, earliest, latest⟩
  rw [moment?, (Option.guard_eq_some' ()).mpr ⟨dateExists, representable⟩,
    (Option.guard_eq_some' ()).mpr ⟨by omega, by omega, by omega, by decide⟩]
  simp only [dayAgain, nanosAgain, secondsAgain]
  exact dif_pos valid

/-- A stored time with a year of four digits reads back. -/
theorem readStrict_storedText_of_year (moment : Moment) (lower : 0 ≤ moment.year)
    (upper : moment.year ≤ 9999) : readStrict (storedText moment) = some moment := by
  have date := Calendar.exists_ofDay moment.day
  have days_le := Calendar.daysInMonth_le (Calendar.Date.ofDay moment.day).year
    (Calendar.Date.ofDay moment.day).month
  rcases date with ⟨_, month_le, _, day_le⟩
  have second_lt : moment.secondOfDay < 86400 := by
    simp only [Moment.secondOfDay]
    omega
  have nanos_lt := moment.nanos_lt
  rw [storedText, readStrict_fields (toList_write "+00:00" moment lower upper) (by omega)
    (by omega) (by omega) (by omega) (by omega) (by omega) (by omega)]
  have yearAgain : (moment.year.toNat : Int) = (Calendar.Date.ofDay moment.day).year :=
    Int.toNat_of_nonneg lower
  rw [yearAgain]
  exact moment?_of_moment moment ⟨by omega, by omega⟩

/-- A stored time with a signed year does not. -/
theorem readStrict_storedText_of_not_year (moment : Moment)
    (outside : ¬(0 ≤ moment.year ∧ moment.year ≤ 9999)) :
    readStrict (storedText moment) = none := by
  have signed : ∃ sign rest, (storedText moment).toList = sign :: rest ∧ sign.isDigit = false := by
    have year : yearText (Calendar.Date.ofDay moment.day).year =
        (if moment.year < 0 then "-" else "+") ++ padded 4 moment.year.natAbs := if_neg outside
    simp only [storedText, write, year, String.toList_append, List.append_assoc]
    split
    · exact ⟨'-', _, rfl, by decide⟩
    · exact ⟨'+', _, rfl, by decide⟩
  rcases signed with ⟨sign, rest, textEq, notDigit⟩
  simp only [readStrict, textEq, number_eq_none 4 4 rest (by decide) notDigit]
  rfl

/-- Exactly the stored times with a year of four digits read back, and as what was stored. -/
theorem readStrict_storedText (moment : Moment) :
    readStrict (storedText moment) =
      if 0 ≤ moment.year ∧ moment.year ≤ 9999 then some moment else none := by
  split
  · next within => exact readStrict_storedText_of_year moment within.1 within.2
  · next outside => exact readStrict_storedText_of_not_year moment outside

end Timestamp

end MessageSync
