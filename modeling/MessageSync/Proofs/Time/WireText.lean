import MessageSync.Proofs.Time.StoredOrder
import MessageSync.Text.Utf8

/-!
# Times in messages read back

The text of a moment in a message reads back as the moment, whatever its year. The lenient reader
takes more than is written: it skips white space and puts up with short fields. In what is written
there is no white space and every field but a signed year has its full width, so it takes the same
parts as the strict one. A year with a sign goes on up to the first character that is no digit.
-/

namespace MessageSync

/-! ## The years of moments -/

namespace Calendar

theorem year_ofDay_mono {earlier later : Int} (le : earlier ≤ later) :
    (Date.ofDay earlier).year ≤ (Date.ofDay later).year := by
  rcases Int.lt_or_eq_of_le le with lt | rfl
  · rcases Date.precedes_ofDay lt with years | ⟨same, -⟩
    · exact years.le
    · exact same.le
  · exact Int.le_refl _

end Calendar

/-- The first and the last moment there are begin and end their years. -/
theorem Moment.year_bounds (moment : Moment) : -262143 ≤ moment.year ∧ moment.year ≤ 262142 := by
  have earliest := moment.earliest
  have latest := moment.latest
  have firstYear : (Calendar.Date.ofDay (-96465292)).year = -262143 := by decide
  have lastYear : (Calendar.Date.ofDay 95026236).year = 262142 := by decide
  constructor
  · rw [← firstYear]
    apply Calendar.year_ofDay_mono
    simp only [day]
    omega
  · rw [← lastYear]
    apply Calendar.year_ofDay_mono
    simp only [day]
    omega

namespace Timestamp

/-! ## Parts of a time -/

theorem skipBlank_cons {c : Char} (mark : isBlank c = false) (rest : List Char) :
    skipBlank (c :: rest) = c :: rest := by
  simp [skipBlank, mark]

theorem isBlank_of_isDigit {c : Char} (digit : c.isDigit = true) : isBlank c = false := by
  have code := digit_le digit
  simp only [isBlank, Bool.or_eq_false_iff, Bool.and_eq_false_iff, decide_eq_false_iff_not,
    beq_eq_false_iff_ne]
  omega

theorem lenientMark_cons {c : Char} (mark : isBlank c = false) (rest : List Char) :
    lenientMark c (c :: rest) = some rest := by
  rw [lenientMark, skipBlank_cons mark, literal_cons]

/-- A number is written with a digit in front. -/
theorem exists_padded {width : Nat} (value : Nat) (pos : 0 < width) :
    ∃ digit digits, (padded width value).toList = digit :: digits ∧ digit.isDigit = true := by
  cases digitsEq : (padded width value).toList with
  | nil =>
      rw [toList_padded, List.append_eq_nil_iff, List.replicate_eq_nil_iff] at digitsEq
      rw [digitsEq.2, List.length_nil] at digitsEq
      omega
  | cons digit digits =>
      exact ⟨digit, digits, rfl, isDigit_padded (digitsEq ▸ List.mem_cons_self)⟩

theorem lenientField_padded {value : Nat} (lt : value < 100) (rest : List Char) :
    lenientField ((padded 2 value).toList ++ rest) = some (value, rest) := by
  rcases exists_padded value (by decide : 0 < 2) with ⟨digit, digits, digitsEq, isDigit⟩
  have noBlank : skipBlank ((padded 2 value).toList ++ rest) = (padded 2 value).toList ++ rest := by
    rw [digitsEq]
    exact skipBlank_cons (isBlank_of_isDigit isDigit) _
  rw [lenientField, noBlank]
  exact number_padded 2 (by decide) (by decide) lt rest

/-- A number without a bound on its digits goes on up to the first other character. -/
theorem number_unbounded (width value : Nat) {rest : List Char} (pos : 0 < width)
    (stop : rest.takeWhile Char.isDigit = []) :
    number 1 ((padded width value).toList ++ rest).length ((padded width value).toList ++ rest) =
      some (value, rest) := by
  have digits := takeWhile_padded width value rest
  have valueEq := digitsValue_padded width value
  rcases exists_padded value pos with ⟨digit, others, textEq, -⟩
  have nonempty : 1 ≤ (padded width value).toList.length := by
    rw [textEq]
    exact Nat.succ_le_succ (Nat.zero_le _)
  rw [stop, List.append_nil] at digits
  simp only [number, List.take_length, digits, nonempty, if_true, valueEq, List.drop_left]

/-- A year outside of 0 to 9999 is written with its sign. -/
theorem toList_yearText_signed {year : Int} (outside : ¬(0 ≤ year ∧ year ≤ 9999)) :
    (yearText year).toList =
      (if year < 0 then '-' else '+') :: (padded 4 year.natAbs).toList := by
  have minus : "-".toList = ['-'] := rfl
  have plus : "+".toList = ['+'] := rfl
  rw [yearText, if_neg outside, String.toList_append]
  split
  · rw [minus, List.singleton_append]
  · rw [plus, List.singleton_append]

theorem lenientYear_unsigned {c : Char} {chars : List Char} (digit : c.isDigit = true) :
    lenientYear (c :: chars) =
      (number 1 4 (c :: chars)).map fun (year, rest) => ((year : Int), rest) := by
  unfold lenientYear
  split
  · next same =>
      rw [(List.cons.inj same).1] at digit
      exact absurd digit (by decide)
  · next same =>
      rw [(List.cons.inj same).1] at digit
      exact absurd digit (by decide)
  · rfl

theorem lenientYear_yearText (year : Int) {rest : List Char}
    (stop : rest.takeWhile Char.isDigit = []) :
    lenientYear ((yearText year).toList ++ rest) = some (year, rest) := by
  by_cases within : 0 ≤ year ∧ year ≤ 9999
  · have read : number 1 4 ((padded 4 year.toNat).toList ++ rest) = some (year.toNat, rest) :=
      number_padded 4 (by decide) (by decide) (by omega) rest
    have again : (year.toNat : Int) = year := Int.toNat_of_nonneg within.1
    rcases exists_padded year.toNat (by decide : 0 < 4) with ⟨digit, digits, textEq, isDigit⟩
    rw [yearText, if_pos within]
    rw [textEq, List.cons_append] at read ⊢
    rw [lenientYear_unsigned isDigit, read]
    simp only [Option.map_some, again]
  · have read := number_unbounded 4 year.natAbs (by decide) stop
    rw [toList_yearText_signed within, List.cons_append]
    split
    · have again : -(year.natAbs : Int) = year := by omega
      simp only [lenientYear, read, Option.map_some, again]
    · have again : (year.natAbs : Int) = year := by omega
      simp only [lenientYear, read, Option.map_some, again]

/-- A year is written with its sign or a digit in front. -/
theorem exists_yearText (year : Int) :
    ∃ c rest, (yearText year).toList = c :: rest ∧ isBlank c = false := by
  by_cases within : 0 ≤ year ∧ year ≤ 9999
  · rcases exists_padded year.toNat (by decide : 0 < 4) with ⟨digit, digits, textEq, isDigit⟩
    rw [yearText, if_pos within]
    exact ⟨digit, digits, textEq, isBlank_of_isDigit isDigit⟩
  · refine ⟨_, _, toList_yearText_signed within, ?_⟩
    split <;> decide

/-! ## Whole times -/

/-- The characters that follow the year. -/
def fieldsAfterYear (month day hour minute second nanos : Nat) (zone : List Char) : List Char :=
  '-' :: ((padded 2 month).toList ++ '-' :: ((padded 2 day).toList ++
    'T' :: ((padded 2 hour).toList ++ ':' :: ((padded 2 minute).toList ++ ':' ::
      ((padded 2 second).toList ++ ((fractionText nanos).toList ++ zone))))))

theorem toList_wireText (moment : Moment) :
    (wireText moment).toList = (yearText moment.year).toList ++
      fieldsAfterYear (Calendar.Date.ofDay moment.day).month (Calendar.Date.ofDay moment.day).day
        (moment.secondOfDay / 3600) (moment.secondOfDay / 60 % 60)
        (moment.secondOfDay % 60 + moment.nanos / 1000000000) (moment.nanos % 1000000000) ['Z'] := by
  have dash : "-".toList = ['-'] := rfl
  have mark : "T".toList = ['T'] := rfl
  have colon : ":".toList = [':'] := rfl
  have zone : "Z".toList = ['Z'] := rfl
  simp only [wireText, write, fieldsAfterYear, Moment.year, dash, mark, colon, zone,
    String.toList_append, List.append_assoc, List.cons_append, List.nil_append]

/-- The lenient reader finds every field that is no wider than its place. -/
theorem readLenient_fields {text : String} {year : Int} {month day hour minute second nanos : Nat}
    (textEq : text.toList =
      (yearText year).toList ++ fieldsAfterYear month day hour minute second nanos ['Z'])
    (month_lt : month < 100) (day_lt : day < 100) (hour_lt : hour < 100) (minute_lt : minute < 100)
    (second_lt : second < 100) (nanos_lt : nanos < 1000000000) :
    readLenient text = moment? ⟨year, month, day⟩ hour minute second nanos 0 := by
  have noBlank : skipBlank text.toList = text.toList := by
    rcases exists_yearText year with ⟨c, rest, yearEq, mark⟩
    rw [textEq, yearEq, List.cons_append, skipBlank_cons mark]
  have zone : lenientOffset (skipBlank ['Z']) = some (0, []) := by decide
  have nanosRead := fraction_fractionText nanos_lt ['Z'] (by decide) (by decide)
  rw [readLenient, noBlank, textEq]
  -- One step for each part of the text, in the order in which the reader takes them.
  refine (bind_of_eq_some (lenientYear_yearText year rfl)).trans ?_
  refine (bind_of_eq_some (lenientMark_cons (by decide) _)).trans ?_
  refine (bind_of_eq_some (lenientField_padded month_lt _)).trans ?_
  refine (bind_of_eq_some (lenientMark_cons (by decide) _)).trans ?_
  refine (bind_of_eq_some (lenientField_padded day_lt _)).trans ?_
  refine (bind_of_eq_some (dateMark_cons _)).trans ?_
  refine (bind_of_eq_some (lenientField_padded hour_lt _)).trans ?_
  refine (bind_of_eq_some (lenientMark_cons (by decide) _)).trans ?_
  refine (bind_of_eq_some (lenientField_padded minute_lt _)).trans ?_
  refine (bind_of_eq_some (lenientMark_cons (by decide) _)).trans ?_
  refine (bind_of_eq_some (lenientField_padded second_lt _)).trans ?_
  refine (bind_of_eq_some nanosRead).trans ?_
  exact bind_of_eq_some zone

/-- The text of every moment in a message reads back as the moment. -/
theorem readLenient_wireText (moment : Moment) : readLenient (wireText moment) = some moment := by
  have days_le := Calendar.daysInMonth_le (Calendar.Date.ofDay moment.day).year
    (Calendar.Date.ofDay moment.day).month
  rcases Calendar.exists_ofDay moment.day with ⟨_, month_le, _, day_le⟩
  have second_lt : moment.secondOfDay < 86400 := by
    simp only [Moment.secondOfDay]
    omega
  have nanos_lt := moment.nanos_lt
  rw [readLenient_fields (toList_wireText moment) (by omega) (by omega) (by omega) (by omega)
    (by omega) (by omega)]
  exact moment?_of_moment moment moment.year_bounds

/-! ## How long a text is -/

theorem length_padded_le {width digits value : Nat} (pos : 0 < digits) (lt : value < 10 ^ digits) :
    (padded width value).toList.length ≤ max width digits := by
  have := (Nat.length_toDigits_le_iff (by decide) pos).mpr lt
  simp only [toList_padded, List.length_append, List.length_replicate]
  omega

theorem length_yearText_le {year : Int} (lower : -262143 ≤ year) (upper : year ≤ 262142) :
    (yearText year).toList.length ≤ 7 := by
  by_cases within : 0 ≤ year ∧ year ≤ 9999
  · have short : (padded 4 year.toNat).toList.length ≤ max 4 4 :=
      length_padded_le (by decide) (by omega)
    rw [yearText, if_pos within]
    omega
  · have short : (padded 4 year.natAbs).toList.length ≤ max 4 6 :=
      length_padded_le (by decide) (by omega)
    rw [toList_yearText_signed within, List.length_cons]
    omega

theorem length_fractionText_le {nanos : Nat} (lt : nanos < 1000000000) :
    (fractionText nanos).toList.length ≤ 10 := by
  have dot : ".".toList = ['.'] := rfl
  unfold fractionText
  split_ifs
  · exact Nat.zero_le _
  · have short : (padded 3 (nanos / 1000000)).toList.length = 3 :=
      length_padded (by decide) (by omega)
    rw [String.toList_append, dot, List.length_append, short]
    decide
  · have short : (padded 6 (nanos / 1000)).toList.length = 6 :=
      length_padded (by decide) (by omega)
    rw [String.toList_append, dot, List.length_append, short]
    decide
  · have short : (padded 9 nanos).toList.length = 9 := length_padded (by decide) (by omega)
    rw [String.toList_append, dot, List.length_append, short]
    decide

/-- The text of a moment has at most 33 characters. -/
theorem length_wireText_le (moment : Moment) : (wireText moment).toList.length ≤ 33 := by
  have days_le := Calendar.daysInMonth_le (Calendar.Date.ofDay moment.day).year
    (Calendar.Date.ofDay moment.day).month
  rcases Calendar.exists_ofDay moment.day with ⟨_, month_le, _, day_le⟩
  have second_lt : moment.secondOfDay < 86400 := by
    simp only [Moment.secondOfDay]
    omega
  have nanos_lt := moment.nanos_lt
  have two (value : Nat) (lt : value < 100) : (padded 2 value).toList.length = 2 :=
    length_padded (by decide) lt
  have yearShort := length_yearText_le moment.year_bounds.1 moment.year_bounds.2
  have fractionShort : (fractionText (moment.nanos % 1000000000)).toList.length ≤ 10 :=
    length_fractionText_le (by omega)
  have month := two ((Calendar.Date.ofDay moment.day).month) (by omega)
  have day := two ((Calendar.Date.ofDay moment.day).day) (by omega)
  have hour := two (moment.secondOfDay / 3600) (by omega)
  have minute := two (moment.secondOfDay / 60 % 60) (by omega)
  have second := two (moment.secondOfDay % 60 + moment.nanos / 1000000000) (by omega)
  simp only [toList_wireText, fieldsAfterYear, List.length_append, List.length_cons,
    List.length_nil, month, day, hour, minute, second]
  omega

end Timestamp

end MessageSync
