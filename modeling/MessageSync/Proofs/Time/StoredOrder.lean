import Mathlib.Tactic.IntervalCases
import MessageSync.Proofs.Time.StoredText

/-!
# Stored times in their order

Stored rows are put in the order of the texts of their creation times. Of two moments whose years
have four digits, the one that is earlier also has the text that comes first. All fields from the
year on are written at their full width, so the first that differs decides. Where one fraction of a
second has fewer digits than another, what comes after it is the zone, whose sign comes before every
digit and before the point.
-/

namespace MessageSync

namespace Calendar

namespace Date

variable {first second : Date}

/-- The year that began in March and has the day. -/
def marchYear (date : Date) : Int :=
  if date.month ≤ 2 then date.year - 1 else date.year

/-- How many days the day comes after the first of March. -/
def dayOfMarchYear (date : Date) : Int :=
  (153 * (((date.month : Int) + 9) % 12) + 2) / 5 + date.day - 1

/-- The number of the first of March of a year. -/
def marchDay (year : Int) : Int :=
  365 * year + year / 4 - year / 100 + year / 400 - 719468

theorem toDay_eq (date : Date) : date.toDay = marchDay date.marchYear + date.dayOfMarchYear := by
  change _ = marchDay (if date.month ≤ 2 then date.year - 1 else date.year) + _
  simp only [toDay, marchDay, dayOfMarchYear]
  generalize (if date.month ≤ 2 then date.year - 1 else date.year) = year
  omega

theorem marchDay_le {earlier later : Int} (le : earlier ≤ later) :
    marchDay earlier ≤ marchDay later := by
  simp only [marchDay]
  omega

theorem dayOfMarchYear_lt {date : Date} (dateExists : date.Exists) :
    marchDay date.marchYear + date.dayOfMarchYear < marchDay (date.marchYear + 1) := by
  rcases date with ⟨year, month, day⟩
  rcases dateExists with ⟨month_pos, month_le, day_pos, day_le⟩
  simp only [marchYear, dayOfMarchYear, marchDay] at *
  interval_cases month
  case «2» =>
    change day ≤ if IsLeapYear year then 29 else 28 at day_le
    split at day_le
    · next leap =>
        rcases leap with ⟨fourth, hundredth⟩
        simp only [Nat.reduceLeDiff, reduceIte]
        omega
    · simp only [Nat.reduceLeDiff, reduceIte]
      omega
  all_goals
    simp [daysInMonth] at *
    omega

theorem dayOfMarchYear_nonneg {date : Date} (dateExists : date.Exists) :
    0 ≤ date.dayOfMarchYear := by
  rcases dateExists with ⟨-, -, day_pos, -⟩
  simp only [dayOfMarchYear]
  omega

/-- The first date comes before the second in the calendar. -/
def Precedes (first second : Date) : Prop :=
  first.year < second.year ∨ first.year = second.year ∧
    (first.month < second.month ∨ first.month = second.month ∧ first.day < second.day)

/-- Within a year that began in March, months come in the order in which they are counted from
it. -/
theorem dayOfMarchYear_lt_of_month (firstExists : first.Exists) (secondExists : second.Exists)
    (months : ((first.month : Int) + 9) % 12 < ((second.month : Int) + 9) % 12) :
    first.dayOfMarchYear < second.dayOfMarchYear := by
  rcases first with ⟨year, month, day⟩
  rcases firstExists with ⟨month_pos, month_le, day_pos, day_le⟩
  rcases secondExists with ⟨-, -, laterDay_pos, -⟩
  simp only [dayOfMarchYear] at *
  interval_cases month
  case «2» => omega
  all_goals
    simp [daysInMonth] at *
    omega

theorem Precedes.toDay_lt (precedes : first.Precedes second) (firstExists : first.Exists)
    (secondExists : second.Exists) : first.toDay < second.toDay := by
  rw [toDay_eq, toDay_eq]
  have within := dayOfMarchYear_lt firstExists
  have begun := dayOfMarchYear_nonneg secondExists
  by_cases earlierYear : first.marchYear + 1 ≤ second.marchYear
  · have years := marchDay_le earlierYear
    omega
  -- A later date of no later year that began in March is of the same one, and comes later in it.
  have sameYear : first.marchYear = second.marchYear ∧
      (((first.month : Int) + 9) % 12 < ((second.month : Int) + 9) % 12 ∨
        first.month = second.month ∧ first.day < second.day) := by
    rcases firstExists with ⟨firstMonth_pos, firstMonth_le, -⟩
    rcases secondExists with ⟨secondMonth_pos, secondMonth_le, -⟩
    simp only [Precedes, marchYear] at *
    split at earlierYear <;> split at earlierYear <;> omega
  rw [sameYear.1]
  rcases sameYear.2 with months | ⟨sameMonth, days⟩
  · have later := dayOfMarchYear_lt_of_month firstExists secondExists months
    omega
  · simp only [dayOfMarchYear, sameMonth]
    omega

theorem precedes_trichotomy (first second : Date) :
    first.Precedes second ∨ first = second ∨ second.Precedes first := by
  rcases first with ⟨year, month, day⟩
  rcases second with ⟨otherYear, otherMonth, otherDay⟩
  simp only [Precedes, mk.injEq]
  omega

theorem precedes_ofDay {earlier later : Int} (lt : earlier < later) :
    (ofDay earlier).Precedes (ofDay later) := by
  have earlierAgain := toDay_ofDay earlier
  have laterAgain := toDay_ofDay later
  rcases precedes_trichotomy (ofDay earlier) (ofDay later) with precedes | same | precedes
  · exact precedes
  · rw [same] at earlierAgain
    omega
  · have contrary := precedes.toDay_lt (exists_ofDay later) (exists_ofDay earlier)
    omega

end Date

end Calendar

namespace Moment

theorem before_trichotomy (first second : Moment) :
    first.Before second ∨ first = second ∨ second.Before first := by
  rcases first with ⟨seconds, nanos, _, _, _, _⟩
  rcases second with ⟨otherSeconds, otherNanos, _, _, _, _⟩
  simp only [Before, mk.injEq]
  omega

end Moment

namespace Timestamp

/-! ## Digits -/

theorem digitsValue_cons (c : Char) (digits : List Char) :
    digitsValue (c :: digits) = 10 ^ digits.length * (c.toNat - 48) + digitsValue digits := by
  simp only [digitsValue_eq, Nat.ofDigitChars_cons]
  rw [Nat.ofDigitChars_eq_ofDigitChars_zero, Nat.mul_zero, Nat.zero_add]
  rfl

theorem digit_le {c : Char} (digit : c.isDigit = true) : 48 ≤ c.toNat ∧ c.toNat ≤ 57 :=
  Char.isDigit_iff_toNat.mp digit

theorem digitsValue_lt {digits : List Char} (areDigits : ∀ c ∈ digits, c.isDigit = true) :
    digitsValue digits < 10 ^ digits.length := by
  induction digits with
  | nil => decide
  | cons c digits lt =>
      have rest := lt fun other mem => areDigits other (List.mem_cons_of_mem _ mem)
      have digit := digit_le (areDigits c List.mem_cons_self)
      rw [digitsValue_cons, List.length_cons, Nat.pow_succ]
      have top : 10 ^ digits.length * (c.toNat - 48) ≤ 10 ^ digits.length * 9 :=
        Nat.mul_le_mul_left _ (by omega)
      omega

/-- Of two numbers of the same width, the one with the smaller value comes first as a text. -/
theorem lt_of_digitsValue_lt {first second : List Char} (width : first.length = second.length)
    (firstDigits : ∀ c ∈ first, c.isDigit = true) (secondDigits : ∀ c ∈ second, c.isDigit = true)
    (lt : digitsValue first < digitsValue second) : first < second := by
  induction first generalizing second with
  | nil =>
      rw [List.length_nil, eq_comm, List.length_eq_zero_iff] at width
      rw [width] at lt
      exact absurd lt (Nat.lt_irrefl _)
  | cons c first ih =>
      cases second with
      | nil => cases width
      | cons d second =>
          rw [List.length_cons, List.length_cons, Nat.add_right_cancel_iff] at width
          rw [List.forall_mem_cons] at firstDigits secondDigits
          rw [digitsValue_cons, digitsValue_cons, width] at lt
          rw [List.cons_lt_cons_iff]
          have below := digitsValue_lt secondDigits.2
          have cDigit := digit_le firstDigits.1
          have dDigit := digit_le secondDigits.1
          rcases Nat.lt_trichotomy c.toNat d.toNat with less | same | more
          · exact Or.inl less
          · have same : c = d := Char.toNat_inj.mp same
            subst same
            exact Or.inr ⟨rfl, ih width firstDigits.2 secondDigits.2 (by omega)⟩
          · have head : 10 ^ second.length * (d.toNat - 48 + 1) ≤
                10 ^ second.length * (c.toNat - 48) := Nat.mul_le_mul_left _ (by omega)
            rw [Nat.mul_add] at head
            omega

/-- What follows does not matter for two texts of the same width that differ. -/
theorem append_lt_append {first second : List Char} (width : first.length = second.length)
    (lt : first < second) (afterFirst afterSecond : List Char) :
    first ++ afterFirst < second ++ afterSecond := by
  induction first generalizing second with
  | nil =>
      rw [List.length_nil, eq_comm, List.length_eq_zero_iff] at width
      rw [width] at lt
      exact absurd lt (List.lt_irrefl _)
  | cons c first ih =>
      cases second with
      | nil => cases width
      | cons d second =>
          rw [List.length_cons, List.length_cons, Nat.add_right_cancel_iff] at width
          rw [List.cons_append, List.cons_append, List.cons_lt_cons_iff] at *
          rcases lt with less | ⟨same, lt⟩
          · exact Or.inl less
          · exact Or.inr ⟨same, ih width lt⟩

/-- Texts that begin with numbers of a width are in the order of the numbers, and if these are the
same in the order of what follows. -/
theorem padded_append_lt {width first second : Nat} {afterFirst afterSecond : List Char}
    (pos : 0 < width) (first_lt : first < 10 ^ width) (second_lt : second < 10 ^ width)
    (lt : first < second ∨ first = second ∧ afterFirst < afterSecond) :
    (padded width first).toList ++ afterFirst < (padded width second).toList ++ afterSecond := by
  rcases lt with lt | ⟨rfl, lt⟩
  · have sameWidth := (length_padded pos first_lt).trans (length_padded pos second_lt).symm
    refine append_lt_append sameWidth (lt_of_digitsValue_lt sameWidth ?_ ?_ ?_) _ _
    · exact fun c mem => isDigit_padded mem
    · exact fun c mem => isDigit_padded mem
    · rwa [digitsValue_padded, digitsValue_padded]
  · exact List.append_left_lt lt

/-! ## Fractions -/

theorem not_lt_zeros {digits : List Char} (areDigits : ∀ c ∈ digits, c.isDigit = true) :
    ¬digits < List.replicate digits.length '0' := by
  induction digits with
  | nil => exact List.lt_irrefl _
  | cons c digits not_lt =>
      rw [List.forall_mem_cons] at areDigits
      rw [List.length_cons, List.replicate_succ, List.cons_lt_cons_iff]
      rintro (less | ⟨-, lt⟩)
      · exact absurd (digit_le areDigits.1).1 (Nat.not_le.mpr less)
      · exact not_lt areDigits.2 lt

/-- Zeros at the end of digits do not matter for their order before a sign. -/
theorem append_sign_lt {first second : List Char} {firstZeros secondZeros : Nat}
    (width : first.length + firstZeros = second.length + secondZeros)
    (firstDigits : ∀ c ∈ first, c.isDigit = true) (secondDigits : ∀ c ∈ second, c.isDigit = true)
    (lt : first ++ List.replicate firstZeros '0' < second ++ List.replicate secondZeros '0')
    (rest : List Char) : first ++ '+' :: rest < second ++ '+' :: rest := by
  induction first generalizing second with
  | nil =>
      cases second with
      | nil =>
          simp only [List.length_nil, Nat.zero_add] at width
          rw [width] at lt
          exact absurd lt (List.lt_irrefl _)
      | cons d second =>
          have digit := digit_le (secondDigits d List.mem_cons_self)
          have sign : '+'.toNat < d.toNat := by
            change 43 < d.toNat
            omega
          exact List.cons_lt_cons_iff.mpr (Or.inl sign)
  | cons c first ih =>
      cases second with
      | nil =>
          -- Digits are never less than as many zeros.
          have zeros : secondZeros = (c :: first ++ List.replicate firstZeros '0').length := by
            simp only [List.length_cons, List.length_nil, List.length_append,
              List.length_replicate] at *
            omega
          rw [List.nil_append, zeros] at lt
          refine absurd lt (not_lt_zeros ?_)
          intro d mem
          rcases List.mem_append.mp mem with inFirst | isZero
          · exact firstDigits d inFirst
          · rw [List.eq_of_mem_replicate isZero]
            decide
      | cons d second =>
          rw [List.forall_mem_cons] at firstDigits secondDigits
          rw [List.cons_append, List.cons_append, List.cons_lt_cons_iff] at *
          simp only [List.length_cons] at width
          rcases lt with less | ⟨same, lt⟩
          · exact Or.inl less
          · exact Or.inr ⟨same, ih (by omega) firstDigits.2 secondDigits.2 lt⟩

/-- A fraction has the first of nine digits, and the others are zeros. -/
theorem exists_fraction {nanos : Nat} (pos : nanos ≠ 0) (lt : nanos < 1000000000) :
    ∃ digits zeros, (fractionText nanos).toList = '.' :: digits ∧ digits.length + zeros = 9 ∧
      (∀ c ∈ digits, c.isDigit = true) ∧
      digitsValue (digits ++ List.replicate zeros '0') = nanos := by
  have fraction : ∀ {places zeros value : Nat}, 0 < places → places + zeros = 9 →
      value < 10 ^ places → 10 ^ zeros * value = nanos →
      fractionText nanos = "." ++ padded places value →
      ∃ digits zeros, (fractionText nanos).toList = '.' :: digits ∧ digits.length + zeros = 9 ∧
        (∀ c ∈ digits, c.isDigit = true) ∧
        digitsValue (digits ++ List.replicate zeros '0') = nanos := by
    intro places zeros value places_pos width value_lt valueEq textEq
    refine ⟨(padded places value).toList, zeros, ?_, ?_, fun c mem => isDigit_padded mem, ?_⟩
    · rw [textEq, String.toList_append]
      rfl
    · rw [length_padded places_pos value_lt, width]
    · rw [digitsValue_append_zeros, digitsValue_padded, valueEq]
  by_cases thousandths : nanos % 1000000 = 0
  · have textEq : fractionText nanos = "." ++ padded 3 (nanos / 1000000) := by
      simp only [fractionText, pos, thousandths, reduceIte]
    exact fraction (by decide) (by decide : 3 + 6 = 9) (by omega) (by omega) textEq
  · by_cases millionths : nanos % 1000 = 0
    · have textEq : fractionText nanos = "." ++ padded 6 (nanos / 1000) := by
        simp only [fractionText, pos, thousandths, millionths, reduceIte]
      exact fraction (by decide) (by decide : 6 + 3 = 9) (by omega) (by omega) textEq
    · have textEq : fractionText nanos = "." ++ padded 9 nanos := by
        simp only [fractionText, pos, thousandths, millionths, reduceIte]
      exact fraction (by decide) (by decide : 9 + 0 = 9) (by omega) (by omega) textEq

theorem fractionText_lt {first second : Nat} (lt : first < second)
    (second_lt : second < 1000000000) (rest : List Char) :
    (fractionText first).toList ++ '+' :: rest < (fractionText second).toList ++ '+' :: rest := by
  rcases exists_fraction (by omega) second_lt with
    ⟨secondDigits, secondZeros, secondEq, secondWidth, areSecondDigits, secondValue⟩
  rw [secondEq]
  by_cases whole : first = 0
  · subst whole
    exact List.cons_lt_cons_iff.mpr (Or.inl (by decide))
  · rcases exists_fraction whole (by omega) with
      ⟨firstDigits, firstZeros, firstEq, firstWidth, areFirstDigits, firstValue⟩
    rw [firstEq, List.cons_append, List.cons_append, List.cons_lt_cons_iff]
    refine Or.inr ⟨rfl, append_sign_lt (firstWidth.trans secondWidth.symm) areFirstDigits
      areSecondDigits ?_ rest⟩
    have withZeros : ∀ {digits : List Char} (zeros : Nat), (∀ c ∈ digits, c.isDigit = true) →
        ∀ c ∈ digits ++ List.replicate zeros '0', c.isDigit = true := by
      intro digits zeros areDigits c mem
      rcases List.mem_append.mp mem with inDigits | isZero
      · exact areDigits c inDigits
      · rw [List.eq_of_mem_replicate isZero]
        decide
    refine lt_of_digitsValue_lt ?_ (withZeros _ areFirstDigits) (withZeros _ areSecondDigits) ?_
    · simp only [List.length_append, List.length_replicate, firstWidth, secondWidth]
    · rwa [firstValue, secondValue]

/-! ## Whole times -/

/-- The year, month, day, hour, minute and second of one moment come before those of another, or
they are the same and the fraction does. -/
def FieldsBefore (first second : Moment) : Prop :=
  (Calendar.Date.ofDay first.day).Precedes (Calendar.Date.ofDay second.day) ∨
  first.day = second.day ∧
    (first.secondOfDay / 3600 < second.secondOfDay / 3600 ∨
    first.secondOfDay / 3600 = second.secondOfDay / 3600 ∧
      (first.secondOfDay / 60 % 60 < second.secondOfDay / 60 % 60 ∨
      first.secondOfDay / 60 % 60 = second.secondOfDay / 60 % 60 ∧
        (first.secondOfDay % 60 + first.nanos / 1000000000 <
          second.secondOfDay % 60 + second.nanos / 1000000000 ∨
        first.secondOfDay % 60 + first.nanos / 1000000000 =
          second.secondOfDay % 60 + second.nanos / 1000000000 ∧
          first.nanos % 1000000000 < second.nanos % 1000000000)))

/-- A leap second is written as the sixtieth second of the last minute before the next. -/
theorem fieldsBefore_of_before {first second : Moment} (before : first.Before second) :
    FieldsBefore first second := by
  have firstLeap := first.leap_last
  have secondLeap := second.leap_last
  have firstNanos := first.nanos_lt
  have secondNanos := second.nanos_lt
  rcases Int.lt_or_le first.day second.day with earlierDay | notEarlier
  · exact Or.inl (Calendar.Date.precedes_ofDay earlierDay)
  · right
    simp only [Moment.Before, Moment.day, Moment.secondOfDay] at *
    omega

theorem storedText_lt_of_fieldsBefore {first second : Moment} (order : FieldsBefore first second)
    (firstYear : 0 ≤ first.year ∧ first.year ≤ 9999)
    (secondYear : 0 ≤ second.year ∧ second.year ≤ 9999) :
    storedText first < storedText second := by
  have narrow : ∀ moment : Moment, (Calendar.Date.ofDay moment.day).month < 10 ^ 2 ∧
      (Calendar.Date.ofDay moment.day).day < 10 ^ 2 ∧ moment.secondOfDay < 86400 ∧
      moment.nanos / 1000000000 < 2 := by
    intro moment
    have days_le := Calendar.daysInMonth_le (Calendar.Date.ofDay moment.day).year
      (Calendar.Date.ofDay moment.day).month
    rcases Calendar.exists_ofDay moment.day with ⟨-, month_le, -, day_le⟩
    have nanos_lt := moment.nanos_lt
    simp only [Moment.secondOfDay]
    omega
  have cons : ∀ {c : Char} {first second : List Char}, first < second →
      c :: first < c :: second := fun lt => List.cons_lt_cons_iff.mpr (Or.inr ⟨rfl, lt⟩)
  rcases narrow first with ⟨firstMonth, firstDay, firstSecond, firstLeap⟩
  rcases narrow second with ⟨secondMonth, secondDay, secondSecond, secondLeap⟩
  rw [String.lt_iff, storedText, toList_write _ _ firstYear.1 firstYear.2,
    toList_write _ _ secondYear.1 secondYear.2, fields, fields]
  refine padded_append_lt (by decide) (by omega) (by omega) ?_
  rcases order with (year | ⟨sameYear, month | ⟨sameMonth, day⟩⟩) | ⟨sameDay, clock⟩
  · have earlierYear : first.year < second.year := year
    exact Or.inl (by omega)
  · refine Or.inr ⟨congrArg Int.toNat sameYear, cons ?_⟩
    exact padded_append_lt (by decide) firstMonth secondMonth (Or.inl month)
  · rw [sameMonth]
    refine Or.inr ⟨congrArg Int.toNat sameYear, cons (List.append_left_lt (cons ?_))⟩
    exact padded_append_lt (by decide) firstDay secondDay (Or.inl day)
  · rw [sameDay]
    refine Or.inr ⟨?_, cons (List.append_left_lt (cons (List.append_left_lt (cons ?_))))⟩
    · simp only [Moment.year, sameDay]
    refine padded_append_lt (by decide) (by omega) (by omega)
      (clock.imp_right (And.imp_right fun clock => cons ?_))
    refine padded_append_lt (by decide) (by omega) (by omega)
      (clock.imp_right (And.imp_right fun clock => cons ?_))
    refine padded_append_lt (by decide) (by omega) (by omega)
      (clock.imp_right (And.imp_right fun nanos => ?_))
    exact fractionText_lt nanos (by omega) _

/-- The earlier of two moments whose years have four digits has the text that comes first. -/
theorem storedText_lt {first second : Moment} (before : first.Before second)
    (firstYear : 0 ≤ first.year ∧ first.year ≤ 9999)
    (secondYear : 0 ≤ second.year ∧ second.year ≤ 9999) :
    storedText first < storedText second :=
  storedText_lt_of_fieldsBefore (fieldsBefore_of_before before) firstYear secondYear

/-- Texts of moments whose years have four digits are in the order of the moments. -/
theorem storedText_lt_iff {first second : Moment}
    (firstYear : 0 ≤ first.year ∧ first.year ≤ 9999)
    (secondYear : 0 ≤ second.year ∧ second.year ≤ 9999) :
    storedText first < storedText second ↔ first.Before second := by
  refine ⟨?_, fun before => storedText_lt before firstYear secondYear⟩
  intro lt
  rcases Moment.before_trichotomy first second with before | rfl | after
  · exact before
  · exact absurd lt (String.lt_irrefl _)
  · exact absurd (String.lt_trans lt (storedText_lt after secondYear firstYear))
      (String.lt_irrefl _)

theorem storedText_inj {first second : Moment}
    (firstYear : 0 ≤ first.year ∧ first.year ≤ 9999)
    (secondYear : 0 ≤ second.year ∧ second.year ≤ 9999) :
    storedText first = storedText second ↔ first = second := by
  refine ⟨?_, congrArg storedText⟩
  intro same
  have read := readStrict_storedText first
  rw [same, readStrict_storedText, if_pos firstYear, if_pos secondYear] at read
  exact (Option.some.inj read).symm

end Timestamp

end MessageSync
