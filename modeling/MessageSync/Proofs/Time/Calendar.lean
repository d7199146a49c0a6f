import MessageSync.Time.Calendar

/-!
# The calendar counts every day once

The number of the date of a day is that day, and the date exists. The proof takes the day of a
four-hundred-year era apart into centuries, four-year cycles and years. The formula for the year of
an era corrects the day count for the leap days before it, and these parts show that the correction
is exact, including on the last day of a century and of the era.
-/

namespace MessageSync

namespace Calendar

/-- The day of an era as its century, its four-year cycle, the year of that and the day of the
year, all counted from zero. A year has a last day beyond 365 only as the last of its cycle, and the
last cycle of a century only in the last century. -/
structure EraDay (dayOfEra century cycle year day : Int) : Prop where
  sum : dayOfEra = 36524 * century + 1461 * cycle + 365 * year + day
  century_nonneg : 0 ≤ century
  century_le : century ≤ 3
  cycle_nonneg : 0 ≤ cycle
  cycle_le : cycle ≤ 24
  year_nonneg : 0 ≤ year
  year_le : year ≤ 3
  day_nonneg : 0 ≤ day
  day_le : day ≤ 365
  leap : day = 365 → year = 3 ∧ (cycle = 24 → century = 3)

theorem exists_eraDay (dayOfEra : Int) (nonneg : 0 ≤ dayOfEra) (below : dayOfEra < 146097) :
    ∃ century cycle year day, EraDay dayOfEra century cycle year day := by
  have centuryPart : ∃ century rest, dayOfEra = 36524 * century + rest ∧ 0 ≤ century ∧
      century ≤ 3 ∧ 0 ≤ rest ∧ rest ≤ 36524 ∧ (rest = 36524 → century = 3) :=
    ⟨min (dayOfEra / 36524) 3, dayOfEra - 36524 * min (dayOfEra / 36524) 3, by omega⟩
  rcases centuryPart with ⟨century, rest, rfl, century_nonneg, century_le, _, _, last⟩
  have yearPart : ∃ year day, rest % 1461 = 365 * year + day ∧ 0 ≤ year ∧ year ≤ 3 ∧ 0 ≤ day ∧
      day ≤ 365 ∧ (day = 365 → year = 3) :=
    ⟨min (rest % 1461 / 365) 3, rest % 1461 - 365 * min (rest % 1461 / 365) 3, by omega⟩
  rcases yearPart with ⟨year, day, split, year_nonneg, year_le, day_nonneg, day_le, leap⟩
  refine ⟨century, rest / 1461, year, day, ?_⟩
  constructor <;> omega

namespace EraDay

variable {dayOfEra century cycle year day : Int}

/-- Only on the last day of an era does its number count a century too many. -/
theorem centuries (parts : EraDay dayOfEra century cycle year day) :
    dayOfEra / 36524 = century + dayOfEra / 146096 := by
  rcases parts with ⟨rfl, _, _, _, _, _, _, _, _, leap⟩
  by_cases last : century = 3 ∧ cycle = 24 ∧ year = 3 ∧ day = 365
  · rcases last with ⟨rfl, rfl, rfl, rfl⟩
    decide
  · have within : 1461 * cycle + 365 * year + day < 36524 := by omega
    have noEra : (36524 * century + 1461 * cycle + 365 * year + day) / 146096 = 0 := by omega
    rw [noEra]
    omega

/-- The number of leap days before a day, one too many near the end of a cycle. -/
theorem cycles (parts : EraDay dayOfEra century cycle year day) :
    dayOfEra / 1460 = 25 * century + cycle +
      if 1460 ≤ 24 * century + cycle + 365 * year + day then 1 else 0 := by
  rcases parts with ⟨rfl, _, _, _, _, _, _, _, _, leap⟩
  split <;> omega

theorem yearOfEra (parts : EraDay dayOfEra century cycle year day) :
    (dayOfEra - dayOfEra / 1460 + dayOfEra / 36524 - dayOfEra / 146096) / 365 =
      100 * century + 4 * cycle + year := by
  rw [parts.cycles, parts.centuries]
  rcases parts with ⟨rfl, _, _, _, _, _, _, _, _, leap⟩
  split <;> omega

theorem daysBefore (parts : EraDay dayOfEra century cycle year day) :
    365 * (100 * century + 4 * cycle + year) + (100 * century + 4 * cycle + year) / 4 -
      (100 * century + 4 * cycle + year) / 100 = dayOfEra - day := by
  rcases parts with ⟨rfl, _, _, _, _, _, _, _, _, leap⟩
  omega

/-- A year with a last day beyond 365 ends in a February of 29 days. -/
theorem isLeapYear (parts : EraDay dayOfEra century cycle year day) (last : day = 365)
    (era : Int) : IsLeapYear (100 * century + 4 * cycle + year + era * 400 + 1) := by
  rcases parts with ⟨-, _, _, _, _, _, _, _, _, leap⟩
  rcases leap last with ⟨rfl, cycleLast⟩
  simp only [IsLeapYear]
  omega

end EraDay

/-- The date of a day, from the parts of the day of its era. -/
theorem ofDay_eq {day century cycle year dayOfYear : Int}
    (parts : EraDay ((day + 719468) % 146097) century cycle year dayOfYear) :
    Date.ofDay day =
      let fromMarch := (5 * dayOfYear + 2) / 153
      let month := if fromMarch < 10 then fromMarch + 3 else fromMarch - 9
      let marchYear := 100 * century + 4 * cycle + year + (day + 719468) / 146097 * 400
      ⟨if month ≤ 2 then marchYear + 1 else marchYear, month.toNat,
        (dayOfYear - (153 * fromMarch + 2) / 5 + 1).toNat⟩ := by
  have remaining : (day + 719468) % 146097 - ((day + 719468) % 146097 - dayOfYear) =
      dayOfYear := by omega
  simp only [Date.ofDay, parts.yearOfEra, parts.daysBefore, remaining]

/-- The number of a month counts it from March again. -/
theorem month_cases {fromMarch month : Int}
    (monthEq : (if fromMarch < 10 then fromMarch + 3 else fromMarch - 9) = month)
    (nonneg : 0 ≤ fromMarch) (le : fromMarch ≤ 11) :
    (month.toNat + 9 : Int) % 12 = fromMarch ∧ 1 ≤ month ∧ month ≤ 12 := by
  split at monthEq <;> omega

/-- From March to January, the months have the days that the rule for the day of the year gives
them. -/
theorem daysInMonth_of_march {fromMarch : Int} (year : Int) (nonneg : 0 ≤ fromMarch)
    (le : fromMarch ≤ 10) :
    (daysInMonth year (if fromMarch < 10 then fromMarch + 3 else fromMarch - 9).toNat : Int) =
      (153 * (fromMarch + 1) + 2) / 5 - (153 * fromMarch + 2) / 5 := by
  obtain rfl | rfl | rfl | rfl | rfl | rfl | rfl | rfl | rfl | rfl | rfl :
      fromMarch = 0 ∨ fromMarch = 1 ∨ fromMarch = 2 ∨ fromMarch = 3 ∨ fromMarch = 4 ∨
        fromMarch = 5 ∨ fromMarch = 6 ∨ fromMarch = 7 ∨ fromMarch = 8 ∨ fromMarch = 9 ∨
        fromMarch = 10 := by omega
  all_goals rfl

theorem daysInMonth_le (year : Int) (month : Nat) : daysInMonth year month ≤ 31 := by
  simp only [daysInMonth]
  split
  · split <;> decide
  · split <;> decide

/-- Dates count days without gaps or repetition. -/
theorem toDay_ofDay (day : Int) : (Date.ofDay day).toDay = day := by
  rcases exists_eraDay ((day + 719468) % 146097) (by omega) (by omega) with
    ⟨century, cycle, year, dayOfYear, parts⟩
  have before := parts.daysBefore
  simp only [ofDay_eq parts]
  rcases parts with ⟨-, _, _, _, _, _, _, _, _, -⟩
  have march_nonneg : 0 ≤ (5 * dayOfYear + 2) / 153 := by omega
  have march_le : (5 * dayOfYear + 2) / 153 ≤ 11 := by omega
  generalize marchEq : (5 * dayOfYear + 2) / 153 = fromMarch at march_nonneg march_le ⊢
  generalize monthEq : (if fromMarch < 10 then fromMarch + 3 else fromMarch - 9) = month
  rcases month_cases monthEq march_nonneg march_le with ⟨marchAgain, month_pos, _⟩
  generalize yearEq : 100 * century + 4 * cycle + year = yearOfEra at before ⊢
  generalize eraEq : (day + 719468) / 146097 = era
  -- The year of a date begins in January; turning it back into one from March drops the step.
  have yearAgain : (if month.toNat ≤ 2 then
      (if month ≤ 2 then yearOfEra + era * 400 + 1 else yearOfEra + era * 400) - 1
      else if month ≤ 2 then yearOfEra + era * 400 + 1 else yearOfEra + era * 400) =
      yearOfEra + era * 400 := by
    split <;> split <;> omega
  have eraAgain : (yearOfEra + era * 400) / 400 = era := by omega
  have yearOfEraAgain : (yearOfEra + era * 400) % 400 = yearOfEra := by omega
  have dayAgain : (153 * fromMarch + 2) / 5 +
      (dayOfYear - (153 * fromMarch + 2) / 5 + 1).toNat - 1 = dayOfYear := by omega
  simp only [Date.toDay, marchAgain, dayAgain, yearAgain, eraAgain, yearOfEraAgain]
  omega

/-- The date of a day is one that the calendar has. -/
theorem exists_ofDay (day : Int) : (Date.ofDay day).Exists := by
  rcases exists_eraDay ((day + 719468) % 146097) (by omega) (by omega) with
    ⟨century, cycle, year, dayOfYear, parts⟩
  have leapYear := fun last => parts.isLeapYear last ((day + 719468) / 146097)
  simp only [ofDay_eq parts, Date.Exists]
  rcases parts with ⟨-, _, _, _, _, _, _, _, _, -⟩
  have march_nonneg : 0 ≤ (5 * dayOfYear + 2) / 153 := by omega
  have march_le : (5 * dayOfYear + 2) / 153 ≤ 11 := by omega
  generalize marchEq : (5 * dayOfYear + 2) / 153 = fromMarch at march_nonneg march_le ⊢
  generalize 100 * century + 4 * cycle + year + (day + 719468) / 146097 * 400 = marchYear
    at leapYear ⊢
  rcases month_cases rfl march_nonneg march_le with ⟨-, month_pos, month_le⟩
  refine ⟨by omega, by omega, by omega, ?_⟩
  by_cases february : fromMarch = 11
  · subst february
    have days : daysInMonth (marchYear + 1) 2 = if IsLeapYear (marchYear + 1) then 29 else 28 := rfl
    change (dayOfYear - (153 * 11 + 2) / 5 + 1).toNat ≤ daysInMonth (marchYear + 1) 2
    rw [days]
    split
    · omega
    · have notLast : dayOfYear ≠ 365 := fun last => ‹¬_› (leapYear last)
      omega
  · have days := daysInMonth_of_march
      (if (if fromMarch < 10 then fromMarch + 3 else fromMarch - 9) ≤ 2 then marchYear + 1
        else marchYear) march_nonneg (by omega)
    omega

end Calendar

end MessageSync
