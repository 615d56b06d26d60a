import Mathlib.Tactic.IntervalCases
import Switchboard.Calendar.Date

/-! Days and dates. Four hundred years are four centuries, a century is twenty-five times four years, and
the last year of each is the one that may be longer; with years that begin in March, a day is found by
going down these cycles. Each day has one date, and it is a date of the calendar. -/
namespace Switchboard.Date

/-- The day of an era, counted through its centuries, spans of four years, years and days. The last cycle
of each kind may have a day more. -/
structure StandsAt (day century span year rest : Nat) : Prop where
  counts : day = 36524 * century + 1461 * span + 365 * year + rest
  century_le : century ≤ 3
  span_le : span ≤ 24
  year_le : year ≤ 3
  rest_le : rest ≤ 365
  leap : rest = 365 → year = 3 ∧ (span < 24 ∨ century = 3)

variable {days : Int} {day century span year rest : Nat}

theorem exists_standsAt (inEra : day < daysInEra) :
    ∃ century span year rest, StandsAt day century span year rest := by
  unfold daysInEra at inEra
  obtain ⟨century, inCentury, few, long, rfl⟩ : ∃ century inCentury, century ≤ 3 ∧
      (inCentury < 36524 ∨ century = 3 ∧ inCentury = 36524) ∧ day = 36524 * century + inCentury :=
    ⟨min (day / 36524) 3, day - 36524 * min (day / 36524) 3, by omega⟩
  obtain ⟨year, rest, few', long', same⟩ : ∃ year rest, year ≤ 3 ∧
      (rest < 365 ∨ year = 3 ∧ rest = 365) ∧ inCentury % 1461 = 365 * year + rest :=
    ⟨min (inCentury % 1461 / 365) 3, inCentury % 1461 - 365 * min (inCentury % 1461 / 365) 3, by omega⟩
  exact ⟨century, inCentury / 1461, year, rest, by omega, few, by omega, few', by omega, by omega⟩

namespace StandsAt

variable (stands : StandsAt day century span year rest)

include stands

/-- Only the last day of an era makes a century too long. -/
theorem div_century : day / 36524 = century + day / 146096 := by
  obtain ⟨counts, century_le, span_le, year_le, rest_le, leap⟩ := stands
  have long : 1461 * span + 365 * year + rest ≤ 36524 ∧
      (1461 * span + 365 * year + rest = 36524 → century = 3) := by omega
  generalize same : 1461 * span + 365 * year + rest = inCentury at long
  have day_eq : day = 36524 * century + inCentury := by omega
  clear same counts span_le year_le rest_le leap
  omega

theorem div_span : ∃ excess,
    day / 1460 = 25 * century + span + excess ∧ excess ≤ rest ∧ rest ≤ 364 + excess := by
  obtain ⟨counts, century_le, span_le, year_le, rest_le, leap⟩ := stands
  refine ⟨(24 * century + span + 365 * year + rest) / 1460, ?_, ?_, ?_⟩
  · rw [← Nat.mul_add_div (by decide)]
    congr 1
    omega
  · clear counts leap
    obtain rfl | some_ := Nat.eq_zero_or_pos rest
    · exact Nat.le_of_eq (Nat.div_eq_of_lt (by omega))
    · have : (24 * century + span + 365 * year + rest) / 1460 < 2 := Nat.div_lt_of_lt_mul (by omega)
      omega
  · clear counts
    -- A 366th day is the last one of its span.
    by_cases last : rest = 365
    · obtain ⟨rfl, -⟩ := leap last
      have : 1 ≤ (24 * century + span + 365 * 3 + rest) / 1460 :=
        (Nat.le_div_iff_mul_le (by decide)).2 (by omega)
      omega
    · omega

theorem yearOfEra : (day - day / 1460 + day / 36524 - day / 146096) / 365 =
    100 * century + 4 * span + year := by
  obtain ⟨excess, spans, low, high⟩ := stands.div_span
  have days : day - (25 * century + span + excess) + century =
      365 * (100 * century + 4 * span + year) + (rest - excess) := by
    have := stands.counts
    clear spans
    omega
  have small : rest - excess < 365 := by
    clear spans days
    omega
  rw [stands.div_century, spans, ← Nat.add_assoc, Nat.add_sub_cancel, days,
    Nat.mul_add_div (by decide), Nat.div_eq_of_lt small]
  rfl

theorem daysBefore : (100 * century + 4 * span + year) * 365 + (100 * century + 4 * span + year) / 4 -
    (100 * century + 4 * span + year) / 100 + rest = day := by
  obtain ⟨counts, -, span_le, year_le, -, -⟩ := stands
  omega

end StandsAt

/-- The month of the calendar, by its number in a year that begins in March. -/
def monthAt (shifted : Nat) : Nat := if shifted < 10 then shifted + 3 else shifted - 9

theorem ofDays_of_standsAt
    (stands : StandsAt ((days + epoch) % daysInEra).toNat century span year rest) :
    let shifted := (5 * rest + 2) / 153
    ofDays days = ⟨(days + epoch) / daysInEra * 400 + (100 * century + 4 * span + year : Nat) +
      (if monthAt shifted ≤ 2 then 1 else 0), monthAt shifted, rest - (153 * shifted + 2) / 5 + 1⟩ := by
  intro shifted
  have before := stands.daysBefore
  have dayOfYear : ((days + epoch) % daysInEra).toNat - (365 * (100 * century + 4 * span + year) +
      (100 * century + 4 * span + year) / 4 - (100 * century + 4 * span + year) / 100) = rest := by
    rw [Nat.mul_comm 365]
    omega
  unfold ofDays
  simp only [stands.yearOfEra, dayOfYear]
  rfl

theorem exists_days (days : Int) : ∃ century span year rest,
    StandsAt ((days + epoch) % daysInEra).toNat century span year rest := by
  refine exists_standsAt ?_
  unfold daysInEra
  omega

theorem shifted_le (inYear : rest ≤ 365) : (5 * rest + 2) / 153 ≤ 11 := by
  omega

theorem shifted_monthAt {shifted : Nat} (known : shifted ≤ 11) :
    (if 2 < monthAt shifted then monthAt shifted - 3 else monthAt shifted + 9) = shifted := by
  unfold monthAt
  split <;> split <;> omega

theorem toDays_ofDays (days : Int) : (ofDays days).toDays = days := by
  obtain ⟨century, span, year, rest, stands⟩ := exists_days days
  have before := stands.daysBefore
  have known := shifted_le stands.rest_le
  have month : (153 * ((5 * rest + 2) / 153) + 2) / 5 ≤ rest := by omega
  have inEra : 100 * century + 4 * span + year < 400 := by
    obtain ⟨-, century_le, span_le, year_le, -, -⟩ := stands
    omega
  rw [ofDays_of_standsAt stands]
  unfold toDays
  dsimp only
  rw [shifted_monthAt known]
  generalize 100 * century + 4 * span + year = years at *
  generalize (5 * rest + 2) / 153 = shifted at *
  have march (era : Int) : (if monthAt shifted ≤ 2
      then era * 400 + years + (if monthAt shifted ≤ 2 then 1 else 0) - 1
      else era * 400 + years + (if monthAt shifted ≤ 2 then 1 else 0)) = era * 400 + years := by
    split <;> omega
  have dayOfYear : (153 * shifted + 2) / 5 + (rest - (153 * shifted + 2) / 5 + 1) - 1 = rest := by
    omega
  have era : ((days + epoch) / daysInEra * 400 + years) / 400 = (days + epoch) / daysInEra := by
    omega
  have yearOfEra : (((days + epoch) / daysInEra * 400 + years) % 400).toNat = years := by
    omega
  rw [march, dayOfYear, era, yearOfEra, before]
  unfold daysInEra
  omega

theorem StandsAt.isLeapYear (stands : StandsAt day century span year 365) (era : Int) :
    isLeapYear (era * 400 + (100 * century + 4 * span + year : Nat) + 1) = true := by
  obtain ⟨rfl, short⟩ := stands.leap rfl
  have span_le := stands.span_le
  have four : (era * 400 + (100 * century + 4 * span + 3 : Nat) + 1) % 4 = 0 := by omega
  have exempt : (era * 400 + (100 * century + 4 * span + 3 : Nat) + 1) % 100 ≠ 0 ∨
      (era * 400 + (100 * century + 4 * span + 3 : Nat) + 1) % 400 = 0 := by
    obtain short | rfl := short <;> omega
  simp only [Date.isLeapYear, Bool.and_eq_true, Bool.or_eq_true, beq_iff_eq, bne_iff_ne]
  exact ⟨four, exempt⟩

theorem daysInMonth_monthAt {shifted : Nat} (known : shifted < 11) (year : Int) :
    daysInMonth year (monthAt shifted) = (153 * (shifted + 1) + 2) / 5 - (153 * shifted + 2) / 5 := by
  interval_cases shifted <;> rfl

theorem daysInMonth_le (year : Int) (month : Nat) : daysInMonth year month ≤ 31 := by
  unfold daysInMonth
  split
  · split <;> decide
  all_goals decide

theorem isValid_iff {date : Date} : date.isValid = true ↔
    (1 ≤ date.month ∧ date.month ≤ 12) ∧ 1 ≤ date.day ∧
      date.day ≤ daysInMonth date.year date.month := by
  simp [isValid, and_assoc]

theorem isValid_ofDays (days : Int) : (ofDays days).isValid = true := by
  obtain ⟨century, span, year, rest, stands⟩ := exists_days days
  have rest_le := stands.rest_le
  have known := shifted_le rest_le
  have inMonth : 153 * ((5 * rest + 2) / 153) ≤ 5 * rest + 2 ∧
      5 * rest + 2 < 153 * ((5 * rest + 2) / 153) + 153 := by omega
  rw [ofDays_of_standsAt stands, isValid_iff]
  dsimp only
  generalize (5 * rest + 2) / 153 = shifted at *
  refine ⟨?_, by omega, ?_⟩
  · unfold monthAt
    split <;> omega
  · obtain before | rfl := Nat.lt_or_eq_of_le known
    · rw [daysInMonth_monthAt before]
      omega
    · change _ ≤ if isLeapYear ((days + epoch) / daysInEra * 400 +
          (100 * century + 4 * span + year : Nat) + 1) then 29 else 28
      split
      · omega
      · rename_i common
        have short : rest ≠ 365 := by
          rintro rfl
          exact common (stands.isLeapYear _)
        omega

/-- An era's last year may be written as the first of the next, since it ends in February. -/
theorem year_ofDays (days : Int) : (days + epoch) / daysInEra * 400 ≤ (ofDays days).year ∧
    (ofDays days).year ≤ (days + epoch) / daysInEra * 400 + 400 := by
  obtain ⟨century, span, year, rest, stands⟩ := exists_days days
  rw [ofDays_of_standsAt stands]
  obtain ⟨-, century_le, span_le, year_le, -, -⟩ := stands
  dsimp only
  split <;> omega

end Switchboard.Date
