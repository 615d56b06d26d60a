/-! The Gregorian calendar, extended without end in both directions. Days are counted from 1970-01-01;
years are taken to begin in March, so that the leap day is the last of its year. -/
namespace Switchboard

structure Date where
  year : Int
  month : Nat
  day : Nat
deriving DecidableEq, Repr

inductive Weekday
  | monday | tuesday | wednesday | thursday | friday | saturday | sunday
deriving DecidableEq, Repr, Inhabited

namespace Weekday

def index : Weekday → Nat
  | monday => 0 | tuesday => 1 | wednesday => 2 | thursday => 3
  | friday => 4 | saturday => 5 | sunday => 6

def ofIndex : Nat → Weekday
  | 0 => monday | 1 => tuesday | 2 => wednesday | 3 => thursday
  | 4 => friday | 5 => saturday | _ => sunday

def abbreviation : Weekday → String
  | monday => "Mon" | tuesday => "Tue" | wednesday => "Wed" | thursday => "Thu"
  | friday => "Fri" | saturday => "Sat" | sunday => "Sun"

@[simp] theorem ofIndex_index (day : Weekday) : ofIndex day.index = day := by
  cases day <;> rfl

theorem index_lt (day : Weekday) : day.index < 7 := by
  cases day <;> decide

end Weekday

namespace Date

/-- Days from 0000-03-01 to 1970-01-01. -/
def epoch : Int := 719468

def daysInEra : Nat := 146097

def isLeapYear (year : Int) : Bool :=
  year % 4 == 0 && (year % 100 != 0 || year % 400 == 0)

def daysInMonth (year : Int) : Nat → Nat
  | 2 => if isLeapYear year then 29 else 28
  | 4 | 6 | 9 | 11 => 30
  | _ => 31

def isValid (date : Date) : Bool :=
  1 ≤ date.month && date.month ≤ 12 && 1 ≤ date.day && date.day ≤ daysInMonth date.year date.month

/-- The date of a day. An era is 400 years. -/
def ofDays (days : Int) : Date :=
  let shifted := days + epoch
  let era := shifted / daysInEra
  let dayOfEra := (shifted % daysInEra).toNat
  let yearOfEra := (dayOfEra - dayOfEra / 1460 + dayOfEra / 36524 - dayOfEra / 146096) / 365
  let dayOfYear := dayOfEra - (365 * yearOfEra + yearOfEra / 4 - yearOfEra / 100)
  let shiftedMonth := (5 * dayOfYear + 2) / 153
  let month := if shiftedMonth < 10 then shiftedMonth + 3 else shiftedMonth - 9
  ⟨era * 400 + yearOfEra + (if month ≤ 2 then 1 else 0), month,
    dayOfYear - (153 * shiftedMonth + 2) / 5 + 1⟩

def toDays (date : Date) : Int :=
  let year := if date.month ≤ 2 then date.year - 1 else date.year
  let era := year / 400
  let yearOfEra := (year % 400).toNat
  let shiftedMonth := if 2 < date.month then date.month - 3 else date.month + 9
  let dayOfYear := (153 * shiftedMonth + 2) / 5 + date.day - 1
  let dayOfEra := yearOfEra * 365 + yearOfEra / 4 - yearOfEra / 100 + dayOfYear
  era * daysInEra + dayOfEra - epoch

/-- 1970-01-01 was a Thursday. -/
def weekdayOfDays (days : Int) : Weekday := .ofIndex ((days + 3) % 7).toNat

end Date
end Switchboard
