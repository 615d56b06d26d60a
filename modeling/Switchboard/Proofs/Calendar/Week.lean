import Switchboard.Proofs.Calendar.Days
import Switchboard.Calendar.Timestamp

/-! Minutes of the week. They are counted from Monday on, and a clock that is some hours away shows so many
minutes more in the same count. Only in a leap second do clocks disagree about the minute: one that is set back
takes it for the first second of the next minute, all others for one more second of this one. -/
namespace Switchboard

theorem Weekday.index_ofIndex {n : Nat} (few : n < 7) : (ofIndex n).index = n := by
  match n, few with
  | 0, _ | 1, _ | 2, _ | 3, _ | 4, _ | 5, _ | 6, _ => rfl

namespace Instant

variable {t u : Instant} {hours : Int}

def lastMonday (t : Instant) : Int := secondsPerDay * (t.days - t.weekday.index)

/-- Minutes that have passed since then, rounded down. -/
def sinceMonday (t : Instant) : Int := (t.seconds - t.lastMonday) / 60

/-- The moment as a clock so many hours away sees it. In a leap second, one that is set back is a second
ahead. -/
def seenFrom (t : Instant) (hours : Int) : Instant :=
  if nanosPerSecond ≤ t.nanos ∧ hours < 0 then ⟨t.seconds + 1, t.nanos - nanosPerSecond⟩ else t

def minuteOfWeek (t : Instant) (hours : Int) : Nat :=
  (((t.seenFrom hours).sinceMonday + 60 * hours) % 10080).toNat

theorem seenFrom_of_plain (plain : t.nanos < nanosPerSecond) : t.seenFrom hours = t :=
  if_neg fun both => absurd both.1 (Nat.not_le_of_lt plain)

theorem index_weekday (t : Instant) : (t.weekday.index : Int) = (t.days + 3) % 7 := by
  unfold weekday Date.weekdayOfDays
  rw [Weekday.index_ofIndex (by omega)]
  omega

theorem weekday_eq (t : Instant) {n : Nat} (index : (t.days + 3) % 7 = n) : t.weekday = .ofIndex n := by
  unfold weekday Date.weekdayOfDays
  rw [index]
  rfl

/-- Weeks begin four days after 1970-01-01. -/
theorem sinceMonday_eq (t : Instant) : t.sinceMonday = (t.seconds + 259200) % 604800 / 60 := by
  have index := t.index_weekday
  unfold sinceMonday lastMonday
  unfold days secondsPerDay at *
  omega

section Midnight

variable (day : Int) (nanos : Nat)

theorem days_midnight : (⟨secondsPerDay * day, nanos⟩ : Instant).days = day :=
  Int.mul_ediv_cancel_left day (by decide)

theorem secondOfDay_midnight : (⟨secondsPerDay * day, nanos⟩ : Instant).secondOfDay = 0 :=
  congrArg Int.toNat (Int.mul_emod_right ..)

end Midnight

theorem lastMonday_isMonday (t : Instant) (nanos : Nat) :
    (⟨t.lastMonday, nanos⟩ : Instant).weekday = .monday ∧ (⟨t.lastMonday, nanos⟩ : Instant).secondOfDay = 0 ∧
      t.lastMonday ≤ t.seconds ∧ t.seconds < t.lastMonday + 604800 := by
  have index := t.index_weekday
  refine ⟨weekday_eq (n := 0) _ ?_, secondOfDay_midnight .., ?_⟩
  · rw [lastMonday, days_midnight]
    omega
  · unfold lastMonday
    unfold days secondsPerDay at *
    omega

theorem seconds_addHours (t : Instant) (hours : Int) :
    (t.addHours hours).seconds = (t.seenFrom hours).seconds + 3600 * hours := by
  unfold addHours addSeconds
  by_cases plain : t.nanos < nanosPerSecond
  · simp [plain, seenFrom_of_plain plain]
  · have leap : nanosPerSecond ≤ t.nanos := Nat.le_of_not_lt plain
    obtain back | rfl | forth := Int.lt_trichotomy hours 0
    · have moves : 3600 * hours ≠ 0 ∧ 3600 * hours < 0 := by omega
      rw [if_neg (by simp [plain, moves.1]), if_pos moves.2, seenFrom, if_pos ⟨leap, back⟩]
      dsimp only
      omega
    · simp [seenFrom]
    · have moves : 3600 * hours ≠ 0 ∧ ¬ 3600 * hours < 0 ∧ ¬ hours < 0 := by omega
      simp [seenFrom, plain, moves]

theorem minuteOfWeek_eq (t : Instant) (hours : Int) :
    (t.minuteOfWeek hours : Int) = ((t.seenFrom hours).seconds / 60 + 4320 + 60 * hours) % 10080 := by
  rw [minuteOfWeek, sinceMonday_eq]
  omega

theorem minuteOfWeek_weeks (t : Instant) (hours weeks : Int) :
    (⟨t.seconds + 604800 * weeks, t.nanos⟩ : Instant).minuteOfWeek hours = t.minuteOfWeek hours := by
  have seen : ((⟨t.seconds + 604800 * weeks, t.nanos⟩ : Instant).seenFrom hours).seconds =
      (t.seenFrom hours).seconds + 604800 * weeks := by
    unfold seenFrom
    dsimp only
    split
    · exact Int.add_right_comm ..
    · rfl
  have here := t.minuteOfWeek_eq hours
  have there := minuteOfWeek_eq ⟨t.seconds + 604800 * weeks, t.nanos⟩ hours
  rw [seen] at there
  omega

theorem weekday_addHours (t : Instant) (hours : Int) :
    (t.addHours hours).weekday = .ofIndex (t.minuteOfWeek hours / 1440) := by
  apply weekday_eq
  rw [minuteOfWeek, sinceMonday_eq, days, seconds_addHours]
  unfold secondsPerDay
  omega

theorem minuteOfDay_addHours (t : Instant) (hours : Int) :
    (t.addHours hours).minuteOfDay = t.minuteOfWeek hours % 1440 := by
  rw [minuteOfDay, secondOfDay, minuteOfWeek, sinceMonday_eq, seconds_addHours]
  unfold secondsPerDay
  omega

theorem inRange_addHours (years : 0 ≤ t.date.year ∧ t.date.year ≤ 9999)
    (word : -2147483648 ≤ hours ∧ hours ≤ 2147483647) : Timestamp.inRange (t.addHours hours).date = true := by
  have here := Date.year_ofDays t.days
  have there := Date.year_ofDays (t.addHours hours).days
  have ahead : t.seconds ≤ (t.seenFrom hours).seconds ∧ (t.seenFrom hours).seconds ≤ t.seconds + 1 := by
    unfold seenFrom
    split
    · exact ⟨Int.le_add_one (Int.le_refl _), Int.le_refl _⟩
    · exact ⟨Int.le_refl _, Int.le_add_one (Int.le_refl _)⟩
  have moved := seconds_addHours t hours
  unfold date at *
  -- A signed word of hours is some 245000 years.
  have shift : -89478486 ≤ (t.addHours hours).days - t.days ∧ (t.addHours hours).days - t.days ≤ 89478486 := by
    unfold days secondsPerDay
    omega
  unfold Date.epoch Date.daysInEra at *
  simp only [Timestamp.inRange, Bool.and_eq_true, decide_eq_true_eq]
  omega

theorem exists_minute (day : Weekday) {minute : Nat} (inDay : minute < 1440) :
    ∃ t : Instant, t.weekday = day ∧ t.minuteOfDay = minute := by
  have index := day.index_lt
  refine ⟨⟨secondsPerDay * (day.index + 4) + 60 * minute, 0⟩, ?_, ?_⟩
  · rw [weekday_eq (n := day.index), Weekday.ofIndex_index]
    unfold days secondsPerDay
    dsimp only
    omega
  · unfold minuteOfDay secondOfDay secondsPerDay
    dsimp only
    omega

end Instant
end Switchboard
