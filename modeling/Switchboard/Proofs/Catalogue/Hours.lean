import Switchboard.Proofs.Catalogue.Rules

/-! When a group is open. All that matters of a time and of the hours between the desk and universal time is the
minute of the week which they make, and of a group the windows of its rules. -/
namespace Switchboard

theorem readClock_lt {text : String} {minute : Nat} (read : readClock text = some minute) : minute < 1440 := by
  unfold readClock at read
  simp only [bind, Option.bind_eq_some_iff] at read
  obtain ⟨⟨hour, rest⟩, -, read⟩ := read
  split at read
  · obtain ⟨⟨minutes, rest⟩, -, read⟩ := Option.bind_eq_some_iff.1 read
    simp only [Option.ite_none_right_eq_some, Bool.and_eq_true, decide_eq_true_eq, Option.some.injEq] at read
    omega
  · contradiction

structure DayRule.Spans (rule : DayRule) (first last : Nat) : Prop where
  active : rule.active = true
  opening : readClock rule.opening = some first
  closing : readClock rule.closing = some last

theorem DayRule.contains_iff {rule : DayRule} {minute : Nat} : rule.contains minute = true ↔
    ∃ first last, rule.Spans first last ∧ first ≤ minute ∧ minute ≤ last := by
  constructor
  · intro inside
    unfold contains at inside
    split at inside
    · rename_i first last opening closing
      simp only [Bool.and_eq_true, decide_eq_true_eq] at inside
      exact ⟨first, last, ⟨inside.1.1, opening, closing⟩, inside.1.2, inside.2⟩
    · contradiction
  · rintro ⟨first, last, ⟨active, opening, closing⟩, after, before⟩
    simp only [contains, opening, closing, active, after, before, decide_true, Bool.and_self]

namespace ScheduleGroup

variable {group : ScheduleGroup} {here t u : Instant} {hours : Int}

theorem isOpen_iff (agree : group.RulesAgree) : group.isOpen here = true ↔
    ∃ rule first last, group.HasRule here.weekday rule ∧ rule.Spans first last ∧
      first ≤ here.minuteOfDay ∧ here.minuteOfDay ≤ last := by
  simp only [isOpen_eq, Option.any_eq_true, ruleFor_eq_some_iff agree, DayRule.contains_iff, exists_and_left]

/-- A rule for the weekday has that minute of the week in its window. -/
def OpensAt (group : ScheduleGroup) (minute : Nat) : Prop :=
  ∃ rule first last, group.HasRule (.ofIndex (minute / 1440)) rule ∧ rule.Spans first last ∧
    first ≤ minute % 1440 ∧ minute % 1440 ≤ last

theorem isOpen_localTime_iff (agree : group.RulesAgree) (t : Instant) (hours : Int) :
    group.isOpen (localTime t hours) = true ↔ group.OpensAt (t.minuteOfWeek hours) := by
  rw [isOpen_iff agree, localTime, t.weekday_addHours, t.minuteOfDay_addHours]
  rfl

theorem isOpen_of_minuteOfWeek (same : t.minuteOfWeek hours = u.minuteOfWeek hours) :
    group.isOpen (localTime t hours) = group.isOpen (localTime u hours) := by
  simp only [isOpen_eq, localTime, Instant.weekday_addHours, Instant.minuteOfDay_addHours, same]

theorem open_in_one_window (agree : group.RulesAgree) (day : Weekday) :
    (∀ here : Instant, here.weekday = day → group.isOpen here = false) ∨
    ∃ first last, first ≤ last ∧ last < 1440 ∧ ∀ here : Instant, here.weekday = day →
      (group.isOpen here = true ↔ first ≤ here.minuteOfDay ∧ here.minuteOfDay ≤ last) := by
  by_cases window : ∃ rule first last, group.HasRule day rule ∧ rule.Spans first last ∧ first ≤ last
  · obtain ⟨rule, first, last, has, spans, forwards⟩ := window
    refine .inr ⟨first, last, forwards, readClock_lt spans.closing, fun here isDay => ?_⟩
    subst isDay
    rw [isOpen_iff agree]
    refine ⟨?_, fun inside => ⟨rule, first, last, has, spans, inside⟩⟩
    rintro ⟨rule', first', last', has', spans', inside⟩
    obtain rfl := agree _ _ _ has has'
    obtain rfl := Option.some.inj (spans.opening.symm.trans spans'.opening)
    obtain rfl := Option.some.inj (spans.closing.symm.trans spans'.closing)
    exact inside
  · refine .inl fun here isDay => Bool.eq_false_iff.2 fun opened => window ?_
    obtain ⟨rule, first, last, has, spans, after, before⟩ := (isOpen_iff agree).1 opened
    exact ⟨rule, first, last, isDay ▸ has, spans, Nat.le_trans after before⟩

theorem closed_of_backwards (agree : group.RulesAgree) {rule : DayRule} {first last : Nat}
    (has : group.HasRule here.weekday rule) (opening : readClock rule.opening = some first)
    (closing : readClock rule.closing = some last) (backwards : last < first) : group.isOpen here = false := by
  refine Bool.eq_false_iff.2 fun opened => ?_
  obtain ⟨rule', first', last', has', spans, after, before⟩ := (isOpen_iff agree).1 opened
  obtain rfl := agree _ _ _ has has'
  obtain rfl := Option.some.inj (opening.symm.trans spans.opening)
  obtain rfl := Option.some.inj (closing.symm.trans spans.closing)
  omega

/-- The answer of a group at a time, for a desk whose clock is so many hours ahead of universal time. -/
structure KeepsHours (group : ScheduleGroup) (t : Instant) (hours : Int) : Prop where
  dated : Timestamp.inRange (localTime t hours).date = true
  /-- Minutes count from the last Monday. -/
  counted : ∃ monday : Instant, monday.weekday = .monday ∧ monday.secondOfDay = 0 ∧
    monday.seconds ≤ (t.seenFrom hours).seconds ∧ (t.seenFrom hours).seconds < monday.seconds + 604800 ∧
    (t.minuteOfWeek hours : Int) = (((t.seenFrom hours).seconds - monday.seconds) / 60 + 60 * hours) % 10080
  opens : group.isOpen (localTime t hours) = true ↔ group.OpensAt (t.minuteOfWeek hours)
  weekly : ∀ weeks, group.isOpen (localTime ⟨t.seconds + 604800 * weeks, t.nanos⟩ hours) =
    group.isOpen (localTime t hours)
  steady : ∀ u : Instant, (u.seenFrom hours).seconds / 60 = (t.seenFrom hours).seconds / 60 →
    group.isOpen (localTime u hours) = group.isOpen (localTime t hours)
  /-- Each weekday has one window, if any, and its ends belong to it. -/
  window : ∀ day : Weekday, (∀ here : Instant, here.weekday = day → group.isOpen here = false) ∨
    ∃ first last, first ≤ last ∧ last < 1440 ∧ ∀ here : Instant, here.weekday = day →
      (group.isOpen here = true ↔ first ≤ here.minuteOfDay ∧ here.minuteOfDay ≤ last)
  backwards : ∀ (here : Instant) rule first last, group.HasRule here.weekday rule →
    readClock rule.opening = some first → readClock rule.closing = some last → last < first →
      group.isOpen here = false

theorem open_by_minute_of_week (names : group.OneNameADay) (years : 0 ≤ t.date.year ∧ t.date.year ≤ 9999)
    (word : -2147483648 ≤ hours ∧ hours ≤ 2147483647) : group.KeepsHours t hours where
  dated := Instant.inRange_addHours years word
  counted := by
    obtain ⟨isMonday, midnight, begun, recent⟩ := (t.seenFrom hours).lastMonday_isMonday 0
    refine ⟨_, isMonday, midnight, begun, recent, ?_⟩
    unfold Instant.minuteOfWeek Instant.sinceMonday
    exact Int.toNat_of_nonneg (Int.emod_nonneg _ (by decide))
  opens := isOpen_localTime_iff names.rulesAgree t hours
  weekly weeks := isOpen_of_minuteOfWeek (t.minuteOfWeek_weeks hours weeks)
  steady u same := by
    have here := t.minuteOfWeek_eq hours
    have there := u.minuteOfWeek_eq hours
    rw [same, ← here] at there
    exact isOpen_of_minuteOfWeek (Int.ofNat.inj there)
  window := open_in_one_window names.rulesAgree
  backwards _ _ _ _ has opening closing := closed_of_backwards names.rulesAgree has opening closing

def onOneDay (name opening closing : String) : ScheduleGroup :=
  ⟨"g", "", ⟨[(name, .opened opening closing)], by simp⟩⟩

theorem onOneDay_names (name opening closing : String) : (onOneDay name opening closing).OneNameADay := by
  simp [OneNameADay, Dict.keys, onOneDay]

/-- Early on Monday, 2024-01-01, it is still Sunday three hours further west. -/
theorem sunday_evening_further_west :
    (onOneDay "Domingo" "22:00" "22:30").OneNameADay ∧
    (onOneDay "Domingo" "22:00" "22:30").KeepsHours ⟨1704072600, 0⟩ (-3) ∧
    (⟨1704072600, 0⟩ : Instant).minuteOfWeek (-3) = 9990 ∧
    (onOneDay "Domingo" "22:00" "22:30").isOpen (localTime ⟨1704072600, 0⟩ (-3)) = true :=
  ⟨onOneDay_names _ _ _, open_by_minute_of_week (onOneDay_names _ _ _) (by decide) (by decide), by rfl, by rfl⟩

/-- In the last minute before nine, a leap second is nine already, and the clock is ahead of the count of
minutes. -/
theorem leap_second_ahead_of_count :
    (onOneDay "sat" "20:00" "20:59").OneNameADay ∧
    Timestamp.read "2016-12-31T23:59:60Z" = some ⟨1483228799, 1000000000⟩ ∧
    ¬ ((onOneDay "sat" "20:00" "20:59").isOpen (localTime ⟨1483228799, 1000000000⟩ (-3)) = true ↔
      (onOneDay "sat" "20:00" "20:59").OpensAt
        (((⟨1483228799, 1000000000⟩ : Instant).sinceMonday + 60 * (-3)) % 10080).toNat) := by
  refine ⟨onOneDay_names _ _ _, by rfl, fun same => ?_⟩
  have closed : (onOneDay "sat" "20:00" "20:59").isOpen (localTime ⟨1483228799, 1000000000⟩ (-3)) = false := by rfl
  refine Bool.eq_false_iff.1 closed (same.2 ⟨.opened "20:00" "20:59", 1200, 1259, ⟨"sat", ?_, ?_⟩, ⟨?_, ?_, ?_⟩, ?_⟩)
  · exact List.mem_singleton.2 rfl
  all_goals decide +kernel

end ScheduleGroup
end Switchboard
