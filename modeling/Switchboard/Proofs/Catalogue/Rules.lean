import Mathlib.Data.List.Nodup
import Mathlib.Data.List.Perm.Basic
import Switchboard.Catalogue.Loading
import Switchboard.Proofs.Calendar.Week
import Switchboard.Proofs.Flow.Likeness
import Switchboard.Proofs.Success

/-! Which rule of a group applies. The rules of a group are looked through in some order for one under a name
of the weekday, and a weekday has many names. Where two names of a day stand with different rules, the order
decides; otherwise neither the rule nor a flow that asks for it can depend on the order. -/
namespace Switchboard
namespace ScheduleGroup

/-- A rule for the day stands in the group, under whatever name. -/
def HasRule (group : ScheduleGroup) (day : Weekday) (rule : DayRule) : Prop :=
  ∃ name, (name, rule) ∈ group.rules.entries ∧ Weekday.ofName name = some day

/-- The same group with its rules in some order. -/
structure Reorders (group other : ScheduleGroup) : Prop where
  id : other.id = group.id
  name : other.name = group.name
  rules : other.rules.entries.Perm group.rules.entries

theorem Reorders.refl (group : ScheduleGroup) : group.Reorders group := ⟨rfl, rfl, .refl _⟩

def RulesAgree (group : ScheduleGroup) : Prop :=
  ∀ day rule rule', group.HasRule day rule → group.HasRule day rule' → rule = rule'

def HoursAgree (group : ScheduleGroup) : Prop :=
  ∀ day rule rule', group.HasRule day rule → group.HasRule day rule' →
    ∀ minute < 1440, rule.contains minute = rule'.contains minute

/-- Something that is found out about a group does not depend on the order of its rules. -/
def SameInEveryOrder (group : ScheduleGroup) (found : ScheduleGroup → α) : Prop :=
  ∀ one other, group.Reorders one → group.Reorders other → found one = found other

def OneNameADay (group : ScheduleGroup) : Prop :=
  ∀ name ∈ group.rules.keys, ∀ name' ∈ group.rules.keys,
    (Weekday.ofName name).isSome → Weekday.ofName name = Weekday.ofName name' → name = name'

variable {group other : ScheduleGroup} {day : Weekday} {rule rule' : DayRule}

theorem Reorders.hasRule_iff (reorders : group.Reorders other) : other.HasRule day rule ↔ group.HasRule day rule := by
  unfold HasRule
  simp only [reorders.rules.mem_iff]

theorem hasRule_of_ruleFor (found : group.ruleFor day = some rule) : group.HasRule day rule := by
  obtain ⟨entry, first, rfl⟩ := Option.map_eq_some_iff.1 found
  have names := List.find?_some first
  rw [beq_iff_eq] at names
  exact ⟨entry.1, List.mem_of_find?_eq_some first, names⟩

theorem exists_ruleFor (has : group.HasRule day rule) : ∃ first, group.ruleFor day = some first := by
  obtain ⟨name, known, names⟩ := has
  have found : (group.rules.entries.find? fun rule => Weekday.ofName rule.1 == some day).isSome :=
    List.find?_isSome.2 ⟨_, known, beq_iff_eq.2 names⟩
  rw [← Option.isSome_iff_exists, ruleFor, Option.isSome_map]
  exact found

theorem ruleFor_eq_none_iff : group.ruleFor day = none ↔ ∀ rule, ¬ group.HasRule day rule := by
  constructor
  · intro absent rule has
    obtain ⟨first, found⟩ := exists_ruleFor has
    exact Option.some_ne_none first (found.symm.trans absent)
  · intro absent
    cases found : group.ruleFor day with
    | none => rfl
    | some rule => exact absurd (hasRule_of_ruleFor found) (absent rule)

theorem ruleFor_eq_some_iff (agree : group.RulesAgree) : group.ruleFor day = some rule ↔ group.HasRule day rule := by
  refine ⟨hasRule_of_ruleFor, fun has => ?_⟩
  obtain ⟨first, found⟩ := exists_ruleFor has
  rw [found, agree day first rule (hasRule_of_ruleFor found) has]

theorem exists_order (has : group.HasRule day rule) : ∃ other, group.Reorders other ∧ other.ruleFor day = some rule := by
  obtain ⟨name, known, names⟩ := has
  have perm := (List.perm_cons_erase known).symm
  refine ⟨⟨group.id, group.name, _, (perm.map Prod.fst).nodup_iff.2 group.rules.distinct⟩, ⟨rfl, rfl, perm⟩, ?_⟩
  unfold ruleFor
  dsimp only
  rw [List.find?_cons_of_pos (by rw [names, beq_self_eq_true]), Option.map_some]

theorem same_ruleFor_iff (found : Option DayRule → α) : group.SameInEveryOrder (fun g => found (g.ruleFor day)) ↔
    ∀ rule rule', group.HasRule day rule → group.HasRule day rule' → found (some rule) = found (some rule') := by
  constructor
  · -- Each of the two rules comes first in an order of its own.
    intro same rule rule' has has'
    obtain ⟨one, orders, first⟩ := exists_order has
    obtain ⟨other, orders', first'⟩ := exists_order has'
    simpa only [first, first'] using same one other orders orders'
  · intro same one other orders orders'
    dsimp only
    cases first : one.ruleFor day with
    | none =>
      have absent := ruleFor_eq_none_iff.1 first
      simp only [orders.hasRule_iff, ← orders'.hasRule_iff] at absent
      rw [ruleFor_eq_none_iff.2 absent]
    | some rule =>
      have has := orders.hasRule_iff.1 (hasRule_of_ruleFor first)
      obtain ⟨rule', first'⟩ := exists_ruleFor (orders'.hasRule_iff.2 has)
      rw [first']
      exact same rule rule' has (orders'.hasRule_iff.1 (hasRule_of_ruleFor first'))

theorem ruleFor_same_iff : (∀ day, group.SameInEveryOrder (·.ruleFor day)) ↔ group.RulesAgree := by
  refine forall_congr' fun day => (same_ruleFor_iff fun rule => rule).trans ?_
  simp only [Option.some.injEq]

theorem isOpen_eq (group : ScheduleGroup) (here : Instant) :
    group.isOpen here = (group.ruleFor here.weekday).any (·.contains here.minuteOfDay) := by
  unfold isOpen
  cases group.ruleFor here.weekday <;> rfl

theorem isOpen_same_iff : (∀ here, group.SameInEveryOrder (·.isOpen here)) ↔ group.HoursAgree := by
  simp only [isOpen_eq]
  constructor
  · intro same day rule rule' has has' minute inDay
    obtain ⟨here, rfl, rfl⟩ := Instant.exists_minute day inDay
    have windows := (same_ruleFor_iff (Option.any (·.contains here.minuteOfDay))).1 (same here) rule rule' has has'
    rwa [Option.any_some, Option.any_some] at windows
  · intro agree here
    refine (same_ruleFor_iff (Option.any (·.contains here.minuteOfDay))).2 fun rule rule' has has' => ?_
    rw [Option.any_some, Option.any_some]
    exact agree _ rule rule' has has' _ here.minuteOfDay_lt

theorem RulesAgree.hoursAgree (agree : group.RulesAgree) : group.HoursAgree :=
  fun day rule rule' has has' _ _ => by rw [agree day rule rule' has has']

theorem OneNameADay.rulesAgree (names : group.OneNameADay) : group.RulesAgree := by
  rintro day rule rule' ⟨name, known, isDay⟩ ⟨name', known', isDay'⟩
  obtain rfl := names name (List.mem_map_of_mem known) name' (List.mem_map_of_mem known')
    (isDay ▸ rfl) (isDay.trans isDay'.symm)
  exact (Prod.ext_iff.1 (List.inj_on_of_nodup_map group.rules.distinct known known' rfl)).2

end ScheduleGroup

/-- The same world, in which the rules of groups come in some order at each question. -/
def Surroundings.reordering (here : Surroundings) (order : Nat → ScheduleGroup → ScheduleGroup) : Surroundings :=
  { here with services := { here.services with
      schedule? := fun n id => (here.services.schedule? n id).map (order n) } }

namespace Walk

section Reordering

variable {here : Surroundings} {order : Nat → ScheduleGroup → ScheduleGroup}
  (orders : ∀ n (group : ScheduleGroup), group.Reorders (order n group))
  (agree : ∀ n id group, here.services.schedule? n id = some group → group.HoursAgree)

include orders agree

theorem isOpenNow_reordering (schedule : String) :
    isOpenNow (here.reordering order) schedule = isOpenNow here schedule := by
  funext run
  simp only [isOpenNow, ask, bind, EStateM.bind, Surroundings.reordering]
  cases asked : here.services.schedule? run.asked schedule with
  | none => rfl
  | some group =>
    have same := ScheduleGroup.isOpen_same_iff.2 (agree _ _ _ asked)
      (localTime (here.services.now (run.asked + 1)) here.engine.utcOffsetHours) _ _ (orders run.asked group) (.refl group)
    exact congrArg (EStateM.Result.ok · _) same

theorem indistinct_reordering : here.Indistinct here.graph (here.reordering order).services.schedule? :=
  ⟨.refl _, isOpenNow_reordering orders agree⟩

theorem runFrom_reordering (node : String) : runFrom (here.reordering order) node = runFrom here node :=
  runFrom_instead (indistinct_reordering orders agree) node

theorem receive_reordering (reply : Reply) : receive (here.reordering order) reply = receive here reply :=
  receive_instead (indistinct_reordering orders agree) reply

end Reordering

/-- A group is the same in every order exactly where no weekday has two different rules, and it is open at the
same times exactly where no weekday has two that differ in a minute. Of groups that are, runs do not notice the
order. -/
theorem order_matters_where_rules_differ (group : ScheduleGroup) (here : Surroundings) :
    ((∀ day, group.SameInEveryOrder (·.ruleFor day)) ↔ group.RulesAgree) ∧
    ((∀ time, group.SameInEveryOrder (·.isOpen time)) ↔ group.HoursAgree) ∧
    ((∀ n id group, here.services.schedule? n id = some group → group.HoursAgree) →
      ∀ order : Nat → ScheduleGroup → ScheduleGroup, (∀ n (group : ScheduleGroup), group.Reorders (order n group)) →
        (∀ node, runFrom (here.reordering order) node = runFrom here node) ∧
        ∀ reply, receive (here.reordering order) reply = receive here reply) :=
  ⟨ScheduleGroup.ruleFor_same_iff, ScheduleGroup.isOpen_same_iff, fun agree _ orders =>
    ⟨runFrom_reordering (fun n _ => orders n _) agree, receive_reordering (fun n _ => orders n _) agree⟩⟩

end Walk

namespace ScheduleGroup

def reversed (group : ScheduleGroup) : ScheduleGroup :=
  { group with rules := ⟨group.rules.entries.reverse,
      ((List.reverse_perm _).map Prod.fst).nodup_iff.2 group.rules.distinct⟩ }

theorem reorders_reversed (group : ScheduleGroup) : group.Reorders group.reversed := ⟨rfl, rfl, List.reverse_perm _⟩

def bilingual (monday segunda : DayRule) : ScheduleGroup :=
  ⟨"g", "", ⟨[("monday", monday), ("segunda", segunda)], by simp⟩⟩

end ScheduleGroup

def Graph.entrance : Graph where
  id := "entrance"
  name := ""
  nodes := [⟨"start", .start none⟩, ⟨"hours", .schedule "g"⟩, ⟨"in", .message "Welcome"⟩, ⟨"out", .message "Closed"⟩]
  edges := [.always "start" "hours", ⟨"hours", "in", some insideHandle⟩, ⟨"hours", "out", some outsideHandle⟩]
  sound := by decide

def Surroundings.entrance (group : ScheduleGroup) : Surroundings where
  graph := .entrance
  wording := {}
  engine := {}
  services := ⟨fun _ => ⟨388800, 0⟩, fun _ _ => none, fun _ _ _ => none, fun _ _ => none,
    fun _ _ => some group, fun _ _ => none⟩

def Run.atNoon : Run := .start (.new ⟨"chat_1"⟩ "ana" ⟨388800, 0⟩) ∅

namespace ScheduleGroup

theorem bilingual_agrees (rule : DayRule) : (bilingual rule rule).RulesAgree := by
  rintro day one other ⟨name, known, -⟩ ⟨name', known', -⟩
  simp only [bilingual, List.mem_cons, Prod.mk.injEq, List.not_mem_nil, or_false] at known known'
  obtain ⟨-, rfl⟩ | ⟨-, rfl⟩ := known <;> obtain ⟨-, rfl⟩ | ⟨-, rfl⟩ := known' <;> rfl

/-- Nothing depends on the order where both names have the same rule. -/
theorem bilingual_in_any_order :
    (∀ day, (bilingual (.opened "08:00" "18:00") (.opened "08:00" "18:00")).SameInEveryOrder (·.ruleFor day)) ∧
    ∀ node, Walk.runFrom ((Surroundings.entrance
        (bilingual (.opened "08:00" "18:00") (.opened "08:00" "18:00"))).reordering fun _ => reversed) node =
      Walk.runFrom (Surroundings.entrance (bilingual (.opened "08:00" "18:00") (.opened "08:00" "18:00"))) node := by
  have agree := bilingual_agrees (.opened "08:00" "18:00")
  obtain ⟨rules, -, runs⟩ := Walk.order_matters_where_rules_differ
    (bilingual (.opened "08:00" "18:00") (.opened "08:00" "18:00"))
    (.entrance (bilingual (.opened "08:00" "18:00") (.opened "08:00" "18:00")))
  refine ⟨rules.2 agree, (runs ?_ _ fun _ => reorders_reversed).1⟩
  rintro _ _ _ ⟨⟩
  exact agree.hoursAgree

def twoMondaysText : String :=
  "[\x7b\"id\":\"g\",\"rules\":\x7b\"monday\":\x7b\"active\":true,\"start\":\"08:00\",\"end\":\"18:00\"\x7d," ++
  "\"segunda\":\x7b\"active\":false,\"start\":\"00:00\",\"end\":\"00:00\"\x7d\x7d\x7d]"

def twoMondays : ScheduleGroup := bilingual (.opened "08:00" "18:00") .closed

set_option maxRecDepth 2000 in
/-- A group that may be loaded, of which the order decides whether it is open on Mondays and where flows go. -/
theorem two_names_of_monday :
    Catalogue.loadSchedules (some twoMondaysText) .empty = .ok 1 (Catalogue.empty.addSchedule twoMondays) ∧
    twoMondays.Reorders twoMondays.reversed ∧
    twoMondays.ruleFor .monday ≠ twoMondays.reversed.ruleFor .monday ∧
    twoMondays.isOpen ⟨388800, 0⟩ = true ∧ twoMondays.reversed.isOpen ⟨388800, 0⟩ = false ∧
    (stateAfter (Walk.runFrom (.entrance twoMondays) "start") .atNoon).path = ["start", "hours", "in"] ∧
    (stateAfter (Walk.runFrom (.entrance twoMondays.reversed) "start") .atNoon).path = ["start", "hours", "out"] :=
  ⟨by rfl, reorders_reversed _, by decide +kernel, by rfl, by rfl, by rfl, by rfl⟩

end ScheduleGroup
end Switchboard
