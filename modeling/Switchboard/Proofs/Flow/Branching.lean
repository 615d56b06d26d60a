import Mathlib.Data.List.Perm.Basic
import Switchboard.Flow.Walk
import Switchboard.Proofs.Flow.Building
import Switchboard.Proofs.Lookup

/-! Where a condition sends the flow. Of its rules the first one counts that holds and has an edge of its own. All
others are passed over, be it that they do not hold or that no edge bears their name, so it does not matter how
many of them there are or where they stand. -/
namespace Switchboard

/-- The rule holds of the variables, among which one that is not set is empty. -/
def Rule.Holds (rule : Rule) (bag : Variables) : Prop :=
  rule.comparison.holds ((bag.get? rule.key).getD "") rule.value = true

namespace Graph

/-- The rule holds, and the edge under its name leads from the node to the target. -/
structure LeadsBy (g : Graph) (node : String) (bag : Variables) (rule : Rule) (target : String) : Prop where
  holds : rule.Holds bag
  edge : .branch node rule.id target ∈ g.edges

def PassesOver (g : Graph) (node : String) (bag : Variables) (rule : Rule) : Prop :=
  ∀ target, ¬ g.LeadsBy node bag rule target

/-- A condition sends the flow along the edge of the first rule that leads anywhere, else along the edge for
everything else, and else nowhere. -/
inductive Sends (g : Graph) (node : String) (bag : Variables) (rules : List Rule) : Step → Prop
  | rule {front rest : List Rule} {rule : Rule} {target : String} : rules = front ++ rule :: rest →
    (∀ earlier ∈ front, g.PassesOver node bag earlier) → g.LeadsBy node bag rule target →
    Sends g node bag rules (.next target)
  | otherwise {target : String} : (∀ rule ∈ rules, g.PassesOver node bag rule) →
    .branch node elseHandle target ∈ g.edges → Sends g node bag rules (.next target)
  | nowhere : (∀ rule ∈ rules, g.PassesOver node bag rule) →
    (∀ target, .branch node elseHandle target ∉ g.edges) → Sends g node bag rules (.halt (.stalled node))

end Graph

def Rule.target? (g : Graph) (node : String) (bag : Variables) (rule : Rule) : Option String :=
  if rule.comparison.holds ((bag.get? rule.key).getD "") rule.value then g.branch node rule.id else none

section Targets

variable {g : Graph} {node target : String} {bag : Variables} {rule : Rule}

theorem Rule.target?_eq_some_iff : rule.target? g node bag = some target ↔ g.LeadsBy node bag rule target := by
  unfold target?
  split
  · rename_i holds
    rw [Graph.branch_eq_some_iff]
    exact ⟨fun edge => ⟨holds, edge⟩, Graph.LeadsBy.edge⟩
  · rename_i fails
    exact ⟨nofun, fun leads => absurd leads.holds fails⟩

theorem Rule.target?_eq_none_iff : rule.target? g node bag = none ↔ g.PassesOver node bag rule := by
  simp only [Option.eq_none_iff_forall_ne_some, ne_eq, target?_eq_some_iff]
  exact Iff.rfl

end Targets

namespace Walk

variable {here : Surroundings} {node : String} {rules : List Rule} {bag : Variables} {step : Step}

theorem branchOnRules_eq (here : Surroundings) (node : String) (rules : List Rule) (bag : Variables) :
    branchOnRules here node rules bag =
      match rules.findSome? (Rule.target? here.graph node bag) with
      | some next => .next next
      | none => takeBranch here node elseHandle := rfl

theorem takeBranch_sends (passed : ∀ rule ∈ rules, here.graph.PassesOver node bag rule) :
    here.graph.Sends node bag rules (takeBranch here node elseHandle) := by
  unfold takeBranch
  split
  · rename_i next leads
    exact .otherwise passed (Graph.branch_eq_some_iff.1 leads)
  · rename_i none_
    refine .nowhere passed fun target edge => ?_
    rw [Graph.branch_eq_some_iff.2 edge] at none_
    contradiction

theorem branchOnRules_sends : here.graph.Sends node bag rules (branchOnRules here node rules bag) := by
  rw [branchOnRules_eq]
  split
  · rename_i next found
    obtain ⟨front, rule, rest, split, leads, passed⟩ := List.findSome?_eq_some_iff.1 found
    exact .rule split (fun earlier member => Rule.target?_eq_none_iff.1 (passed earlier member))
      (Rule.target?_eq_some_iff.1 leads)
  · rename_i none_
    exact takeBranch_sends fun rule member =>
      Rule.target?_eq_none_iff.1 (List.findSome?_eq_none_iff.1 none_ rule member)

theorem findSome?_of_passed (passed : ∀ rule ∈ rules, here.graph.PassesOver node bag rule) :
    rules.findSome? (Rule.target? here.graph node bag) = none :=
  List.findSome?_eq_none_iff.2 fun rule member => Rule.target?_eq_none_iff.2 (passed rule member)

theorem branchOnRules_of_sends (sends : here.graph.Sends node bag rules step) :
    branchOnRules here node rules bag = step := by
  rw [branchOnRules_eq]
  cases sends with
  | rule split passed leads =>
    have found := List.findSome?_eq_some_iff.2 ⟨_, _, _, split, Rule.target?_eq_some_iff.2 leads,
      fun earlier member => Rule.target?_eq_none_iff.2 (passed earlier member)⟩
    rw [found]
  | otherwise passed edge =>
    rw [findSome?_of_passed passed]
    dsimp only
    rw [takeBranch, Graph.branch_eq_some_iff.2 edge]
  | nowhere passed none_ =>
    have stuck : here.graph.branch node elseHandle = none :=
      Option.eq_none_iff_forall_ne_some.2 fun target leads => none_ target (Graph.branch_eq_some_iff.1 leads)
    rw [findSome?_of_passed passed]
    dsimp only
    rw [takeBranch, stuck]

theorem branchOnRules_of_idle {front idle rest : List Rule}
    (passed : ∀ rule ∈ idle, here.graph.PassesOver node bag rule) :
    branchOnRules here node (front ++ idle ++ rest) bag = branchOnRules here node (front ++ rest) bag := by
  rw [branchOnRules_eq, branchOnRules_eq,
    findSome?_of_idle fun rule member => Rule.target?_eq_none_iff.2 (passed rule member)]

theorem branchOnRules_perm {others : List Rule} (perm : rules.Perm others)
    (one : ∀ a ∈ rules, ∀ b ∈ rules, ∀ x y, here.graph.LeadsBy node bag a x → here.graph.LeadsBy node bag b y →
      a = b) :
    branchOnRules here node others bag = branchOnRules here node rules bag := by
  rw [branchOnRules_eq, branchOnRules_eq, findSome?_eq_of_unique fun _ => perm.symm.mem_iff]
  intro a ofA b ofB x y leadsA leadsB
  have same : a = b := one a ofA b ofB x y (Rule.target?_eq_some_iff.1 leadsA) (Rule.target?_eq_some_iff.1 leadsB)
  subst same
  exact Option.some.inj (leadsA.symm.trans leadsB)

/-- A condition sends the flow on as the first rule says that leads anywhere, and touches nothing. It sends it the
same way when rules that lead nowhere come in or go out, anywhere in the list, and in whatever order its rules stand
if only one of them leads anywhere. -/
theorem condition_sends (here : Surroundings) (node : String) (rules : List Rule) (r : Run) :
    (∃ step, perform here node (.condition rules) r = .ok step r ∧
      ∀ other, here.graph.Sends node r.bag rules other ↔ other = step) ∧
    (∀ front idle rest, (∀ rule ∈ idle, here.graph.PassesOver node r.bag rule) →
      perform here node (.condition (front ++ idle ++ rest)) r =
        perform here node (.condition (front ++ rest)) r) ∧
    ∀ others, rules.Perm others →
      (∀ a ∈ rules, ∀ b ∈ rules, ∀ x y, here.graph.LeadsBy node r.bag a x → here.graph.LeadsBy node r.bag b y →
        a = b) →
      perform here node (.condition others) r = perform here node (.condition rules) r := by
  have performs (rules : List Rule) : perform here node (.condition rules) r =
      .ok (branchOnRules here node rules r.bag) r := rfl
  refine ⟨⟨_, performs rules, fun other => ⟨fun sends => ?_, fun same => ?_⟩⟩, ?_, ?_⟩
  · exact (branchOnRules_of_sends sends).symm
  · exact same ▸ branchOnRules_sends
  · intro front idle rest passed
    rw [performs, performs, branchOnRules_of_idle passed]
  · intro others perm one
    rw [performs, performs, branchOnRules_perm perm one]

end Walk
end Switchboard
