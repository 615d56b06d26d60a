import Switchboard.Proofs.Success
import Switchboard.Script.Evaluation

/-! What a script costs. Beside the evaluator that counts its operations stands one that does not, and a
budget only decides whether its result is reached: enough for the operations that lead to it, and the
two agree, while less is always exhausted. So no budget changes what a script means. -/
namespace Switchboard.Script

def Bounds.withBudget (b : Bounds) (operations : Nat) : Bounds := { b with maxOps := operations }

/-- The deadline never comes. -/
def Bounds.Unhurried (b : Bounds) : Prop := ∀ operation, b.late operation = false

mutual
/-- The value of an expression, however many operations it takes. -/
def Expr.value (b : Bounds) (scope : Scope) : Expr → Except Fault Value
  | .text value => bounded b (.text value)
  | .number value => bounded b (.number value)
  | .variable key => bounded b (.text ((scope.bag.get? key).getD ""))
  | .name word => do bounded b (← scope.lookup word)
  | .negate operand => do
    let value ← Expr.value b scope operand
    bounded b (.number (← value.asNumber).neg)
  | .binary operation left right => do
    let l ← Expr.value b scope left
    let r ← Expr.value b scope right
    bounded b (← operation.apply l r)
  | .call function arguments => do
    let values ← Expr.values b scope arguments
    bounded b (← Script.call function values)

def Expr.values (b : Bounds) (scope : Scope) : List Expr → Except Fault (List Value)
  | [] => .ok []
  | e :: rest => do
    let value ← Expr.value b scope e
    let values ← Expr.values b scope rest
    return value :: values
end

def Program.variables (b : Bounds) : Program → Scope → Except Fault Variables
  | [], scope => .ok scope.bag
  | .finish :: _, scope => .ok scope.bag
  | .assign target value :: rest, scope => do
    let value ← value.value b scope
    Program.variables b rest (scope.assign value target)

/-- Nothing but a budget is ever exhausted. -/
def Unbudgeted (result : Except Fault α) : Prop :=
  ∀ operations, result ≠ .error (.budgetExhausted operations)

namespace Unbudgeted

theorem ok (a : α) : Unbudgeted (.ok a : Except Fault α) := fun _ => nofun

theorem bind {result : Except Fault α} {after : α → Except Fault β} (first : Unbudgeted result)
    (second : ∀ a, Unbudgeted (after a)) : Unbudgeted (result >>= after) := by
  cases result with
  | ok a => exact second a
  | error fault => exact fun operations same => first operations (by cases same; rfl)

theorem map {result : Except Fault α} (f : α → β) (first : Unbudgeted result) :
    Unbudgeted (result.map f) := by
  cases result with
  | ok a => exact .ok (f a)
  | error fault => exact fun operations same => first operations (by cases same; rfl)

theorem bounded (b : Bounds) (value : Value) : Unbudgeted (Script.bounded b value) := by
  cases value with
  | number value => exact .ok _
  | text value =>
    rw [Script.bounded]
    split
    · exact fun _ => nofun
    · exact .ok _

theorem lookup (scope : Scope) (word : String) : Unbudgeted (scope.lookup word) := by
  unfold Scope.lookup
  split
  · exact .ok _
  · split
    · exact .ok _
    · exact fun _ => nofun

theorem asNumber (value : Value) : Unbudgeted value.asNumber := by
  cases value with
  | number value => exact .ok _
  | text value =>
    unfold Value.asNumber
    dsimp only
    split
    · exact .ok _
    · split
      · exact .ok _
      · exact fun _ => nofun

theorem apply (operation : Operation) (l r : Value) : Unbudgeted (operation.apply l r) := by
  have both {next : Binary64 → Binary64 → Except Fault Value} (h : ∀ a b, Unbudgeted (next a b)) :
      Unbudgeted (do next (← l.asNumber) (← r.asNumber)) :=
    (asNumber l).bind fun a => (asNumber r).bind fun b => h a b
  have divided (divide : Binary64 → Binary64 → Binary64) (a b : Binary64) :
      Unbudgeted (quotient divide a b) := by
    unfold quotient
    split
    · exact fun _ => nofun
    · exact .ok _
  cases operation with
  | add => exact .ok _
  | subtract | multiply => exact both fun _ _ => .ok _
  | divide | remainder => exact both (divided _)

theorem function {key : String} {f : Value → Except Fault Value} (known : function? key = some f)
    (value : Value) : Unbudgeted (f value) := by
  unfold function? at known
  split at known <;> cases known <;> first | exact .ok _ | exact (asNumber value).map _

theorem call (name : String) (arguments : List Value) : Unbudgeted (Script.call name arguments) := by
  unfold Script.call
  dsimp only
  split
  · exact .ok _
  · split
    · exact fun _ => nofun
    · rename_i f known
      split
      · exact function known _
      · exact fun _ => nofun

end Unbudgeted

/-- The work comes to the result after so many operations, unless the budget ends before. -/
def Costs (work : Nat → Metered α) (result : Except Fault α) (cost : Nat) : Prop :=
  ∀ budget done, done ≤ budget → work budget done =
    if done + cost ≤ budget then result.map (·, done + cost) else .error (.budgetExhausted budget)

/-- Work of so many operations, all of which it takes when it succeeds. -/
def Takes (work : Nat → Metered α) (result : Except Fault α) (size : Nat) : Prop :=
  Unbudgeted result ∧
    ∃ cost ≤ size, (∀ a, result = .ok a → cost = size) ∧ Costs work result cost

theorem metered_bind {work : Nat → Metered α} {next : Nat → α → Metered β} (budget done : Nat) :
    (fun budget => work budget >>= next budget) budget done =
      work budget done >>= fun reached => next budget reached.1 reached.2 := rfl

namespace Takes

variable {α β : Type} {size more : Nat}

theorem pure (a : α) : Takes (fun _ => Pure.pure a) (.ok a) 0 := by
  refine ⟨.ok a, 0, Nat.le_refl 0, fun _ _ => rfl, fun budget done within => ?_⟩
  rw [Nat.add_zero, if_pos within]
  rfl

theorem lift {result : Except Fault α} (unbudgeted : Unbudgeted result) :
    Takes (fun _ => (liftM result : Metered α)) result 0 := by
  refine ⟨unbudgeted, 0, Nat.le_refl 0, fun _ _ => rfl, fun budget done within => ?_⟩
  rw [Nat.add_zero, if_pos within]
  cases result <;> rfl

theorem tick {b : Bounds} (unhurried : b.Unhurried) :
    Takes (fun budget => tick (b.withBudget budget)) (.ok ()) 1 := by
  refine ⟨.ok (), 1, Nat.le_refl 1, fun _ _ => rfl, fun budget done within => ?_⟩
  simp only [Script.tick, Bounds.withBudget, unhurried _, Bool.and_false]
  by_cases enough : done + 1 ≤ budget
  · rw [if_neg (Nat.not_lt.2 enough), if_pos enough]
    rfl
  · rw [if_pos (Nat.lt_of_not_le enough), if_neg enough]

theorem bind {work : Nat → Metered α} {next : Nat → α → Metered β} {result : Except Fault α}
    {after : α → Except Fault β} (first : Takes work result size)
    (second : ∀ a, Takes (next · a) (after a) more) :
    Takes (fun budget => work budget >>= next budget) (result >>= after) (size + more) := by
  obtain ⟨unbudgeted, cost, within, all, runs⟩ := first
  refine ⟨unbudgeted.bind fun a => (second a).1, ?_⟩
  cases result with
  | error fault =>
    refine ⟨cost, by omega, nofun, fun budget done room => ?_⟩
    rw [metered_bind, runs budget done room]
    split <;> rfl
  | ok a =>
    obtain ⟨-, rest, within', all', runs'⟩ := second a
    cases all a rfl
    refine ⟨size + rest, by omega, fun c reached => by rw [all' c reached], ?_⟩
    intro budget done room
    rw [metered_bind, runs budget done room]
    by_cases enough : done + size ≤ budget
    · rw [if_pos enough, ← Nat.add_assoc]
      exact runs' budget (done + size) enough
    · rw [if_neg enough, if_neg (by omega)]
      rfl

theorem counted {b : Bounds} {work : Nat → Metered α} {result : Except Fault α}
    (unhurried : b.Unhurried) (rest : Takes work result size) :
    Takes (fun budget => do Script.tick (b.withBudget budget); work budget) result (size + 1) := by
  rw [Nat.add_comm]
  exact (tick unhurried).bind fun _ => rest

end Takes

section Evaluator

variable {b : Bounds} {scope : Scope}

theorem takes_bounded (value : Value) :
    Takes (fun budget => (liftM (bounded (b.withBudget budget) value) : Metered Value))
      (bounded b value) 0 := by
  have same (budget : Nat) : bounded (b.withBudget budget) value = bounded b value := by
    cases value <;> rfl
  simp only [same]
  exact .lift (.bounded b value)

theorem takes_boundedAfter {result : Except Fault Value} (unbudgeted : Unbudgeted result) :
    Takes (fun budget => do (liftM (bounded (b.withBudget budget) (← liftM result)) : Metered Value))
      (result >>= bounded b) 0 :=
  (Takes.lift unbudgeted).bind takes_bounded

mutual
theorem eval_takes (unhurried : b.Unhurried) : ∀ e : Expr,
    Takes (fun budget => eval (b.withBudget budget) scope e) (e.value b scope) e.size
  | .text value => .counted unhurried (takes_bounded (.text value))
  | .number value => .counted unhurried (takes_bounded (.number value))
  | .variable key =>
    .counted unhurried (takes_bounded (.text ((scope.bag.get? key).getD "")))
  | .name word => .counted unhurried (takes_boundedAfter (.lookup scope word))
  | .negate operand =>
    .counted unhurried <| (eval_takes unhurried operand).bind fun value =>
      (Takes.lift (.asNumber value)).bind fun n => takes_bounded (.number n.neg)
  | .binary operation left right =>
    .counted unhurried <| (eval_takes unhurried left).bind fun l =>
      (eval_takes unhurried right).bind fun r => takes_boundedAfter (.apply operation l r)
  | .call function arguments =>
    .counted unhurried <| (evalAll_takes unhurried arguments).bind fun values =>
      takes_boundedAfter (.call function values)

theorem evalAll_takes (unhurried : b.Unhurried) : ∀ es : List Expr,
    Takes (fun budget => evalAll (b.withBudget budget) scope es) (Expr.values b scope es)
      (Expr.sizes es)
  | [] => .pure []
  | e :: rest =>
    (eval_takes unhurried e).bind fun value =>
      (evalAll_takes unhurried rest).bind fun values => .pure (value :: values)
end

theorem run_takes (unhurried : b.Unhurried) (program : Program) (scope : Scope) :
    Takes (fun budget => run (b.withBudget budget) program scope) (program.variables b scope)
      program.cost := by
  induction program generalizing scope with
  | nil => exact .pure scope.bag
  | cons statement rest ih =>
    cases statement with
    | finish => exact .counted unhurried (.pure scope.bag)
    | assign target value =>
      rw [Program.cost, Nat.add_assoc, Nat.add_comm]
      exact .counted unhurried <| (eval_takes unhurried value).bind fun value => ih _

end Evaluator

theorem runProgram_eq {b : Bounds} {program : Program} {bag : Variables} {cost : Nat}
    {result : Except Fault Variables}
    (costs : Costs (fun budget => run (b.withBudget budget) program ⟨bag, ∅⟩) result cost)
    (budget : Nat) :
    runProgram (b.withBudget budget) bag program =
      if cost ≤ budget then result else .error (.budgetExhausted budget) := by
  have ran : run (b.withBudget budget) program ⟨bag, ∅⟩ 0 = _ :=
    costs budget 0 (Nat.zero_le budget)
  rw [Nat.zero_add] at ran
  rw [runProgram, ran]
  split
  · cases result <;> rfl
  · rfl

/-- A budget that covers the cost of a script is as good as none. A script that succeeds takes exactly its
cost in operations, one that fails has taken no more of them by then, and a smaller budget is always
exhausted, whatever would have come of the script. -/
theorem evaluate_within_budget {b : Bounds} (unhurried : b.Unhurried) {source : String}
    {program : Program} (read : Program.read source = .ok program) (bag : Variables) :
    (∀ budget ≥ program.cost,
        evaluate (b.withBudget budget) bag source = program.variables b ⟨bag, ∅⟩) ∧
      (∀ result, program.variables b ⟨bag, ∅⟩ = .ok result → ∀ budget,
        evaluate (b.withBudget budget) bag source =
          if program.cost ≤ budget then .ok result else .error (.budgetExhausted budget)) ∧
      ∀ fault, program.variables b ⟨bag, ∅⟩ = .error fault →
        (∀ operations, fault ≠ .budgetExhausted operations) ∧
          ∃ reached ≤ program.cost, ∀ budget, evaluate (b.withBudget budget) bag source =
            if reached ≤ budget then .error fault else .error (.budgetExhausted budget) := by
  obtain ⟨unbudgeted, cost, within, all, costs⟩ := run_takes unhurried program ⟨bag, ∅⟩
  have evaluated (budget : Nat) : evaluate (b.withBudget budget) bag source =
      if cost ≤ budget then program.variables b ⟨bag, ∅⟩ else .error (.budgetExhausted budget) := by
    rw [evaluate, read]
    exact runProgram_eq costs budget
  refine ⟨?_, ?_, ?_⟩
  · intro budget covers
    rw [evaluated, if_pos (Nat.le_trans within covers)]
  · intro result succeeds budget
    rw [evaluated, succeeds, all result succeeds]
  · intro fault fails
    refine ⟨fun operations same => ?_, cost, within, fun budget => ?_⟩
    · rw [fails, same] at unbudgeted
      exact unbudgeted operations rfl
    · rw [evaluated, fails]

def greeting : String := "vars.text = 'Hi ' + trim(name)\nreturn\nvars.text = 'Bye'"

def greetingProgram : Program :=
  [.assign (.variable "text") (.binary .add (.text "Hi ") (.call "trim" [.name "name"])), .finish,
    .assign (.variable "text") (.text "Bye")]

/-- One operation for the statement, four for its value and one for the end; what comes after is free. -/
theorem greeting_within_budget :
    evaluate ⟨6, 8, fun _ => false⟩ (.ofList [("name", " Ana")]) greeting =
        .ok (.ofList [("name", " Ana"), ("text", "Hi Ana")]) ∧
      evaluate ⟨5, 8, fun _ => false⟩ (.ofList [("name", " Ana")]) greeting =
        .error (.budgetExhausted 5) := by
  have read : Program.read greeting = .ok greetingProgram := by rfl
  have unhurried : Bounds.Unhurried ⟨0, 8, fun _ => false⟩ := fun _ => rfl
  obtain ⟨-, succeeds, -⟩ := evaluate_within_budget unhurried read (.ofList [("name", " Ana")])
  have within := succeeds (.ofList [("name", " Ana"), ("text", "Hi Ana")]) (by rfl)
  exact ⟨within 6, within 5⟩

end Switchboard.Script
