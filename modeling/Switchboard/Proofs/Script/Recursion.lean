import Switchboard.Proofs.Script.Size
import Switchboard.Proofs.Script.Trace

/-! How deep a script can lead. A tree has no more nodes than its phrase has tokens, and its paths go through no
more signs and arguments than the phrase nests; the evaluator's calls follow the paths of the tree. So
whatever the script, neither reading nor running it calls itself without bound. -/
namespace Switchboard.Script

/-! Trees. -/

/-- From a node to one of those right below it. -/
inductive Child
  | operand | left | right | argument
deriving DecidableEq

/-- The nodes below a sign and in an argument are enclosed. -/
def Child.encloses : Child → Bool
  | .operand | .argument => true
  | .left | .right => false

inductive Expr.Descends : Expr → List Child → Expr → Prop
  | here {e : Expr} : Descends e [] e
  | operand {e part : Expr} {path : List Child} (further : Descends e path part) :
      Descends (.negate e) (.operand :: path) part
  | left {operation : Operation} {l r part : Expr} {path : List Child} (further : Descends l path part) :
      Descends (.binary operation l r) (.left :: path) part
  | right {operation : Operation} {l r part : Expr} {path : List Child} (further : Descends r path part) :
      Descends (.binary operation l r) (.right :: path) part
  | argument {word : String} {values : List Expr} {e part : Expr} {path : List Child} (among : e ∈ values)
      (further : Descends e path part) : Descends (.call word values) (.argument :: path) part

theorem Expr.size_pos (e : Expr) : 0 < e.size := by
  cases e <;> simp [Expr.size]

theorem Expr.size_le_sizes {e : Expr} {values : List Expr} (among : e ∈ values) : e.size ≤ Expr.sizes values := by
  induction values with
  | nil => contradiction
  | cons first rest ih =>
    rw [Expr.sizes]
    rcases List.mem_cons.1 among with rfl | later
    · exact Nat.le_add_right _ _
    · exact Nat.le_trans (ih later) (Nat.le_add_left _ _)

theorem Expr.Descends.length_add_size_le {e part : Expr} {path : List Child} (descends : e.Descends path part) :
    path.length + part.size ≤ e.size := by
  induction descends with
  | here => simp
  | operand further ih => simp only [List.length_cons, Expr.size]; omega
  | left further ih => simp only [List.length_cons, Expr.size]; omega
  | right further ih => simp only [List.length_cons, Expr.size]; omega
  | argument among further ih =>
    have := Expr.size_le_sizes among
    simp only [List.length_cons, Expr.size]
    omega

def Expr.EnclosesWithin (e : Expr) (n : Nat) : Prop :=
  ∀ path part, e.Descends path part → path.countP Child.encloses ≤ n

namespace Expr.EnclosesWithin

variable {n m : Nat} {e l r : Expr}

theorem mono (within : e.EnclosesWithin n) (le : n ≤ m) : e.EnclosesWithin m :=
  fun path part descends => Nat.le_trans (within path part descends) le

theorem negate (within : e.EnclosesWithin n) : (Expr.negate e).EnclosesWithin (n + 1) := by
  intro path part descends
  cases descends with
  | here => simp
  | operand further =>
    rw [List.countP_cons_of_pos rfl]
    exact Nat.succ_le_succ (within _ _ further)

theorem binary {operation : Operation} (left : l.EnclosesWithin n) (right : r.EnclosesWithin m) :
    (Expr.binary operation l r).EnclosesWithin (max n m) := by
  intro path part descends
  cases descends with
  | here => simp
  | left further =>
    rw [List.countP_cons_of_neg (by decide)]
    exact Nat.le_trans (left _ _ further) (Nat.le_max_left n m)
  | right further =>
    rw [List.countP_cons_of_neg (by decide)]
    exact Nat.le_trans (right _ _ further) (Nat.le_max_right n m)

theorem call {word : String} {values : List Expr} (each : ∀ e ∈ values, ∃ m < n, e.EnclosesWithin m) :
    (Expr.call word values).EnclosesWithin n := by
  intro path part descends
  cases descends with
  | here => simp
  | argument among further =>
    obtain ⟨m, less, within⟩ := each _ among
    rw [List.countP_cons_of_pos rfl]
    exact Nat.lt_of_le_of_lt (within _ _ further) less

end Expr.EnclosesWithin

/-! Every node has a token of its own, and what encloses it nests in its phrase. -/

theorem size_binary_le {operation : Operation} {l r : Expr} {token : Token} {front back : List Token}
    (left : l.size ≤ front.length) (right : r.size ≤ back.length) :
    (Expr.binary operation l r).size ≤ (front ++ token :: back).length := by
  simp only [Expr.size, List.length_append, List.length_cons]
  omega

mutual

theorem IsExpr.size_le {n : Nat} {tokens : List Token} {e : Expr} : IsExpr n tokens e → e.size ≤ tokens.length
  | .term phrase => phrase.size_le
  | .sum left _ right => size_binary_le left.size_le right.size_le

theorem IsTerm.size_le {n : Nat} {tokens : List Token} {e : Expr} : IsTerm n tokens e → e.size ≤ tokens.length
  | .unary phrase => phrase.size_le
  | .product left _ right => size_binary_le left.size_le right.size_le

theorem IsUnary.size_le {n : Nat} {tokens : List Token} {e : Expr} : IsUnary n tokens e → e.size ≤ tokens.length
  | .primary phrase => phrase.size_le
  | .negate phrase => Nat.succ_le_succ phrase.size_le

theorem IsPrimary.size_le {n : Nat} {tokens : List Token} {e : Expr} :
    IsPrimary n tokens e → e.size ≤ tokens.length
  | .text | .number | .variable | .name => by simp [Expr.size]
  | .group phrase => by
    have inner := phrase.size_le
    simp only [List.length_cons, List.length_append]
    omega
  | .call phrase => by
    have inner := phrase.sizes_le
    simp only [Expr.size, List.length_cons, List.length_append]
    omega

theorem IsArguments.sizes_le {n : Nat} {tokens : List Token} {values : List Expr} :
    IsArguments n tokens values → Expr.sizes values ≤ tokens.length
  | .nothing => Nat.le_refl 0
  | .values phrase => phrase.sizes_le

theorem IsValues.sizes_le {n : Nat} {tokens : List Token} {values : List Expr} :
    IsValues n tokens values → Expr.sizes values ≤ tokens.length
  | .one phrase => phrase.size_le
  | .more phrase others => by
    have first := phrase.size_le
    have more := others.sizes_le
    simp only [Expr.sizes, List.length_append, List.length_cons]
    omega

end

mutual

theorem IsExpr.encloses {n : Nat} {tokens : List Token} {e : Expr} : IsExpr n tokens e → e.EnclosesWithin n
  | .term phrase => phrase.encloses
  | .sum left _ right => left.encloses.binary right.encloses

theorem IsTerm.encloses {n : Nat} {tokens : List Token} {e : Expr} : IsTerm n tokens e → e.EnclosesWithin n
  | .unary phrase => phrase.encloses
  | .product left _ right => left.encloses.binary right.encloses

theorem IsUnary.encloses {n : Nat} {tokens : List Token} {e : Expr} : IsUnary n tokens e → e.EnclosesWithin n
  | .primary phrase => phrase.encloses
  | .negate phrase => phrase.encloses.negate

theorem IsPrimary.encloses {n : Nat} {tokens : List Token} {e : Expr} : IsPrimary n tokens e → e.EnclosesWithin n
  | .text | .number | .variable | .name => by
    intro path part descends
    cases descends
    exact Nat.zero_le _
  | .group phrase => phrase.encloses.mono (Nat.le_succ _)
  | .call phrase => .call phrase.encloses

theorem IsArguments.encloses {n : Nat} {tokens : List Token} {values : List Expr} :
    IsArguments n tokens values → ∀ e ∈ values, ∃ m < n, e.EnclosesWithin m
  | .nothing => by simp
  | .values phrase => phrase.encloses

theorem IsValues.encloses {n : Nat} {tokens : List Token} {values : List Expr} :
    IsValues n tokens values → ∀ e ∈ values, ∃ m < n, e.EnclosesWithin m
  | .one phrase => by
    intro e among
    cases List.mem_singleton.1 among
    exact ⟨_, Nat.lt_succ_self _, phrase.encloses⟩
  | .more phrase others => by
    refine List.forall_mem_cons.2 ⟨⟨_, ?_, phrase.encloses⟩, fun e among => ?_⟩
    · exact Nat.lt_of_lt_of_le (Nat.lt_succ_self _) (Nat.le_max_left _ _)
    · obtain ⟨m, less, within⟩ := others.encloses e among
      exact ⟨m, Nat.lt_of_lt_of_le less (Nat.le_max_right _ _), within⟩

end

/-! Statements. The target and the sign after it have tokens too. -/

section Statements

variable {tokens : List Token} {target : Target} {value : Expr}

theorem isAssignment_of_read (read : boundedStatement tokens = .ok (.assign target value)) :
    ∃ n ≤ maxNesting, IsAssignment n (afterDeclarator tokens) (.assign target value) := by
  unfold boundedStatement at read
  split at read
  · contradiction
  · unfold statement at read
    split at read
    · cases read
    · exact assignment_sound read

theorem length_le_of_read {s : Statement} (read : boundedStatement tokens = .ok s) : tokens.length ≤ maxTokens := by
  unfold boundedStatement at read
  split at read
  · contradiction
  · omega

theorem size_lt_of_read (read : boundedStatement tokens = .ok (.assign target value)) : value.size < maxTokens := by
  obtain ⟨n, -, phrase⟩ := isAssignment_of_read read
  have some_ := length_le_of_read read
  have fewer := (afterDeclarator_suffix tokens).length_le
  generalize afterDeclarator tokens = rest at phrase fewer
  cases phrase with
  | assign place value =>
    have nodes := value.size_le
    simp only [List.length_append, List.length_cons] at fewer
    omega

theorem encloses_of_read (read : boundedStatement tokens = .ok (.assign target value)) :
    value.EnclosesWithin maxNesting := by
  obtain ⟨n, within, phrase⟩ := isAssignment_of_read read
  generalize afterDeclarator tokens = rest at phrase
  cases phrase with
  | assign place value => exact value.encloses.mono within

theorem Program.bounded_of_read {program : Program} {source : String} (read : Program.read source = .ok program)
    (member : .assign target value ∈ program) : value.size < maxTokens ∧ value.EnclosesWithin maxNesting := by
  refine Program.forall_of_read (P := fun s => ∀ target value, s = .assign target value →
    value.size < maxTokens ∧ value.EnclosesWithin maxNesting) ?_ read _ member _ _ rfl
  rintro line tokens phrase s - - stated target value rfl
  exact ⟨size_lt_of_read stated, encloses_of_read stated⟩

end Statements

/-! Running with a trace: the calls of the evaluator, known by their expressions. -/

abbrev Evaluating (α : Type) := StateT Nat (Traced Fault Expr) α

namespace Evaluating

def aside (work : Metered α) : Evaluating α := fun done => .of (work done)

def calling (stack : List Expr) (work : Evaluating α) : Evaluating α := fun done => (work done).noting stack

mutual
def eval (b : Bounds) (scope : Scope) : Expr → List Expr → Evaluating Value
  | .negate operand, stack => calling (.negate operand :: stack) do
    aside (tick b)
    let value ← eval b scope operand (.negate operand :: stack)
    aside do bounded b (.number (← value.asNumber).neg)
  | .binary operation left right, stack => calling (.binary operation left right :: stack) do
    aside (tick b)
    let l ← eval b scope left (.binary operation left right :: stack)
    let r ← eval b scope right (.binary operation left right :: stack)
    aside do bounded b (← operation.apply l r)
  | .call function arguments, stack => calling (.call function arguments :: stack) do
    aside (tick b)
    let values ← evalAll b scope arguments (.call function arguments :: stack)
    aside do bounded b (← Script.call function values)
  | e, stack => calling (e :: stack) (aside (Script.eval b scope e))

def evalAll (b : Bounds) (scope : Scope) : List Expr → List Expr → Evaluating (List Value)
  | [], _ => pure []
  | e :: rest, stack => do
    let value ← eval b scope e stack
    let values ← evalAll b scope rest stack
    return value :: values
end

def run (b : Bounds) : Program → Scope → Evaluating Variables
  | .assign target value :: rest, scope => do
    aside (tick b)
    let value ← eval b scope value []
    run b rest (scope.assign value target)
  | program, scope => aside (Script.run b program scope)

end Evaluating

def traceEvaluation (b : Bounds) (bag : Variables) (source : String) : Traced Fault Expr Variables :=
  match Program.read source with
  | .ok program => do
    let (bag, _) ← Evaluating.run b program ⟨bag, ∅⟩ 0
    return bag
  | .error (line, misfit) => .of (.error (.malformed line misfit))

/-- Comes to the same from any count, on stacks that all have the property. -/
def Evaluates (P : List Expr → Prop) (work : Evaluating α) (plain : Metered α) : Prop :=
  ∀ done, (work done).Comes P (plain done)

namespace Evaluates

variable {P : List Expr → Prop} {α β : Type} {work : Evaluating α} {plain : Metered α}

theorem aside (plain : Metered α) : Evaluates P (.aside plain) plain := fun _ => .of _

theorem pure (a : α) : Evaluates P (Pure.pure a) (Pure.pure a) := fun _ => .of _

theorem bind {next : α → Evaluating β} {after : α → Metered β} (first : Evaluates P work plain)
    (second : ∀ a, Evaluates P (next a) (after a)) : Evaluates P (work >>= next) (plain >>= after) :=
  fun done => .bind (first done) fun reached => second reached.1 reached.2

theorem calling {stack : List Expr} (here : P stack) (further : Evaluates P work plain) :
    Evaluates P (work.calling stack) plain :=
  fun done => .noting here (further done)

end Evaluates

section Evaluation

variable (b : Bounds) (scope : Scope) (limit : Nat)

mutual

theorem eval_evaluates : ∀ (e : Expr) (stack : List Expr), stack.length + e.size < limit →
    Evaluates (·.length < limit) (Evaluating.eval b scope e stack) (eval b scope e)
  | .negate operand, stack, room => by
    rw [Expr.size] at room
    have inner := eval_evaluates operand (.negate operand :: stack) (by rw [List.length_cons]; omega)
    refine .calling (by rw [List.length_cons]; omega) ?_
    exact .bind (.aside _) fun _ => .bind inner fun value => .aside _
  | .binary operation left right, stack, room => by
    rw [Expr.size] at room
    have l := eval_evaluates left (.binary operation left right :: stack) (by rw [List.length_cons]; omega)
    have r := eval_evaluates right (.binary operation left right :: stack) (by rw [List.length_cons]; omega)
    refine .calling (by rw [List.length_cons]; omega) ?_
    exact .bind (.aside _) fun _ => .bind l fun value => .bind r fun value => .aside _
  | .call function arguments, stack, room => by
    rw [Expr.size] at room
    have inner := evalAll_evaluates arguments (.call function arguments :: stack) (by rw [List.length_cons]; omega)
    refine .calling (by rw [List.length_cons]; omega) ?_
    exact .bind (.aside _) fun _ => .bind inner fun values => .aside _
  | .text value, stack, room | .number value, stack, room | .variable key, stack, room | .name word, stack, room =>
    .calling room (.aside _)

theorem evalAll_evaluates : ∀ (values stack : List Expr), stack.length + Expr.sizes values < limit →
    Evaluates (·.length < limit) (Evaluating.evalAll b scope values stack) (evalAll b scope values)
  | [], stack, room => .pure _
  | e :: rest, stack, room => by
    rw [Expr.sizes] at room
    have first := eval_evaluates e stack (by omega)
    have more := evalAll_evaluates rest stack (by omega)
    exact .bind first fun value => .bind more fun values => .pure _

end

end Evaluation

theorem run_evaluates (b : Bounds) {program : Program} {limit : Nat}
    (small : ∀ target value, .assign target value ∈ program → value.size < limit) (scope : Scope) :
    Evaluates (·.length < limit) (Evaluating.run b program scope) (run b program scope) := by
  induction program generalizing scope with
  | nil => exact .aside _
  | cons statement rest ih =>
    cases statement with
    | finish => exact .aside _
    | assign target value =>
      have first := eval_evaluates b scope limit value [] (by simpa using small target value (.head _))
      refine .bind (.aside _) fun _ => .bind first fun value => ?_
      exact ih (fun target value member => small target value (.tail _ member)) _

theorem traceEvaluation_comes (b : Bounds) (bag : Variables) (source : String) :
    (traceEvaluation b bag source).Comes (·.length < maxTokens) (evaluate b bag source) := by
  unfold traceEvaluation evaluate
  cases read : Program.read source with
  | error fault => exact .of _
  | ok program =>
    have small (target : Target) (value : Expr) (member : .assign target value ∈ program) : value.size < maxTokens :=
      (Program.bounded_of_read read member).1
    have result : runProgram b bag program = run b program ⟨bag, ∅⟩ 0 >>= fun reached => .ok reached.1 := by
      rw [runProgram]
      cases run b program ⟨bag, ∅⟩ 0 <;> rfl
    change Traced.Comes _ _ (runProgram b bag program)
    rw [result]
    exact .bind (run_evaluates b small ⟨bag, ∅⟩ 0) fun reached => .pure _

/-- Every tree of a script that is accepted has fewer nodes than a statement may have tokens, so no path in it is
as long, and goes through no more signs and arguments than a statement may nest. No more than that is ever
open while a script is read, be it accepted or not, and the functions that read it call each other no
deeper than this allows. Nor are more expressions ever under evaluation at once than a path has nodes. -/
theorem recursion_bounded (source : String) :
    (∀ program, Program.read source = .ok program → ∀ target value, .assign target value ∈ program →
      value.size < maxTokens ∧ ∀ path part, value.Descends path part →
        path.length + 1 < maxTokens ∧ path.countP Child.encloses ≤ maxNesting) ∧
    ((Program.trace source).result = Program.read source ∧
      ∀ stack ∈ (Program.trace source).noted,
        stack.countP Frame.opens ≤ maxNesting ∧ stack.length ≤ 5 * maxNesting + 4) ∧
    ∀ b bag, (traceEvaluation b bag source).result = evaluate b bag source ∧
      ∀ stack ∈ (traceEvaluation b bag source).noted, stack.length < maxTokens := by
  refine ⟨fun program read target value member => ?_, ?_, fun b bag => ?_⟩
  · obtain ⟨small, encloses⟩ := Program.bounded_of_read read member
    refine ⟨small, fun path part descends => ⟨?_, encloses path part descends⟩⟩
    have nodes := descends.length_add_size_le
    have last := part.size_pos
    omega
  · have comes := Program.trace_comes source
    exact ⟨comes.result, comes.noted⟩
  · have comes := traceEvaluation_comes b bag source
    exact ⟨comes.result, comes.noted⟩

def negations (count : Nat) : String := "x = " ++ String.ofList (List.replicate count '-') ++ "'1'"

theorem negated_descends (count : Nat) :
    (negated count).Descends (List.replicate count .operand) (.text "1") := by
  induction count with
  | zero => exact .here
  | succ count ih => exact .operand ih

/-- With the last sign that is allowed, and with one more, as much is open as may be; and every sign is under
evaluation while the text is. -/
theorem negations_bounded :
    (Program.read (negations 64) = .ok [.assign (.name "x") (negated 64)] ∧ (negated 64).size < maxTokens ∧
      (List.replicate 64 Child.operand).countP Child.encloses ≤ maxNesting) ∧
    (∃ stack ∈ (Program.trace (negations 64)).noted,
      stack.countP Frame.opens = 64 ∧ stack.countP Frame.opens ≤ maxNesting) ∧
    (Program.read (negations 65) = .error (1, .tooDeep) ∧ ∃ stack ∈ (Program.trace (negations 65)).noted,
      stack.countP Frame.opens = 64 ∧ stack.countP Frame.opens ≤ maxNesting) ∧
    ∃ stack ∈ (traceEvaluation ⟨100, 8, fun _ => false⟩ ∅ (negations 64)).noted,
      stack.length = 65 ∧ stack.length < maxTokens := by
  have read : Program.read (negations 64) = .ok [.assign (.name "x") (negated 64)] := by rfl
  obtain ⟨small, paths⟩ := (recursion_bounded (negations 64)).1 _ read _ _ (.head _)
  have full (count : Nat) (noted : (Program.trace (negations count)).noted.any (·.countP Frame.opens == 64)) :
      ∃ stack ∈ (Program.trace (negations count)).noted,
        stack.countP Frame.opens = 64 ∧ stack.countP Frame.opens ≤ maxNesting := by
    obtain ⟨stack, among, open_⟩ := List.any_eq_true.1 noted
    exact ⟨stack, among, by simpa using open_, ((recursion_bounded (negations count)).2.1.2 stack among).1⟩
  have reaches : (traceEvaluation ⟨100, 8, fun _ => false⟩ ∅ (negations 64)).noted.any (·.length == 65) := by
    decide +kernel
  obtain ⟨stack, among, high⟩ := List.any_eq_true.1 reaches
  refine ⟨⟨read, small, (paths _ _ (negated_descends 64)).2⟩, full 64 ?_, ⟨by rfl, full 65 ?_⟩, stack, among, ?_, ?_⟩
  · decide +kernel
  · decide +kernel
  · simpa using high
  · exact ((recursion_bounded (negations 64)).2.2 _ _).2 stack among

end Switchboard.Script
