import Switchboard.Proofs.Script.Parsing

/-! Reading with a trace. Beside the reader of expressions stands one that also notes the stack of its calls at
every call it makes, together with what is open at that time: signs, parentheses and arguments. It reads
the same, and no stack that it notes is ever deep, whether the script is accepted or not. -/
namespace Switchboard.Script

/-- A result, and the stacks of calls on the way there, each with the innermost call first. -/
structure Traced (ε κ α : Type) where
  result : Except ε α
  noted : List (List κ)

namespace Traced

variable {ε δ κ α β : Type}

def of (result : Except ε α) : Traced ε κ α := ⟨result, []⟩

def andThen (first : Traced ε κ α) (next : α → Traced ε κ β) : Traced ε κ β :=
  match first.result with
  | .ok a => ⟨(next a).result, first.noted ++ (next a).noted⟩
  | .error e => ⟨.error e, first.noted⟩

instance : Monad (Traced ε κ) where
  pure a := of (.ok a)
  bind := andThen

def mapError (f : ε → δ) (work : Traced ε κ α) : Traced δ κ α := ⟨work.result.mapError f, work.noted⟩

def noting (stack : List κ) (work : Traced ε κ α) : Traced ε κ α := ⟨work.result, stack :: work.noted⟩

structure Comes (P : List κ → Prop) (work : Traced ε κ α) (result : Except ε α) : Prop where
  result : work.result = result
  noted : ∀ stack ∈ work.noted, P stack

namespace Comes

variable {P : List κ → Prop} {work : Traced ε κ α} {result : Except ε α}

theorem of (result : Except ε α) : Comes P (of result) result := ⟨rfl, List.forall_mem_nil P⟩

theorem pure (a : α) : Comes P (Pure.pure a : Traced ε κ α) (.ok a) := of (.ok a)

theorem bind {next : α → Traced ε κ β} {after : α → Except ε β} (first : Comes P work result)
    (second : ∀ a, Comes P (next a) (after a)) : Comes P (work >>= next) (result >>= after) := by
  obtain ⟨rfl, each⟩ := first
  change Comes P (work.andThen next) _
  unfold andThen
  cases ended : work.result with
  | error e => exact ⟨rfl, each⟩
  | ok a => exact ⟨(second a).result, List.forall_mem_append.2 ⟨each, (second a).noted⟩⟩

theorem mapError (f : ε → δ) (comes : Comes P work result) : Comes P (work.mapError f) (result.mapError f) :=
  ⟨congrArg (Except.mapError f) comes.result, comes.noted⟩

theorem noting {stack : List κ} (here : P stack) (further : Comes P work result) :
    Comes P (work.noting stack) result :=
  ⟨further.result, List.forall_mem_cons.2 ⟨here, further.noted⟩⟩

end Comes

end Traced

/-- A function of the reader that has been called, or what it has opened since. -/
inductive Frame
  | expr | term | unary | primary
  | sign | parenthesis | argument
deriving DecidableEq

def Frame.opens : Frame → Bool
  | .sign | .parenthesis | .argument => true
  | _ => false

abbrev Tracing (α : Type) := List Token → Traced Misfit Frame (α × List Token)

namespace Tracing

def calling (frame : Frame) (read : List Frame → Tracing α) (stack : List Frame) : Tracing α :=
  fun tokens => (read (frame :: stack) tokens).noting (frame :: stack)

def chain (operand : Tracing Expr) (operation? : Token → Option Operation) : Nat → Expr → Tracing Expr
  | rounds + 1, left, token :: rest =>
    match operation? token with
    | some operation => do
      let (right, rest) ← operand rest
      chain operand operation? rounds (.binary operation left right) rest
    | none => .of (.ok (left, token :: rest))
  | _, left, tokens => .of (.ok (left, tokens))

/-- What is read one level deeper, by what is opened for it. -/
structure Level where
  expr : Frame → List Frame → Tracing Expr
  unary : List Frame → Tracing Expr

def Level.beyond : Level := ⟨fun _ _ _ => .of (.error .tooDeep), fun _ _ => .of (.error .tooDeep)⟩

def arguments (deeper : Level) (stack : List Frame) : Nat → Tracing (List Expr)
  | 0, tokens => do
    let (first, rest) ← deeper.expr .argument stack tokens
    return ([first], rest)
  | rounds + 1, tokens => do
    let (first, rest) ← deeper.expr .argument stack tokens
    match rest with
    | .comma :: rest =>
      let (more, rest) ← arguments deeper stack rounds rest
      return (first :: more, rest)
    | rest => return ([first], rest)

def argumentList (deeper : Level) (stack : List Frame) : Tracing (List Expr)
  | .closing :: rest => .of (.ok ([], rest))
  | tokens => do
    let (values, rest) ← arguments deeper stack tokens.length tokens
    return (values, ← .of (expect .closing rest))

/-- Only a call reads deeper; what else a name may be is settled aside. -/
def named (deeper : Level) (stack : List Frame) (word : String) : Tracing Expr
  | .opening :: rest => do
    let (values, rest) ← argumentList deeper stack rest
    return (.call word values, rest)
  | rest => .of (Script.named .beyond word rest)

def primary (deeper : Level) (stack : List Frame) : Tracing Expr
  | .opening :: rest => do
    let (inner, rest) ← deeper.expr .parenthesis stack rest
    return (inner, ← .of (expect .closing rest))
  | .name word :: rest => named deeper stack word rest
  | tokens => .of (Script.primary .beyond tokens)

def unary (deeper : Level) (stack : List Frame) : Tracing Expr
  | .minus :: rest => do
    let (operand, rest) ← deeper.unary stack rest
    return (.negate operand, rest)
  | tokens => calling .primary (primary deeper) stack tokens

def term (deeper : Level) (stack : List Frame) : Tracing Expr := fun tokens => do
  let (left, rest) ← calling .unary (unary deeper) stack tokens
  chain (calling .unary (unary deeper) stack) product? rest.length left rest

def expr (deeper : Level) (stack : List Frame) : Tracing Expr := fun tokens => do
  let (left, rest) ← calling .term (term deeper) stack tokens
  chain (calling .term (term deeper) stack) sum? rest.length left rest

def level : Nat → Level
  | 0 => .beyond
  | depth + 1 =>
    ⟨fun opening => calling opening (calling .expr (expr (level depth))),
      calling .sign (calling .unary (unary (level depth)))⟩

def fullExpr : Tracing Expr := calling .expr (expr (level maxNesting)) []

end Tracing

/-! The readers of statements and lines call nothing that calls them again. -/

def traceAssignment (tokens : List Token) : Traced Misfit Frame Statement := do
  let (target, rest) ← .of (target (afterDeclarator tokens))
  let rest ← .of (expect .assign rest)
  let (value, rest) ← Tracing.fullExpr rest
  match rest with
  | [] => return .assign target value
  | token :: _ => .of (.error (.unexpected token))

def traceStatement (tokens : List Token) : Traced Misfit Frame Statement :=
  if maxTokens < tokens.length then .of (.error .tooLong)
  else if tokens.head? = some (.name finishWord) then .of (.ok .finish)
  else traceAssignment tokens

def traceStatements : List (List Token) → Traced Misfit Frame Program
  | [] => .of (.ok [])
  | phrase :: rest => do
    let first ← traceStatement phrase
    let more ← traceStatements rest
    return first :: more

def traceLine (line : List Char) : Traced Misfit Frame Program := do
  let tokens ← .of (scan (stripComment line))
  traceStatements ((splitStatements tokens).filter (! ·.isEmpty))

def traceLines (number : Nat) : List (List Char) → Traced (Nat × Misfit) Frame Program
  | [] => .of (.ok [])
  | line :: rest => do
    let statements ← (traceLine line).mapError (number, ·)
    let more ← traceLines (number + 1) rest
    return statements ++ more

def Program.trace (source : String) : Traced (Nat × Misfit) Frame Program :=
  traceLines 1 (lines source.toList)

/-! Room for calls. There are four functions, and none calls itself again before it has opened something; so
five frames are enough for each level. -/

/-- Neither too much is open nor are the calls too many. -/
def Shallow (stack : List Frame) : Prop :=
  stack.countP Frame.opens ≤ maxNesting ∧ stack.length ≤ 5 * maxNesting + 4

/-- So many levels may still be opened, and no more calls than this were made since the last one was. -/
structure Room (calls levels : Nat) (stack : List Frame) : Prop where
  levels_le : stack.countP Frame.opens + levels ≤ maxNesting
  length_le : stack.length ≤ 5 * stack.countP Frame.opens + calls

namespace Room

variable {calls levels : Nat} {stack : List Frame} {frame : Frame}

theorem shallow (room : Room calls levels stack) (few : calls ≤ 4) : Shallow stack := by
  have := room.levels_le
  have := room.length_le
  exact ⟨by omega, by omega⟩

theorem mono {more : Nat} (room : Room calls levels stack) (le : calls ≤ more) : Room more levels stack :=
  ⟨room.levels_le, Nat.le_trans room.length_le (Nat.add_le_add_left le _)⟩

theorem call (room : Room calls levels stack) (function : frame.opens = false) :
    Room (calls + 1) levels (frame :: stack) := by
  have := room.length_le
  have same : (frame :: stack).countP Frame.opens = stack.countP Frame.opens :=
    List.countP_cons_of_neg (by simp [function])
  exact ⟨same ▸ room.levels_le, by rw [same, List.length_cons]; omega⟩

theorem opened (room : Room calls (levels + 1) stack) (few : calls ≤ 4) (opens : frame.opens = true) :
    Room 0 levels (frame :: stack) := by
  have := room.levels_le
  have := room.length_le
  have more : (frame :: stack).countP Frame.opens = stack.countP Frame.opens + 1 := List.countP_cons_of_pos opens
  exact ⟨by omega, by rw [List.length_cons]; omega⟩

end Room

def Agrees (trace : Tracing α) (read : Parser α) : Prop := ∀ tokens, (trace tokens).Comes Shallow (read tokens)

namespace Tracing

structure Level.Follows (traced : Tracing.Level) (level : Script.Level) (levels : Nat) : Prop where
  expr : ∀ opening stack, opening.opens → Room 4 levels stack → Agrees (traced.expr opening stack) level.expr
  unary : ∀ stack, Room 3 levels stack → Agrees (traced.unary stack) level.unary

section Readers

variable {traced : Tracing.Level} {level : Script.Level} {levels calls rounds : Nat} {stack : List Frame}
  {frame : Frame} {trace : Tracing Expr} {read : Parser Expr} {operation? : Token → Option Operation} {left : Expr}
  {word : String}

theorem calling_agrees {trace : List Frame → Tracing α} {read : Parser α} (shallow : Shallow (frame :: stack))
    (agrees : Agrees (trace (frame :: stack)) read) : Agrees (calling frame trace stack) read :=
  fun tokens => .noting shallow (agrees tokens)

theorem chain_agrees (operand : Agrees trace read) :
    Agrees (chain trace operation? rounds left) (Script.chain read operation? rounds left) := by
  induction rounds generalizing left with
  | zero => exact fun tokens => .of _
  | succ rounds ih =>
    intro tokens
    cases tokens with
    | nil => exact .of _
    | cons token rest =>
      unfold chain Script.chain
      cases operation? token with
      | none => exact .of _
      | some operation => exact .bind (operand rest) fun found => ih found.2

theorem arguments_agrees (follows : traced.Follows level levels) (room : Room 4 levels stack) :
    Agrees (arguments traced stack rounds) (Script.arguments level rounds) := by
  have first := follows.expr .argument stack rfl room
  induction rounds with
  | zero => exact fun tokens => .bind (first tokens) fun found => .pure _
  | succ rounds ih =>
    refine fun tokens => .bind (first tokens) fun found => ?_
    obtain ⟨value, _ | ⟨token, rest⟩⟩ := found
    · exact .pure _
    · cases token with
      | comma => exact .bind (ih rest) fun more => .pure _
      | _ => exact .pure _

theorem argumentList_agrees (follows : traced.Follows level levels) (room : Room 4 levels stack) :
    Agrees (argumentList traced stack) (Script.argumentList level) := by
  intro tokens
  cases tokens with
  | nil => exact .bind (arguments_agrees follows room _) fun found => .bind (.of _) fun rest => .pure _
  | cons token rest =>
    cases token with
    | closing => exact .of _
    | _ => exact .bind (arguments_agrees follows room _) fun found => .bind (.of _) fun rest => .pure _

theorem named_agrees (follows : traced.Follows level levels) (room : Room 4 levels stack) :
    Agrees (named traced stack word) (Script.named level word) := by
  intro tokens
  cases tokens with
  | nil => exact .of _
  | cons token rest =>
    cases token with
    | opening => exact .bind (argumentList_agrees follows room rest) fun found => .pure _
    | _ => exact .of _

theorem primary_agrees (follows : traced.Follows level levels) (room : Room 4 levels stack) :
    Agrees (primary traced stack) (Script.primary level) := by
  intro tokens
  cases tokens with
  | nil => exact .of _
  | cons token rest =>
    cases token with
    | opening =>
      refine .bind (follows.expr .parenthesis stack rfl room rest) fun found => ?_
      exact .bind (.of _) fun rest => .pure _
    | name word => exact named_agrees follows room rest
    | _ => exact .of _

theorem unary_agrees (follows : traced.Follows level levels) (room : Room 3 levels stack) :
    Agrees (unary traced stack) (Script.unary level) := by
  have called : Room 4 levels (.primary :: stack) := room.call rfl
  have operand : Agrees (calling .primary (primary traced) stack) (Script.primary level) :=
    calling_agrees (called.shallow (Nat.le_refl 4)) (primary_agrees follows called)
  intro tokens
  cases tokens with
  | nil => exact operand []
  | cons token rest =>
    cases token with
    | minus => exact .bind (follows.unary stack room rest) fun found => .pure _
    | _ => exact operand (_ :: rest)

theorem term_agrees (follows : traced.Follows level levels) (room : Room 2 levels stack) :
    Agrees (term traced stack) (Script.term level) := by
  have called : Room 3 levels (.unary :: stack) := room.call rfl
  have operand : Agrees (calling .unary (unary traced) stack) (Script.unary level) :=
    calling_agrees (called.shallow (by decide)) (unary_agrees follows called)
  exact fun tokens => .bind (operand tokens) fun found => chain_agrees operand found.2

theorem expr_agrees (follows : traced.Follows level levels) (room : Room 1 levels stack) :
    Agrees (expr traced stack) (Script.expr level) := by
  have called : Room 2 levels (.term :: stack) := room.call rfl
  have operand : Agrees (calling .term (term traced) stack) (Script.term level) :=
    calling_agrees (called.shallow (by decide)) (term_agrees follows called)
  exact fun tokens => .bind (operand tokens) fun found => chain_agrees operand found.2

end Readers

theorem level_follows (levels : Nat) : (level levels).Follows (Script.level levels) levels := by
  induction levels with
  | zero => exact ⟨fun _ _ _ _ _ => .of _, fun _ _ _ => .of _⟩
  | succ levels ih =>
    refine ⟨fun opening stack opens room => ?_, fun stack room => ?_⟩
    · have opened : Room 0 levels (opening :: stack) := room.opened (Nat.le_refl 4) opens
      have called : Room 1 levels (.expr :: opening :: stack) := opened.call rfl
      exact calling_agrees (opened.shallow (by decide))
        (calling_agrees (called.shallow (by decide)) (expr_agrees ih called))
    · have opened : Room 0 levels (.sign :: stack) := room.opened (by decide) rfl
      have called : Room 1 levels (.unary :: .sign :: stack) := opened.call rfl
      exact calling_agrees (opened.shallow (by decide))
        (calling_agrees (called.shallow (by decide)) (unary_agrees ih (called.mono (by decide))))

theorem fullExpr_agrees : Agrees fullExpr Script.fullExpr := by
  have called : Room 1 maxNesting [.expr] := ⟨by decide, by decide⟩
  exact calling_agrees (called.shallow (by decide)) (expr_agrees (level_follows maxNesting) called)

end Tracing

theorem traceAssignment_comes (tokens : List Token) :
    (traceAssignment tokens).Comes Shallow (assignment tokens) := by
  refine .bind (.of _) fun placed => .bind (.of _) fun rest => .bind (Tracing.fullExpr_agrees rest) fun found => ?_
  obtain ⟨value, _ | ⟨token, rest⟩⟩ := found
  · exact .pure _
  · exact .of _

theorem traceStatement_comes (tokens : List Token) :
    (traceStatement tokens).Comes Shallow (boundedStatement tokens) := by
  unfold traceStatement boundedStatement statement
  split
  · exact .of _
  · split
    · exact .of _
    · exact traceAssignment_comes tokens

theorem traceStatements_comes (phrases : List (List Token)) :
    (traceStatements phrases).Comes Shallow (phrases.mapM boundedStatement) := by
  induction phrases with
  | nil => exact .of _
  | cons phrase rest ih =>
    rw [List.mapM_cons]
    exact .bind (traceStatement_comes phrase) fun first => .bind ih fun more => .pure _

theorem traceLine_comes (line : List Char) : (traceLine line).Comes Shallow (readLine line) :=
  .bind (.of _) fun _ => traceStatements_comes _

theorem readLines_cons (number : Nat) (line : List Char) (rest : List (List Char)) :
    readLines number (line :: rest) = (do
      let statements ← (readLine line).mapError (number, ·)
      let more ← readLines (number + 1) rest
      return statements ++ more) := by
  rw [readLines]
  cases readLine line with
  | error misfit => rfl
  | ok statements => cases readLines (number + 1) rest <;> rfl

theorem traceLines_comes (number : Nat) (lines : List (List Char)) :
    (traceLines number lines).Comes Shallow (readLines number lines) := by
  induction lines generalizing number with
  | nil => exact .of _
  | cons line rest ih =>
    rw [readLines_cons]
    exact .bind ((traceLine_comes line).mapError _) fun statements => .bind (ih _) fun more => .pure _

theorem Program.trace_comes (source : String) : (Program.trace source).Comes Shallow (Program.read source) :=
  traceLines_comes 1 _

end Switchboard.Script
