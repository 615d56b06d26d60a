import Switchboard.Proofs.Script.Grammar
import Switchboard.Proofs.Success
import Switchboard.Script.Parser

/-! Reading is recognising. Whatever follows a phrase, a reader that admits its nesting takes this phrase and
leaves the rest, and one that does not refuses it as too deep. So a list of tokens has one tree at
most, and reading finds it. -/
namespace Switchboard.Script

def allow (nesting depth : Nat) (result : Except Misfit α) : Except Misfit α :=
  if nesting ≤ depth then result else .error .tooDeep

def chained (operand : Parser Expr) (operation? : Token → Option Operation) : Parser Expr :=
  fun tokens => do
    let (left, rest) ← operand tokens
    chain operand operation? rest.length left rest

def EndsUnary (rest : List Token) : Prop := ∀ token ∈ rest.head?, token ≠ .opening ∧ token ≠ .dot

def EndsTerm (rest : List Token) : Prop :=
  EndsUnary rest ∧ ∀ token ∈ rest.head?, product? token = none

def EndsExpr (rest : List Token) : Prop :=
  EndsTerm rest ∧ ∀ token ∈ rest.head?, sum? token = none

section Allow

variable {n m depth : Nat} {result : Except Misfit α}

@[simp] theorem allow_zero : allow 0 depth result = result := if_pos (Nat.zero_le depth)

@[simp] theorem allow_succ : allow (n + 1) (depth + 1) result = allow n depth result := by
  simp [allow]

@[simp] theorem allow_succ_zero : allow (n + 1) 0 result = .error .tooDeep := if_neg (by omega)

theorem allow_max : allow (max n m) depth result = allow n depth (allow m depth result) := by
  by_cases first : n ≤ depth
  · simp only [allow, Nat.max_le, first, true_and, if_true]
  · simp only [allow, Nat.max_le, first, false_and, if_false]

@[simp] theorem allow_bind {a : α} {next : α → Except Misfit β} :
    (allow n depth (.ok a) >>= next) = allow n depth (next a) := by
  unfold allow
  split <;> rfl

theorem allow_eq_ok_iff {a : α} : allow n depth result = .ok a ↔ n ≤ depth ∧ result = .ok a := by
  unfold allow
  split <;> simp [*]

end Allow

theorem IsSum.sum? {token : Token} {operation : Operation} (sum : IsSum token operation) :
    Script.sum? token = some operation := by
  cases sum <;> rfl

theorem IsProduct.product? {token : Token} {operation : Operation}
    (product : IsProduct token operation) : Script.product? token = some operation := by
  cases product <;> rfl

theorem isSum_of_sum? {token : Token} {operation : Operation}
    (sum : sum? token = some operation) : IsSum token operation := by
  cases token <;> simp [sum?] at sum <;> subst sum <;> constructor

theorem isProduct_of_product? {token : Token} {operation : Operation}
    (product : product? token = some operation) : IsProduct token operation := by
  cases token <;> simp [product?] at product <;> subst product <;> constructor

section Chain

variable {operand : Parser Expr} {operation? : Token → Option Operation} {operation : Operation}
  {l r : Expr} {token : Token} {front rest tokens : List Token} {rounds n depth : Nat}
  {result : Except Misfit (Expr × List Token)}

theorem term_eq (deeper : Level) : term deeper = chained (unary deeper) product? := rfl

theorem expr_eq (deeper : Level) : expr deeper = chained (term deeper) sum? := rfl

theorem chain_stop (stops : ∀ token ∈ rest.head?, operation? token = none) :
    chain operand operation? rounds l rest = .ok (l, rest) := by
  cases rest with
  | nil => cases rounds <;> rfl
  | cons token rest =>
    cases rounds with
    | zero => rfl
    | succ rounds => simp [chain, stops token rfl]

theorem chained_first (first : operand (front ++ rest) = allow n depth (.ok (l, rest)))
    (go : ∀ rounds, rest.length ≤ rounds → chain operand operation? rounds l rest = result) :
    chained operand operation? (front ++ rest) = allow n depth result := by
  simp only [chained, first, allow_bind, go _ (Nat.le_refl _)]

theorem chain_next (operates : operation? token = some operation)
    (second : operand (front ++ rest) = allow n depth (.ok (r, rest)))
    (go : ∀ rounds, rest.length ≤ rounds →
      chain operand operation? rounds (.binary operation l r) rest = result)
    (room : (token :: (front ++ rest)).length ≤ rounds) :
    chain operand operation? rounds l (token :: (front ++ rest)) = allow n depth result := by
  simp only [List.length_cons, List.length_append] at room
  cases rounds with
  | zero => omega
  | succ rounds => simp only [chain, operates, second, allow_bind, go rounds (by omega)]

end Chain

section Ends

variable {token : Token} {operation : Operation} {rest : List Token}

theorem endsTerm_of_sum (sum : IsSum token operation) : EndsTerm (token :: rest) := by
  cases sum <;> simp [EndsTerm, EndsUnary, product?]

theorem endsUnary_of_product (product : IsProduct token operation) :
    EndsUnary (token :: rest) := by
  cases product <;> simp [EndsUnary]

theorem endsExpr_nil : EndsExpr [] := by simp [EndsExpr, EndsTerm, EndsUnary]

theorem endsExpr_closing : EndsExpr (.closing :: rest) := by
  simp [EndsExpr, EndsTerm, EndsUnary, product?, sum?]

theorem endsExpr_comma : EndsExpr (.comma :: rest) := by
  simp [EndsExpr, EndsTerm, EndsUnary, product?, sum?]

end Ends

/-! What is written is read. -/

section Levels

variable {n rounds : Nat} {tokens rest : List Token} {e : Expr} (depth : Nat)

/-- Of both readers of a level: what is read one level deeper needs one level more. -/
theorem level_reads (part : Level → Parser Expr) (beyond : part .beyond tokens = .error .tooDeep)
    (reads : ∀ depth, part (level (depth + 1)) tokens = allow n depth (.ok (e, rest))) :
    part (level depth) tokens = allow (n + 1) depth (.ok (e, rest)) := by
  cases depth with
  | zero => rw [allow_succ_zero]; exact beyond
  | succ depth => rw [allow_succ]; exact reads depth

theorem IsPrimary.unary_eq (phrase : IsPrimary n tokens e) (deeper : Level) :
    unary deeper (tokens ++ rest) = primary deeper (tokens ++ rest) := by
  cases phrase <;> rfl

theorem named_eq (word : String) (ends : EndsUnary rest) (deeper : Level) :
    named deeper word rest = .ok (.name word, rest) := by
  unfold named
  split
  · simp [EndsUnary] at ends
  · simp [EndsUnary] at ends
  · rfl

theorem argumentList_eq {deeper : Level} (opens : ∀ other, tokens ≠ .closing :: other) :
    argumentList deeper tokens = (do
      let (values, rest) ← arguments deeper tokens.length tokens
      return (values, ← expect .closing rest)) := by
  unfold argumentList
  split
  · exact absurd rfl (opens _)
  · rfl

theorem arguments_closing :
    arguments (level depth) rounds (.closing :: rest) =
      .error (if depth = 0 then .tooDeep else .unexpected .closing) := by
  cases depth <;> cases rounds <;> rfl

end Levels

mutual

/-- The chain that follows is left open, so that the left operand of a sum is an expression that a chain
follows. -/
theorem IsExpr.follows {n : Nat} {front : List Token} {e : Expr} :
    IsExpr n front e → ∀ (depth : Nat) (rest : List Token) (result : Except Misfit (Expr × List Token)),
      EndsTerm rest →
      (∀ rounds, rest.length ≤ rounds →
        chain (term (level depth)) sum? rounds e rest = result) →
      expr (level depth) (front ++ rest) = allow n depth result
  | .term phrase, depth, rest, result, ends, go =>
    chained_first
      (phrase.follows depth rest _ ends.1 fun rounds _ => chain_stop ends.2) go
  | .sum left sign right, depth, rest, result, ends, go => by
    -- To the left operand, the sign and the right operand are the first round of its chain.
    rw [List.append_assoc, List.cons_append, allow_max]
    refine left.follows depth _ _ (endsTerm_of_sum sign) fun rounds room => ?_
    exact chain_next sign.sum?
      (right.follows depth rest _ ends.1 fun rounds _ => chain_stop ends.2) go room

theorem IsTerm.follows {n : Nat} {front : List Token} {e : Expr} :
    IsTerm n front e → ∀ (depth : Nat) (rest : List Token) (result : Except Misfit (Expr × List Token)),
      EndsUnary rest →
      (∀ rounds, rest.length ≤ rounds →
        chain (unary (level depth)) product? rounds e rest = result) →
      term (level depth) (front ++ rest) = allow n depth result
  | .unary phrase, depth, rest, result, ends, go =>
    chained_first (phrase.reads depth rest ends) go
  | .product left sign right, depth, rest, result, ends, go => by
    rw [List.append_assoc, List.cons_append, allow_max]
    refine left.follows depth _ _ (endsUnary_of_product sign) fun rounds room => ?_
    exact chain_next sign.product? (right.reads depth rest ends) go room

theorem IsUnary.reads {n : Nat} {front : List Token} {e : Expr} :
    IsUnary n front e → ∀ (depth : Nat) (rest : List Token), EndsUnary rest →
      unary (level depth) (front ++ rest) = allow n depth (.ok (e, rest))
  | .primary phrase, depth, rest, ends => by
    rw [phrase.unary_eq]
    exact phrase.reads depth rest ends
  | .negate phrase, depth, rest, ends => by
    have operand := level_reads depth Level.unary rfl fun depth => phrase.reads depth rest ends
    simp only [List.cons_append, unary, operand, allow_bind]
    rfl

theorem IsPrimary.reads {n : Nat} {front : List Token} {e : Expr} :
    IsPrimary n front e → ∀ (depth : Nat) (rest : List Token), EndsUnary rest →
      primary (level depth) (front ++ rest) = allow n depth (.ok (e, rest))
  | .text, depth, rest, ends => by simp [primary]
  | .number, depth, rest, ends => by simp [primary]
  | .variable, depth, rest, ends => by simp [primary, named, variablesWord]
  | .name, depth, rest, ends => by simp [primary, named_eq _ ends]
  | .group phrase, depth, rest, ends => by
    have inner := level_reads depth Level.expr rfl fun depth =>
      phrase.follows depth (.closing :: rest) _ endsExpr_closing.1
        fun rounds _ => chain_stop endsExpr_closing.2
    simp only [List.cons_append, List.append_assoc, List.nil_append, primary, inner, allow_bind]
    rfl
  | .call phrase, depth, rest, ends => by
    simp only [List.cons_append, List.append_assoc, List.nil_append, primary, named,
      phrase.reads depth rest, allow_bind]
    rfl

theorem IsArguments.reads {n : Nat} {front : List Token} {values : List Expr} :
    IsArguments n front values → ∀ (depth : Nat) (rest : List Token),
      argumentList (level depth) (front ++ .closing :: rest) = allow n depth (.ok (values, rest))
  | .nothing, depth, rest => by simp [argumentList]
  | .values phrase, depth, rest => by
    -- At its own nesting the list is read, which a list that begins with its end is not.
    have opens : ∀ other, front ++ .closing :: rest ≠ .closing :: other := by
      intro other same
      have read := phrase.reads n _ rest (Nat.le_refl _)
      rw [same, arguments_closing n] at read
      simp [allow] at read
    have read := phrase.reads depth (front ++ .closing :: rest).length rest (by simp)
    simp only [argumentList_eq opens, read, allow_bind]
    rfl

theorem IsValues.reads {n : Nat} {front : List Token} {values : List Expr} :
    IsValues n front values → ∀ (depth rounds : Nat) (rest : List Token), front.length ≤ rounds →
      arguments (level depth) rounds (front ++ .closing :: rest) =
        allow n depth (.ok (values, .closing :: rest))
  | .one phrase, depth, rounds, rest, room => by
    have value := level_reads depth Level.expr rfl fun depth =>
      phrase.follows depth (.closing :: rest) _ endsExpr_closing.1
        fun rounds _ => chain_stop endsExpr_closing.2
    cases rounds <;> simp only [arguments, value, allow_bind] <;> rfl
  | @IsValues.more _ _ _ _ more _ phrase others, depth, rounds, rest, room => by
    have value := level_reads depth Level.expr rfl fun depth =>
      phrase.follows depth (.comma :: (more ++ .closing :: rest)) _ endsExpr_comma.1
        fun rounds _ => chain_stop endsExpr_comma.2
    simp only [List.length_append, List.length_cons] at room
    cases rounds with
    | zero => omega
    | succ rounds =>
      have further := others.reads depth rounds rest (by omega)
      simp only [List.append_assoc, List.cons_append, arguments, value, further, allow_bind,
        allow_max]
      rfl

end

end Switchboard.Script
