import Switchboard.Proofs.Script.Parsing

/-! Only what is written is read, and so the statements are exactly the lists that can be read. A reader is
judged by what it takes from the front of the tokens; its levels are judged from the bottom up, and
its chains round by round. -/
namespace Switchboard.Script

/-- What the reader takes is a phrase, and one that stays above this depth. -/
def Reads (parser : Parser α) (Is : Nat → List Token → α → Prop) (depth : Nat) : Prop :=
  ∀ tokens a rest, parser tokens = .ok (a, rest) →
    ∃ front n, front ++ rest = tokens ∧ n < depth ∧ Is n front a

structure Level.Sound (deeper : Level) (depth : Nat) : Prop where
  expr : Reads deeper.expr IsExpr depth
  unary : Reads deeper.unary IsUnary depth

theorem expect_eq_ok_iff {wanted : Token} {tokens rest : List Token} :
    expect wanted tokens = .ok rest ↔ tokens = wanted :: rest := by
  cases tokens with
  | nil => simp [expect]
  | cons token tokens =>
    simp only [expect, List.cons.injEq]
    split <;> simp [*]

section Chain

variable {Whole Part : Nat → List Token → Expr → Prop} {operand : Parser Expr}
  {operation? : Token → Option Operation} {depth : Nat}

theorem chain_sound_stop {n : Nat} {l e : Expr} {front tokens rest : List Token}
    (begun : Whole n front l) (shallow : n < depth)
    (read : (.ok (l, tokens) : Except Misfit _) = .ok (e, rest)) :
    ∃ back m, back ++ rest = tokens ∧ m < depth ∧ Whole m (front ++ back) e := by
  cases read
  exact ⟨[], n, rfl, shallow, by rwa [List.append_nil]⟩

/-- The operands so far are the front of a phrase, and every round makes it longer. -/
theorem chain_sound (parts : Reads operand Part depth)
    (more : ∀ {n m left l token operation right r}, Whole n left l →
      operation? token = some operation → Part m right r →
      Whole (max n m) (left ++ token :: right) (.binary operation l r))
    {rounds n : Nat} {l e : Expr} {front tokens rest : List Token} (begun : Whole n front l)
    (shallow : n < depth) (read : chain operand operation? rounds l tokens = .ok (e, rest)) :
    ∃ back m, back ++ rest = tokens ∧ m < depth ∧ Whole m (front ++ back) e := by
  induction rounds generalizing l tokens n front with
  | zero => exact chain_sound_stop begun shallow read
  | succ rounds ih =>
    cases tokens with
    | nil => exact chain_sound_stop begun shallow read
    | cons token tokens =>
      unfold chain at read
      split at read
      · rename_i operation operates
        obtain ⟨⟨r, tokens⟩, second, further⟩ := Except.bind_eq_ok_iff.1 read
        obtain ⟨right, m, rfl, deep, part⟩ := parts _ _ _ second
        have both : max n m < depth := by omega
        obtain ⟨back, k, rfl, within, phrase⟩ := ih (more begun operates part) both further
        exact ⟨token :: (right ++ back), k, by simp, within, by simpa using phrase⟩
      · exact chain_sound_stop begun shallow read

theorem chained_sound (parts : Reads operand Part depth)
    (one : ∀ {n front e}, Part n front e → Whole n front e)
    (more : ∀ {n m left l token operation right r}, Whole n left l →
      operation? token = some operation → Part m right r →
      Whole (max n m) (left ++ token :: right) (.binary operation l r)) :
    Reads (chained operand operation?) Whole depth := by
  intro tokens e rest read
  obtain ⟨⟨l, tokens⟩, first, further⟩ := Except.bind_eq_ok_iff.1 read
  obtain ⟨front, n, rfl, shallow, part⟩ := parts _ _ _ first
  obtain ⟨back, m, rfl, within, phrase⟩ := chain_sound parts more (one part) shallow further
  exact ⟨front ++ back, m, by simp, within, phrase⟩

end Chain

section Levels

variable {deeper : Level} {depth rounds : Nat} {tokens rest : List Token}

theorem arguments_sound (sound : deeper.Sound depth) :
    Reads (arguments deeper rounds) IsValues (depth + 1) := by
  induction rounds with
  | zero =>
    intro tokens values rest read
    obtain ⟨⟨e, tokens⟩, value, done⟩ := Except.bind_eq_ok_iff.1 read
    obtain ⟨front, n, rfl, shallow, phrase⟩ := sound.expr _ _ _ value
    cases done
    exact ⟨front, n + 1, rfl, Nat.succ_lt_succ shallow, .one phrase⟩
  | succ rounds ih =>
    intro tokens values rest read
    obtain ⟨⟨e, tokens⟩, value, done⟩ := Except.bind_eq_ok_iff.1 read
    obtain ⟨front, n, rfl, shallow, phrase⟩ := sound.expr _ _ _ value
    dsimp only at done
    split at done
    · obtain ⟨⟨values, tokens⟩, others, ended⟩ := Except.bind_eq_ok_iff.1 done
      obtain ⟨back, m, rfl, within, more⟩ := ih _ _ _ others
      cases ended
      exact ⟨front ++ .comma :: back, max (n + 1) m, by simp, by omega, .more phrase more⟩
    · cases done
      exact ⟨front, n + 1, rfl, Nat.succ_lt_succ shallow, .one phrase⟩

theorem argumentList_sound (sound : deeper.Sound depth) {values : List Expr}
    (read : argumentList deeper tokens = .ok (values, rest)) :
    ∃ front n, front ++ .closing :: rest = tokens ∧ n < depth + 1 ∧ IsArguments n front values := by
  unfold argumentList at read
  split at read
  · cases read
    exact ⟨[], 0, rfl, Nat.succ_pos depth, .nothing⟩
  · obtain ⟨⟨values, tokens⟩, others, done⟩ := Except.bind_eq_ok_iff.1 read
    obtain ⟨rest, closes, done⟩ := Except.bind_eq_ok_iff.1 done
    obtain ⟨front, n, rfl, within, phrase⟩ := arguments_sound sound _ _ _ others
    cases expect_eq_ok_iff.1 closes
    cases done
    exact ⟨front, n, rfl, within, .values phrase⟩

theorem named_sound (sound : deeper.Sound depth) {word : String} {e : Expr}
    (read : named deeper word tokens = .ok (e, rest)) :
    ∃ front n, front ++ rest = tokens ∧ n < depth + 1 ∧ IsPrimary n (.name word :: front) e := by
  unfold named at read
  split at read
  · obtain ⟨⟨values, tokens⟩, others, done⟩ := Except.bind_eq_ok_iff.1 read
    obtain ⟨front, n, rfl, within, phrase⟩ := argumentList_sound sound others
    cases done
    exact ⟨.opening :: (front ++ [.closing]), n, by simp, within, .call phrase⟩
  · split at read
    · rename_i vars
      split at read
      · cases read
        exact ⟨[.dot, .name _], 0, rfl, Nat.succ_pos depth, vars ▸ .variable⟩
      · contradiction
    · cases read
      exact ⟨[], 0, rfl, Nat.succ_pos depth, .name⟩
  · cases read
    exact ⟨[], 0, rfl, Nat.succ_pos depth, .name⟩

theorem primary_sound (sound : deeper.Sound depth) :
    Reads (primary deeper) IsPrimary (depth + 1) := by
  intro tokens e rest read
  unfold primary at read
  split at read
  · cases read
    exact ⟨[.text _], 0, rfl, Nat.succ_pos depth, .text⟩
  · cases read
    exact ⟨[.number _], 0, rfl, Nat.succ_pos depth, .number⟩
  · obtain ⟨⟨e, tokens⟩, inner, done⟩ := Except.bind_eq_ok_iff.1 read
    obtain ⟨rest, closes, done⟩ := Except.bind_eq_ok_iff.1 done
    obtain ⟨front, n, rfl, shallow, phrase⟩ := sound.expr _ _ _ inner
    cases expect_eq_ok_iff.1 closes
    cases done
    exact ⟨.opening :: (front ++ [.closing]), n + 1, by simp, Nat.succ_lt_succ shallow, .group phrase⟩
  · obtain ⟨front, n, rfl, within, phrase⟩ := named_sound sound read
    exact ⟨.name _ :: front, n, rfl, within, phrase⟩
  · contradiction
  · contradiction

theorem unary_sound (sound : deeper.Sound depth) : Reads (unary deeper) IsUnary (depth + 1) := by
  intro tokens e rest read
  unfold unary at read
  split at read
  · obtain ⟨⟨e, tokens⟩, operand, done⟩ := Except.bind_eq_ok_iff.1 read
    obtain ⟨front, n, rfl, shallow, phrase⟩ := sound.unary _ _ _ operand
    cases done
    exact ⟨.minus :: front, n + 1, rfl, Nat.succ_lt_succ shallow, .negate phrase⟩
  · obtain ⟨front, n, rfl, within, phrase⟩ := primary_sound sound _ _ _ read
    exact ⟨front, n, rfl, within, .primary phrase⟩

theorem expr_sound (sound : deeper.Sound depth) : Reads (expr deeper) IsExpr (depth + 1) := by
  rw [expr_eq]
  refine chained_sound ?_ .term
    fun begun sum part => .sum begun (isSum_of_sum? sum) part
  rw [term_eq]
  exact chained_sound (unary_sound sound) .unary
    fun begun product part => .product begun (isProduct_of_product? product) part

end Levels

theorem level_sound (depth : Nat) : (level depth).Sound depth := by
  induction depth with
  | zero => exact ⟨nofun, nofun⟩
  | succ depth ih => exact ⟨expr_sound ih, unary_sound ih⟩

/-! Statements: a target and a value, both read to their end. -/

section Statements

variable {n m : Nat} {tokens rest front : List Token} {e f : Expr} {s t : Statement}
  {place : Target}

theorem allow_injective {a b : α}
    (same : ∀ depth, allow n depth (.ok a) = allow m depth (.ok b)) : n = m ∧ a = b := by
  -- What is read where `n` is allowed nests no deeper than `n`, and likewise for `m`.
  obtain ⟨le, equal⟩ := allow_eq_ok_iff.1 ((same n).symm.trans (if_pos (Nat.le_refl n)))
  have ge := (allow_eq_ok_iff.1 ((same m).trans (if_pos (Nat.le_refl m)))).1
  exact ⟨Nat.le_antisymm ge le, (Except.ok.inj equal).symm⟩

theorem IsExpr.reads (phrase : IsExpr n front e) (depth : Nat) :
    expr (level depth) front = allow n depth (.ok (e, [])) := by
  have read := phrase.follows depth [] _ endsExpr_nil.1 fun rounds _ => chain_stop endsExpr_nil.2
  rwa [List.append_nil] at read

theorem IsExpr.unique (phrase : IsExpr n tokens e) (again : IsExpr m tokens f) : n = m ∧ e = f := by
  have same := allow_injective fun depth => (phrase.reads depth).symm.trans (again.reads depth)
  exact ⟨same.1, (Prod.mk.inj same.2).1⟩

theorem IsTarget.reads (phrase : IsTarget front place) :
    target (front ++ .assign :: rest) = .ok (place, .assign :: rest) := by
  cases phrase <;> simp [target, variablesWord]

theorem target_sound (read : target tokens = .ok (place, rest)) :
    ∃ front, front ++ rest = tokens ∧ IsTarget front place := by
  unfold target at read
  split at read
  · split at read
    · rename_i vars
      split at read
      · cases read
        exact ⟨[.name _, .dot, .name _], rfl, vars ▸ .variable⟩
      · contradiction
    · cases read
      exact ⟨[.name _], rfl, .name⟩
  · cases read
    exact ⟨[.name _], rfl, .name⟩
  · contradiction

theorem isAssignment_iff :
    IsAssignment n tokens s ↔ ∃ place back value,
      target tokens = .ok (place, .assign :: back) ∧ IsExpr n back value ∧ s = .assign place value := by
  constructor
  · intro phrase
    cases phrase with
    | assign place value => exact ⟨_, _, _, place.reads, value, rfl⟩
  · intro read
    obtain ⟨place, back, value, read, phrase, rfl⟩ := read
    obtain ⟨front, rfl, written⟩ := target_sound read
    exact .assign written phrase

theorem IsAssignment.unique (phrase : IsAssignment n tokens s) (again : IsAssignment m tokens t) :
    n = m ∧ s = t := by
  obtain ⟨place, back, value, first, written, rfl⟩ := isAssignment_iff.1 phrase
  obtain ⟨_, _, other, second, rewritten, rfl⟩ := isAssignment_iff.1 again
  cases first.symm.trans second
  have same := written.unique rewritten
  exact ⟨same.1, congrArg _ same.2⟩

theorem IsAssignment.reads (phrase : IsAssignment n (afterDeclarator tokens) s) :
    assignment tokens = allow n maxNesting (.ok s) := by
  obtain ⟨place, back, value, begins, written, rfl⟩ := isAssignment_iff.1 phrase
  have read : fullExpr back = _ := written.reads maxNesting
  have assigns : expect .assign (.assign :: back) = .ok back := expect_eq_ok_iff.2 rfl
  simp only [assignment, begins, assigns, read, Except.ok_bind, allow_bind]
  rfl

theorem assignment_sound (read : assignment tokens = .ok s) :
    ∃ n ≤ maxNesting, IsAssignment n (afterDeclarator tokens) s := by
  obtain ⟨⟨place, rest⟩, begins, after⟩ := Except.bind_eq_ok_iff.1 read
  obtain ⟨back, assigns, after⟩ := Except.bind_eq_ok_iff.1 after
  obtain ⟨⟨value, rest⟩, reads, ended⟩ := Except.bind_eq_ok_iff.1 after
  cases expect_eq_ok_iff.1 assigns
  obtain ⟨front, n, rfl, within, phrase⟩ := expr_sound (level_sound maxNesting) _ _ _ reads
  cases rest with
  | cons token rest => contradiction
  | nil =>
    cases ended
    rw [List.append_nil] at begins
    exact ⟨n, Nat.le_of_lt_succ within, isAssignment_iff.2 ⟨place, front, value, begins, phrase, rfl⟩⟩

theorem isDeclarator_iff {word : String} : isDeclarator word ↔ word ∈ declarators := by
  simp [isDeclarator, declarators, or_assoc]

theorem afterDeclarator_of_free
    (free : ∀ word ∈ declarators, tokens.head? ≠ some (.name word)) :
    afterDeclarator tokens = tokens := by
  unfold afterDeclarator
  split
  · rename_i word rest
    rw [if_neg fun declares => free word (isDeclarator_iff.1 declares) rfl]
  · rfl

theorem afterDeclarator_suffix (tokens : List Token) : afterDeclarator tokens <:+ tokens := by
  unfold afterDeclarator
  split
  · split
    · exact List.suffix_cons _ _
    · exact List.suffix_refl _
  · exact List.suffix_refl _

theorem isStatement_iff :
    IsStatement n tokens s ↔
      if tokens.head? = some (.name finishWord) then n = 0 ∧ s = .finish
      else IsAssignment n (afterDeclarator tokens) s := by
  constructor
  · intro phrase
    cases phrase with
    | finish => simp [finishWord]
    | @declared word _ _ _ declares phrase =>
      have other : word ≠ finishWord := by
        rintro rfl
        simp [declarators, finishWord] at declares
      simpa [other, afterDeclarator, isDeclarator_iff.2 declares] using phrase
    | plain free phrase =>
      rw [if_neg (free finishWord (.head _)),
        afterDeclarator_of_free fun word declares => free word (.tail _ declares)]
      exact phrase
  · intro phrase
    split at phrase
    · rename_i finishes
      obtain ⟨rfl, rfl⟩ := phrase
      obtain ⟨rest, rfl⟩ := List.head?_eq_some_iff.1 finishes
      exact .finish
    · rename_i goesOn
      by_cases declared : ∃ word ∈ declarators, tokens.head? = some (.name word)
      · obtain ⟨word, declares, begins⟩ := declared
        obtain ⟨rest, rfl⟩ := List.head?_eq_some_iff.1 begins
        rw [afterDeclarator, if_pos (isDeclarator_iff.2 declares)] at phrase
        exact .declared declares phrase
      · have free word (declares : word ∈ declarators) : tokens.head? ≠ some (.name word) :=
          fun begins => declared ⟨word, declares, begins⟩
        rw [afterDeclarator_of_free free] at phrase
        exact .plain (List.forall_mem_cons.2 ⟨goesOn, free⟩) phrase

end Statements

/-- Exactly the statements that nest no deeper than they may are read, each as its only tree. One that needs
another level is refused for that. -/
theorem statement_recognises (tokens : List Token) :
    (∀ s, statement tokens = .ok s ↔ ∃ n ≤ maxNesting, IsStatement n tokens s) ∧
      (∀ n m s t, IsStatement n tokens s → IsStatement m tokens t → n = m ∧ s = t) ∧
      ∀ n s, IsStatement n tokens s → maxNesting < n → statement tokens = .error .tooDeep := by
  simp only [isStatement_iff, statement]
  split
  · refine ⟨fun s => ⟨?_, ?_⟩, ?_, ?_⟩
    · rintro ⟨⟩
      exact ⟨0, Nat.zero_le _, rfl, rfl⟩
    · rintro ⟨n, -, -, rfl⟩
      rfl
    · rintro n m s t ⟨rfl, rfl⟩ ⟨rfl, rfl⟩
      exact ⟨rfl, rfl⟩
    · rintro n s ⟨rfl, -⟩ deep
      contradiction
  · refine ⟨fun s => ⟨assignment_sound, ?_⟩, ?_, ?_⟩
    · rintro ⟨n, within, phrase⟩
      exact phrase.reads.trans (if_pos within)
    · exact fun n m s t => IsAssignment.unique
    · exact fun n s phrase deep => phrase.reads.trans (if_neg (Nat.not_le.2 deep))

def signs (count : Nat) : List Token :=
  .name "x" :: .assign :: (List.replicate count .minus ++ [.text "1"])

def negated : Nat → Expr
  | 0 => .text "1"
  | count + 1 => .negate (negated count)

theorem signs_isStatement (count : Nat) :
    IsStatement count (signs count) (.assign (.name "x") (negated count)) := by
  have value : IsUnary count (List.replicate count .minus ++ [.text "1"]) (negated count) := by
    induction count with
    | zero => exact .primary .text
    | succ count ih => exact .negate ih
  exact .plain (by simp [signs, declarators]) (.assign .name (.term (.unary value)))

/-- The last nesting that is read, and the first that is not. -/
theorem signs_bounded :
    (statement (signs 64) = .ok (.assign (.name "x") (negated 64)) ∧
      ¬ IsStatement 63 (signs 64) (.assign (.name "x") (negated 64))) ∧
      statement (signs 65) = .error .tooDeep := by
  have read := statement_recognises (signs 64)
  refine ⟨⟨(read.1 _).2 ⟨64, Nat.le_refl _, signs_isStatement 64⟩, fun other => ?_⟩, ?_⟩
  · exact absurd (read.2.1 _ _ _ _ other (signs_isStatement 64)).1 (by decide)
  · exact (statement_recognises (signs 65)).2.2 65 _ (signs_isStatement 65) (by decide)

end Switchboard.Script
