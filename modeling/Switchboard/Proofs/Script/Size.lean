import Switchboard.Proofs.Number.Extent
import Switchboard.Proofs.Script.Keeping
import Switchboard.Proofs.Script.Comment
import Switchboard.Proofs.Script.Recognition

/-! How large the values are that a script leaves. Texts are held against the limit whenever one is made, but
numbers never are, and they are written only as they are assigned. So what is assigned stays within the
limit if it is a text, and otherwise within what the longest number takes. -/
namespace Switchboard.Script

/-! Every number of a program was read by the scanner, and is therefore one of the range. -/

mutual
def Expr.numbers : Expr → List Binary64
  | .number value => [value]
  | .text _ | .variable _ | .name _ => []
  | .negate operand => operand.numbers
  | .binary _ left right => left.numbers ++ right.numbers
  | .call _ arguments => Expr.numbersOf arguments

def Expr.numbersOf : List Expr → List Binary64
  | [] => []
  | e :: rest => e.numbers ++ Expr.numbersOf rest
end

def Expr.InRange (e : Expr) : Prop := ∀ x ∈ e.numbers, x.InRange

def Statement.InRange : Statement → Prop
  | .assign _ value => value.InRange
  | .finish => True

def TokensInRange (tokens : List Token) : Prop := ∀ x, .number x ∈ tokens → x.InRange

mutual

theorem IsExpr.mem_of_mem_numbers {n : Nat} {tokens : List Token} {e : Expr} {x : Binary64} :
    IsExpr n tokens e → x ∈ e.numbers → .number x ∈ tokens
  | .term phrase, member => phrase.mem_of_mem_numbers member
  | .sum left _ right, member => by
    rcases List.mem_append.1 member with first | second
    · exact List.mem_append_left _ (left.mem_of_mem_numbers first)
    · exact List.mem_append_right _ (.tail _ (right.mem_of_mem_numbers second))

theorem IsTerm.mem_of_mem_numbers {n : Nat} {tokens : List Token} {e : Expr} {x : Binary64} :
    IsTerm n tokens e → x ∈ e.numbers → .number x ∈ tokens
  | .unary phrase, member => phrase.mem_of_mem_numbers member
  | .product left _ right, member => by
    rcases List.mem_append.1 member with first | second
    · exact List.mem_append_left _ (left.mem_of_mem_numbers first)
    · exact List.mem_append_right _ (.tail _ (right.mem_of_mem_numbers second))

theorem IsUnary.mem_of_mem_numbers {n : Nat} {tokens : List Token} {e : Expr} {x : Binary64} :
    IsUnary n tokens e → x ∈ e.numbers → .number x ∈ tokens
  | .primary phrase, member => phrase.mem_of_mem_numbers member
  | .negate phrase, member => .tail _ (phrase.mem_of_mem_numbers member)

theorem IsPrimary.mem_of_mem_numbers {n : Nat} {tokens : List Token} {e : Expr} {x : Binary64} :
    IsPrimary n tokens e → x ∈ e.numbers → .number x ∈ tokens
  | .number, member => by
    cases List.mem_singleton.1 member
    exact .head _
  | .group phrase, member =>
    .tail _ (List.mem_append_left _ (phrase.mem_of_mem_numbers member))
  | .call phrase, member =>
    .tail _ (.tail _ (List.mem_append_left _ (phrase.mem_of_mem_numbers member)))

theorem IsArguments.mem_of_mem_numbers {n : Nat} {tokens : List Token} {values : List Expr} {x : Binary64} :
    IsArguments n tokens values → x ∈ Expr.numbersOf values → .number x ∈ tokens
  | .values phrase, member => phrase.mem_of_mem_numbers member

theorem IsValues.mem_of_mem_numbers {n : Nat} {tokens : List Token} {values : List Expr} {x : Binary64} :
    IsValues n tokens values → x ∈ Expr.numbersOf values → .number x ∈ tokens
  | .one phrase, member => by
    rcases List.mem_append.1 member with first | nothing
    · exact phrase.mem_of_mem_numbers first
    · contradiction
  | .more phrase others, member => by
    rcases List.mem_append.1 member with first | second
    · exact List.mem_append_left _ (phrase.mem_of_mem_numbers first)
    · exact List.mem_append_right _ (.tail _ (others.mem_of_mem_numbers second))

end

section Reading

variable {tokens : List Token} {s : Statement} {program : Program}

theorem TokensInRange.cons {token : Token} (first : ∀ x, token = .number x → x.InRange)
    (rest : TokensInRange tokens) : TokensInRange (token :: tokens) := by
  intro x member
  rcases List.mem_cons.1 member with same | later
  · exact first x same.symm
  · exact rest x later

namespace Scanning

variable {s t : Scanning} {c : Char}

theorem begin_inRange (inRange : TokensInRange tokens) (run : begin tokens c = .ok t) :
    TokensInRange t.tokens := by
  unfold begin at run
  split at run
  · cases run; exact inRange
  · split at run
    · cases run; exact inRange
    · split at run
      · cases run; exact inRange
      · split at run
        · cases run; exact inRange
        · split at run
          · rename_i mark marks
            cases run
            refine inRange.cons fun x same => ?_
            subst same
            unfold mark? at marks
            split at marks <;> cases marks
          · contradiction

theorem numberToken_inRange {reversed : List Char} {token : Token}
    (run : numberToken reversed = .ok token) : ∀ x, token = .number x → x.InRange := by
  unfold numberToken at run
  split at run
  · rename_i value read
    cases run
    intro x same
    cases same
    exact Decimal.inRange_of_readChars read
  · contradiction

theorem nameToken_inRange (reversed : List Char) :
    ∀ x, nameToken reversed = .number x → x.InRange := nofun

theorem read_inRange (inRange : TokensInRange s.tokens) (run : s.read c = .ok t) :
    TokensInRange t.tokens := by
  unfold read at run
  split at run
  case h_1 => exact begin_inRange inRange run
  case h_2 =>
    split at run
    · cases run
      exact inRange.cons nofun
    · split at run <;> cases run <;> exact inRange
  case h_3 =>
    cases run
    exact inRange
  case h_4 =>
    split at run
    · cases run
      exact inRange
    · split at run
      · rename_i token number
        exact begin_inRange (inRange.cons (numberToken_inRange number)) run
      · contradiction
  case h_5 =>
    split at run
    · cases run
      exact inRange
    · exact begin_inRange (inRange.cons (nameToken_inRange _)) run

theorem finish_inRange (inRange : TokensInRange s.tokens) (run : s.finish = .ok tokens) :
    TokensInRange tokens := by
  have reversed {tokens : List Token} (inRange : TokensInRange tokens) :
      TokensInRange tokens.reverse := fun x member => inRange x (List.mem_reverse.1 member)
  unfold finish at run
  split at run
  case h_1 =>
    cases run
    exact reversed inRange
  case h_4 =>
    split at run
    · rename_i token number
      cases run
      exact reversed (inRange.cons (numberToken_inRange number))
    · contradiction
  case h_5 =>
    cases run
    exact reversed (inRange.cons (nameToken_inRange _))
  all_goals contradiction

end Scanning

theorem scan_inRange {line : List Char} (run : scan line = .ok tokens) : TokensInRange tokens := by
  have all (line : List Char) (s : Scanning) (inRange : TokensInRange s.tokens)
      (run : scanFrom s line = .ok tokens) : TokensInRange tokens := by
    induction line generalizing s with
    | nil => exact Scanning.finish_inRange inRange run
    | cons c rest ih =>
      rw [scanFrom] at run
      split at run
      · rename_i t first
        exact ih t (Scanning.read_inRange inRange first) run
      · contradiction
  have none_ : TokensInRange Scanning.start.tokens := by
    intro x member
    cases member
  exact all line .start none_ run

theorem statement_inRange (inRange : TokensInRange tokens) (read : statement tokens = .ok s) :
    s.InRange := by
  unfold statement at read
  split at read
  · cases read
    trivial
  · obtain ⟨n, -, phrase⟩ := assignment_sound read
    have same : afterDeclarator tokens ⊆ tokens := (afterDeclarator_suffix tokens).subset
    generalize afterDeclarator tokens = rest at phrase same
    cases phrase with
    | assign place value =>
      intro x member
      exact inRange x
        (same (List.mem_append_right _ (.tail _ (value.mem_of_mem_numbers member))))

theorem mem_of_mem_splitStatements {piece : List Token} {token : Token}
    (split : piece ∈ splitStatements tokens) (member : token ∈ piece) : token ∈ tokens := by
  induction tokens generalizing piece with
  | nil =>
    cases List.mem_singleton.1 split
    contradiction
  | cons first rest ih =>
    rw [splitStatements] at split
    split at split
    · rcases List.mem_cons.1 split with rfl | later
      · contradiction
      · exact .tail _ (ih later member)
    · cases pieces : splitStatements rest with
      | nil => exact absurd pieces splitStatements_ne_nil
      | cons front others =>
        rw [pieces] at split ih
        rcases List.mem_cons.1 split with rfl | later
        · rcases List.mem_cons.1 member with rfl | inner
          · exact .head _
          · exact .tail _ (ih (.head _) inner)
        · exact .tail _ (ih (.tail _ later) member)

theorem forall_of_mapM_ok {read : α → Except ε β} {P : β → Prop} {xs : List α} {ys : List β}
    (each : ∀ x ∈ xs, ∀ y, read x = .ok y → P y) (all : xs.mapM read = .ok ys) : ∀ y ∈ ys, P y := by
  induction xs generalizing ys with
  | nil =>
    cases all
    exact List.forall_mem_nil P
  | cons x rest ih =>
    rw [List.mapM_cons] at all
    obtain ⟨y, first, all⟩ := Except.bind_eq_ok_iff.1 all
    obtain ⟨more, others, done⟩ := Except.bind_eq_ok_iff.1 all
    cases done
    exact List.forall_mem_cons.2
      ⟨each x (.head _) y first, ih (fun x member => each x (.tail _ member)) others⟩

theorem Program.forall_of_read {P : Statement → Prop} {source : String}
    (each : ∀ line tokens phrase s, scan line = .ok tokens → phrase ∈ splitStatements tokens →
      boundedStatement phrase = .ok s → P s)
    (read : Program.read source = .ok program) : ∀ s ∈ program, P s := by
  unfold Program.read at read
  generalize lines source.toList = lines at read
  generalize 1 = number at read
  induction lines generalizing number program with
  | nil =>
    cases read
    exact List.forall_mem_nil _
  | cons line rest ih =>
    obtain ⟨front, back, first, others, rfl⟩ := readLines_cons_eq_ok_iff.1 read
    obtain ⟨tokens, scanned, phrases⟩ := Except.bind_eq_ok_iff.1 first
    refine List.forall_mem_append.2 ⟨?_, ih (number + 1) others⟩
    exact forall_of_mapM_ok
      (fun phrase among s stated => each _ _ _ s scanned (List.mem_filter.1 among).1 stated) phrases

theorem Program.inRange_of_read {source : String} (read : Program.read source = .ok program) :
    ∀ s ∈ program, s.InRange := by
  refine Program.forall_of_read (fun line tokens phrase s scanned among stated => ?_) read
  have inRange : TokensInRange phrase := fun x member =>
    scan_inRange scanned x (mem_of_mem_splitStatements among member)
  unfold boundedStatement at stated
  split at stated
  · contradiction
  · exact statement_inRange inRange stated

end Reading

/-! What is worked out is a text within the limit or a number of the range. -/

namespace Value

def InRange : Value → Prop
  | text _ => True
  | number value => value.InRange

theorem inRange_number {value : Binary64} : (number value).InRange ↔ value.InRange := Iff.rfl

def Within (limit : Nat) : Value → Prop
  | text value => value.utf8ByteSize ≤ limit
  | number value => value.InRange

theorem Within.inRange {limit : Nat} {value : Value} (within : value.Within limit) : value.InRange := by
  cases value with
  | text value => trivial
  | number value => exact within

theorem Within.utf8ByteSize_written {limit : Nat} {value : Value} (within : value.Within limit) :
    ((∃ t, value = .text t) ∨ longestNumber ≤ limit → value.written.utf8ByteSize ≤ limit) ∧
      value.written.utf8ByteSize ≤ max limit longestNumber := by
  cases value with
  | text value => exact ⟨fun _ => within, Nat.le_trans within (Nat.le_max_left ..)⟩
  | number value =>
    have short := utf8ByteSize_numberText_le within
    refine ⟨fun wide => ?_, Nat.le_trans short (Nat.le_max_right ..)⟩
    rcases wide with ⟨t, same⟩ | wide
    · contradiction
    · exact Nat.le_trans short wide

theorem asNumber_inRange {value : Value} {n : Binary64} (inRange : value.InRange)
    (read : value.asNumber = .ok n) : n.InRange := by
  cases value with
  | number value =>
    cases read
    exact inRange
  | text value =>
    unfold asNumber at read
    dsimp only at read
    split at read
    · cases read
      exact Binary64.zero_inRange false
    · split at read
      · rename_i finite
        cases read
        exact Decimal.inRange_of_readChars (Option.filter_eq_some_iff.1 finite).1
      · cases read

end Value

section Evaluation

variable {b : Bounds} {scope : Scope} {v : Value}

theorem bounded_within (inRange : v.InRange) {checked : Value} (run : bounded b v = .ok checked) :
    checked.Within b.maxValueLength := by
  cases v with
  | number value =>
    cases run
    exact inRange
  | text value =>
    rw [bounded] at run
    split at run
    · contradiction
    · rename_i within
      cases run
      exact Nat.le_of_not_lt within

theorem apply_inRange {operation : Operation} {l r : Value} (left : l.InRange) (right : r.InRange)
    (run : operation.apply l r = .ok v) : v.InRange := by
  cases operation with
  | add =>
    cases run
    unfold sum
    split
    · exact Binary64.add_inRange
    · trivial
  | subtract | multiply =>
    obtain ⟨x, -, run⟩ := Except.bind_eq_ok_iff.1 run
    obtain ⟨y, -, done⟩ := Except.bind_eq_ok_iff.1 run
    cases done
    first | exact Binary64.add_inRange | exact Binary64.mul_inRange
  | divide | remainder =>
    obtain ⟨x, first_, run⟩ := Except.bind_eq_ok_iff.1 run
    obtain ⟨y, -, run⟩ := Except.bind_eq_ok_iff.1 run
    unfold quotient at run
    split at run <;> cases run
    first
      | exact Binary64.div_inRange
      | exact Binary64.rem_inRange (Value.asNumber_inRange left first_)

theorem function_inRange {key : String} {f : Value → Except Fault Value}
    (known : function? key = some f) {argument : Value} (inRange : argument.InRange)
    (run : f argument = .ok v) : v.InRange := by
  have mapped {g : Binary64 → Binary64} (ranged : ∀ {n : Binary64}, n.InRange → (g n).InRange)
      (run : argument.asNumber.map (fun n => .number (g n)) = .ok v) : v.InRange := by
    cases number : argument.asNumber with
    | error fault =>
      rw [number] at run
      contradiction
    | ok n =>
      rw [number] at run
      cases run
      exact ranged (Value.asNumber_inRange inRange number)
  unfold function? at known
  split at known <;> cases known
  case h_1 => exact mapped id run
  case h_6 =>
    cases run
    exact Value.inRange_number.2 (Binary64.ofNat_inRange _)
  case h_7 => exact mapped Binary64.round_inRange run
  all_goals
    cases run
    trivial

theorem call_inRange {name : String} {arguments : List Value} (inRange : ∀ a ∈ arguments, a.InRange)
    (run : call name arguments = .ok v) : v.InRange := by
  unfold call at run
  dsimp only at run
  split at run
  · cases run
    trivial
  · split at run
    · contradiction
    · rename_i f known
      split at run
      · exact function_inRange known (inRange _ (.head _)) run
      · contradiction

def Scope.Within (scope : Scope) (limit : Nat) : Prop :=
  ∀ word value, scope.names.get? word = some value → value.Within limit

theorem lookup_inRange (names : scope.Within b.maxValueLength) {word : String}
    (run : scope.lookup word = .ok v) : v.InRange := by
  unfold Scope.lookup at run
  split at run
  · rename_i value known
    cases run
    exact (names word _ known).inRange
  · split at run
    · cases run
      trivial
    · contradiction

mutual

theorem value_within (names : scope.Within b.maxValueLength) :
    ∀ (e : Expr) {v : Value}, e.InRange → e.value b scope = .ok v → v.Within b.maxValueLength
  | .text value, _, _, run => bounded_within (v := .text value) trivial run
  | .number value, _, inRange, run =>
    bounded_within (v := .number value) (inRange value (.head _)) run
  | .variable key, _, _, run =>
    bounded_within (v := .text ((scope.bag.get? key).getD "")) trivial run
  | .name word, _, _, run => by
    obtain ⟨value, known, checked⟩ := Except.bind_eq_ok_iff.1 run
    exact bounded_within (lookup_inRange names known) checked
  | .negate operand, _, inRange, run => by
    obtain ⟨value, inner, run⟩ := Except.bind_eq_ok_iff.1 run
    obtain ⟨n, number, checked⟩ := Except.bind_eq_ok_iff.1 run
    have within := value_within names operand inRange inner
    have negated := Binary64.neg_inRange (Value.asNumber_inRange within.inRange number)
    exact bounded_within (v := .number n.neg) negated checked
  | .binary operation left right, _, inRange, run => by
    obtain ⟨l, first, run⟩ := Except.bind_eq_ok_iff.1 run
    obtain ⟨r, second, run⟩ := Except.bind_eq_ok_iff.1 run
    obtain ⟨value, applied, checked⟩ := Except.bind_eq_ok_iff.1 run
    have l_within := value_within names left
      (fun x member => inRange x (List.mem_append_left _ member)) first
    have r_within := value_within names right
      (fun x member => inRange x (List.mem_append_right _ member)) second
    exact bounded_within (apply_inRange l_within.inRange r_within.inRange applied) checked
  | .call name arguments, _, inRange, run => by
    obtain ⟨values, all, run⟩ := Except.bind_eq_ok_iff.1 run
    obtain ⟨value, called, checked⟩ := Except.bind_eq_ok_iff.1 run
    exact bounded_within (call_inRange (values_inRange names arguments inRange all) called) checked

theorem values_inRange (names : scope.Within b.maxValueLength) :
    ∀ (es : List Expr) {values : List Value}, (∀ x ∈ Expr.numbersOf es, x.InRange) →
      Expr.values b scope es = .ok values → ∀ v ∈ values, v.InRange
  | [], _, _, run => by
    cases run
    exact List.forall_mem_nil _
  | e :: rest, _, inRange, run => by
    obtain ⟨value, first, run⟩ := Except.bind_eq_ok_iff.1 run
    obtain ⟨values, others, done⟩ := Except.bind_eq_ok_iff.1 run
    cases done
    have within := value_within names e (fun x member => inRange x (List.mem_append_left _ member)) first
    exact List.forall_mem_cons.2 ⟨within.inRange,
      values_inRange names rest (fun x member => inRange x (List.mem_append_right _ member)) others⟩

end

end Evaluation

/-! Work that is counted, when it succeeds, comes to the same as work that is not. -/

section Counting

variable {b : Bounds} {scope : Scope} {done : Nat}

theorem metered_lift_eq_ok_iff {result : Except Fault α} {reached : α × Nat} :
    (liftM result : Metered α) done = .ok reached ↔ ∃ a, result = .ok a ∧ reached = (a, done) := by
  cases result with
  | error fault => exact ⟨nofun, nofun⟩
  | ok a =>
    constructor
    · intro run
      cases run
      exact ⟨a, rfl, rfl⟩
    · intro same
      obtain ⟨a, same, rfl⟩ := same
      cases same
      rfl

theorem lift_bind_eq_ok_iff {result : Except Fault α} {next : α → Metered β} {reached : β × Nat} :
    ((liftM result : Metered α) >>= next) done = .ok reached ↔
      ∃ a, result = .ok a ∧ next a done = .ok reached := by
  rw [metered_bind_eq_ok_iff]
  constructor
  · intro run
    obtain ⟨_, first, rest⟩ := run
    obtain ⟨a, same, rfl⟩ := metered_lift_eq_ok_iff.1 first
    exact ⟨a, same, rest⟩
  · intro run
    obtain ⟨a, same, rest⟩ := run
    exact ⟨_, metered_lift_eq_ok_iff.2 ⟨a, same, rfl⟩, rest⟩

theorem of_tick_bind {work : Metered α} {reached : α × Nat}
    (run : (tick b >>= fun _ => work) done = .ok reached) : ∃ later, work later = .ok reached := by
  obtain ⟨⟨_, later⟩, -, rest⟩ := metered_bind_eq_ok_iff.1 run
  exact ⟨later, rest⟩

mutual

theorem value_of_eval : ∀ (e : Expr) {done : Nat} {reached : Value × Nat},
    eval b scope e done = .ok reached → e.value b scope = .ok reached.1
  | .text _, _, _, run | .number _, _, _, run | .variable _, _, _, run => by
    obtain ⟨later, run⟩ := of_tick_bind run
    obtain ⟨value, checked, rfl⟩ := metered_lift_eq_ok_iff.1 run
    exact checked
  | .name word, _, _, run => by
    obtain ⟨later, run⟩ := of_tick_bind run
    obtain ⟨value, known, run⟩ := lift_bind_eq_ok_iff.1 run
    obtain ⟨_, checked, rfl⟩ := metered_lift_eq_ok_iff.1 run
    exact Except.bind_eq_ok_iff.2 ⟨value, known, checked⟩
  | .negate operand, _, _, run => by
    obtain ⟨later, run⟩ := of_tick_bind run
    obtain ⟨inner, evaluated, run⟩ := metered_bind_eq_ok_iff.1 run
    obtain ⟨n, number, run⟩ := lift_bind_eq_ok_iff.1 run
    obtain ⟨_, checked, rfl⟩ := metered_lift_eq_ok_iff.1 run
    exact Except.bind_eq_ok_iff.2 ⟨inner.1, value_of_eval operand evaluated,
      Except.bind_eq_ok_iff.2 ⟨n, number, checked⟩⟩
  | .binary operation left right, _, _, run => by
    obtain ⟨later, run⟩ := of_tick_bind run
    obtain ⟨l, first, run⟩ := metered_bind_eq_ok_iff.1 run
    obtain ⟨r, second, run⟩ := metered_bind_eq_ok_iff.1 run
    obtain ⟨value, applied, run⟩ := lift_bind_eq_ok_iff.1 run
    obtain ⟨_, checked, rfl⟩ := metered_lift_eq_ok_iff.1 run
    exact Except.bind_eq_ok_iff.2 ⟨l.1, value_of_eval left first,
      Except.bind_eq_ok_iff.2 ⟨r.1, value_of_eval right second,
        Except.bind_eq_ok_iff.2 ⟨value, applied, checked⟩⟩⟩
  | .call name arguments, _, _, run => by
    obtain ⟨later, run⟩ := of_tick_bind run
    obtain ⟨values, all, run⟩ := metered_bind_eq_ok_iff.1 run
    obtain ⟨value, called, run⟩ := lift_bind_eq_ok_iff.1 run
    obtain ⟨_, checked, rfl⟩ := metered_lift_eq_ok_iff.1 run
    exact Except.bind_eq_ok_iff.2 ⟨values.1, values_of_evalAll arguments all,
      Except.bind_eq_ok_iff.2 ⟨value, called, checked⟩⟩

theorem values_of_evalAll : ∀ (es : List Expr) {done : Nat} {reached : List Value × Nat},
    evalAll b scope es done = .ok reached → Expr.values b scope es = .ok reached.1
  | [], _, _, run => by
    cases run
    rfl
  | e :: rest, _, _, run => by
    obtain ⟨value, first, run⟩ := metered_bind_eq_ok_iff.1 run
    obtain ⟨values, others, ended⟩ := metered_bind_eq_ok_iff.1 run
    cases ended
    exact Except.bind_eq_ok_iff.2 ⟨value.1, value_of_eval e first,
      Except.bind_eq_ok_iff.2 ⟨values.1, values_of_evalAll rest others, rfl⟩⟩

end

theorem variables_of_run {program : Program} {reached : Variables × Nat}
    (ran : run b program scope done = .ok reached) : program.variables b scope = .ok reached.1 := by
  induction program generalizing scope done with
  | nil =>
    cases ran
    rfl
  | cons statement rest ih =>
    cases statement with
    | finish =>
      obtain ⟨later, ended⟩ := of_tick_bind ran
      cases ended
      rfl
    | assign target value =>
      obtain ⟨later, ran⟩ := of_tick_bind ran
      obtain ⟨evaluated, worked, ran⟩ := metered_bind_eq_ok_iff.1 ran
      exact Except.bind_eq_ok_iff.2 ⟨evaluated.1, value_of_eval value worked, ih ran⟩

end Counting

namespace Program

def executed : Program → Program
  | .assign target value :: rest => .assign target value :: executed rest
  | .finish :: _ | [] => []

def reach (b : Bounds) : Program → Scope → Except Fault Scope
  | .assign target value :: rest, scope => do
    let value ← value.value b scope
    reach b rest (scope.assign value target)
  | .finish :: _, scope | [], scope => .ok scope

/-- The last statement that assigns to the variable gives it this value. -/
def Stores (b : Bounds) (program : Program) (scope : Scope) (key : String) (value : Value) : Prop :=
  ∃ front e back reached, program.executed = front ++ .assign (.variable key) e :: back ∧
    (∀ f, .assign (.variable key) f ∉ back) ∧
    reach b front scope = .ok reached ∧ e.value b reached = .ok value

end Program

section Storing

variable {b : Bounds} {scope : Scope} {program : Program} {bag after : Variables} {key : String}
  {source : String}

theorem Scope.Within.assign (names : scope.Within b.maxValueLength) {value : Value}
    (within : value.Within b.maxValueLength) :
    ∀ target : Target, (scope.assign value target).Within b.maxValueLength
  | .variable _ => names
  | .name word => by
    intro other found known
    rw [Scope.assign, Dict.get?_set] at known
    split at known
    · cases known
      exact within
    · exact names other found known

theorem get?_of_unassigned (untouched : ∀ e, .assign (.variable key) e ∉ program.executed)
    (ran : program.variables b scope = .ok after) : after.get? key = scope.bag.get? key := by
  induction program generalizing scope with
  | nil =>
    cases ran
    rfl
  | cons statement rest ih =>
    cases statement with
    | finish =>
      cases ran
      rfl
    | assign target e =>
      obtain ⟨value, -, ran⟩ := Except.bind_eq_ok_iff.1 ran
      rw [ih (fun f member => untouched f (.tail _ member)) ran]
      rcases target with other | word
      · have different : key ≠ other := by
          rintro rfl
          exact untouched e (.head _)
        rw [Scope.assign, Dict.get?_set, if_neg different]
      · rfl

/-- Of the statements that assign to a variable the last one decides, and what it stores has passed the
check. -/
theorem stores_of_assigned (names : scope.Within b.maxValueLength)
    (inRange : ∀ s ∈ program, s.InRange) (ran : program.variables b scope = .ok after) {e : Expr}
    (assigned : .assign (.variable key) e ∈ program.executed) :
    ∃ value, program.Stores b scope key value ∧ after.get? key = some value.written ∧
      value.Within b.maxValueLength := by
  induction program generalizing scope e with
  | nil => contradiction
  | cons statement rest ih =>
    cases statement with
    | finish => contradiction
    | assign target first =>
      obtain ⟨here, later⟩ := List.forall_mem_cons.1 inRange
      obtain ⟨value, worked, goesOn⟩ := Except.bind_eq_ok_iff.1 ran
      have within := value_within names first here worked
      by_cases again : ∃ f, .assign (.variable key) f ∈ Program.executed rest
      · obtain ⟨f, member⟩ := again
        obtain ⟨last, ⟨front, g, back, reached, split, final, reaches, gives⟩, stored⟩ :=
          ih (names.assign within target) later goesOn member
        refine ⟨last, ⟨.assign target first :: front, g, back, reached, ?_, final, ?_, gives⟩, stored⟩
        · rw [Program.executed, split, List.cons_append]
        · exact Except.bind_eq_ok_iff.2 ⟨value, worked, reaches⟩
      · have final : ∀ f, .assign (.variable key) f ∉ Program.executed rest := fun f member => again ⟨f, member⟩
        rcases List.mem_cons.1 assigned with same | member
        · cases same
          refine ⟨value, ⟨[], e, Program.executed rest, scope, rfl, final, rfl, worked⟩, ?_, within⟩
          rw [get?_of_unassigned final goesOn]
          exact Dict.get?_set_self ..
        · exact absurd member (final e)

/-- A variable to which a script has assigned holds what the last of the assignments gave. If that is a text,
or if the limit has room for the longest number, it is of no more bytes than the limit allows, and if it is a
number it is none longer than that. -/
theorem assigned_within_limit (read : Program.read source = .ok program)
    (ran : evaluate b bag source = .ok after) {e : Expr}
    (assigned : .assign (.variable key) e ∈ program.executed) :
    ∃ value, program.Stores b ⟨bag, ∅⟩ key value ∧ after.get? key = some value.written ∧
      ((∃ t, value = .text t) ∨ longestNumber ≤ b.maxValueLength →
        value.written.utf8ByteSize ≤ b.maxValueLength) ∧
      value.written.utf8ByteSize ≤ max b.maxValueLength longestNumber := by
  have worked : program.variables b ⟨bag, ∅⟩ = .ok after := by
    obtain ⟨_, done, same, finished⟩ := evaluate_eq_ok_iff.1 ran
    cases read.symm.trans same
    exact variables_of_run finished
  have names : Scope.Within ⟨bag, ∅⟩ b.maxValueLength := nofun
  obtain ⟨value, stores, stored, within⟩ :=
    stores_of_assigned names (Program.inRange_of_read read) worked assigned
  exact ⟨value, stores, stored, within.utf8ByteSize_written⟩

/-- The greeting stores a text, and so what it stores keeps to a limit that no long number would keep to. -/
theorem greeting_within_limit :
    evaluate ⟨6, 8, fun _ => false⟩ (.ofList [("name", " Ana")]) greeting =
        .ok (.ofList [("name", " Ana"), ("text", "Hi Ana")]) ∧
      ∃ value, greetingProgram.Stores ⟨6, 8, fun _ => false⟩ ⟨.ofList [("name", " Ana")], ∅⟩ "text" value ∧
        some "Hi Ana" = some value.written ∧
        ((∃ t, value = .text t) ∨ longestNumber ≤ 8 → value.written.utf8ByteSize ≤ 8) ∧
        value.written.utf8ByteSize ≤ max 8 longestNumber := by
  have read : Program.read greeting = .ok greetingProgram := by rfl
  have ran : evaluate ⟨6, 8, fun _ => false⟩ (.ofList [("name", " Ana")]) greeting =
      .ok (.ofList [("name", " Ana"), ("text", "Hi Ana")]) := by rfl
  exact ⟨ran, assigned_within_limit read ran (.head _)⟩

def largeNumber : Program := [.assign (.variable "x") (.call "number" [.text "1e5"])]

/-- Numbers are not held against the limit, although the same number is refused as a text. -/
theorem number_exceeds_limit :
    (¬ ∀ (b : Bounds) (bag after : Variables) (source : String) (program : Program) (key : String)
        (e : Expr), Program.read source = .ok program → evaluate b bag source = .ok after →
        .assign (.variable key) e ∈ program.executed →
        ∃ text, after.get? key = some text ∧ text.utf8ByteSize ≤ b.maxValueLength) ∧
      evaluate ⟨4, 5, fun _ => false⟩ ∅ "vars.x = string(number('1e5'))" = .error (.valueTooLarge 6 5) := by
  refine ⟨fun all => ?_, by decide +kernel⟩
  have read : Program.read "vars.x = number('1e5')" = .ok largeNumber := by rfl
  have ran : evaluate ⟨4, 5, fun _ => false⟩ ∅ "vars.x = number('1e5')" =
      .ok (.ofList [("x", "100000")]) := by decide +kernel
  obtain ⟨text, stored, short⟩ := all _ _ _ _ _ _ _ read ran (.head _)
  have same : "100000" = text := Option.some.inj stored
  subst same
  exact absurd short (by decide)

end Storing
end Switchboard.Script
