import Mathlib.Data.List.Forall2
import Mathlib.Data.List.TakeWhile
import Switchboard.Proofs.Dict
import Switchboard.Proofs.Script.Size

/-! What a script can change. A statement is known by its tokens: each assigns either to a variable of the
conversation or to a name of the script, and a word before the target makes no difference. So the text
of a script says, before any of it is run, which variables can come out of it other than they went in. -/
namespace Switchboard.Script

/-- The token lists that a script consists of: what stands between line ends and semicolons. -/
def phrasesOf (source : String) : Except Misfit (List (List Token)) := do
  let scanned ← (lines source.toList).mapM fun line => scan (stripComment line)
  return scanned.flatMap fun tokens => (splitStatements tokens).filter (! ·.isEmpty)

/-- The phrase assigns a value to the target, be it declared or not. -/
def Assigns (target : Target) (phrase : List Token) : Prop :=
  ∃ place value, IsTarget place target ∧ (phrase = place ++ .assign :: value ∨
    ∃ word ∈ declarators, phrase = .name word :: (place ++ .assign :: value))

def Returns (phrase : List Token) : Prop := phrase.head? = some (.name "return")

instance : DecidablePred Returns := fun _ => inferInstanceAs (Decidable (_ = _))

def beforeReturn (phrases : List (List Token)) : List (List Token) :=
  phrases.takeWhile fun phrase => !decide (Returns phrase)

def ReadAs : List (List Token) → Program → Prop :=
  List.Forall₂ fun phrase s => boundedStatement phrase = .ok s

section Phrases

variable {phrase : List Token} {phrases : List (List Token)} {place other : Target} {s : Statement}
  {program : Program} {source : String}

theorem Assigns.unique (first : Assigns place phrase) (second : Assigns other phrase) : place = other := by
  obtain ⟨_, _, target, written⟩ := first
  obtain ⟨_, _, again, rewritten⟩ := second
  cases target <;> cases again <;>
    rcases written with rfl | ⟨_, -, rfl⟩ <;> rcases rewritten with same | ⟨_, -, same⟩ <;> grind

theorem assigns_of_afterDeclarator {back : List Token} {front : List Token} (target : IsTarget front place)
    (written : afterDeclarator phrase = front ++ .assign :: back) : Assigns place phrase := by
  refine ⟨front, back, target, ?_⟩
  unfold afterDeclarator at written
  split at written
  · split at written
    · rename_i word rest declares
      exact .inr ⟨word, isDeclarator_iff.1 declares, by rw [written]⟩
    · exact .inl written
  · exact .inl written

theorem assigns_of_read (read : boundedStatement phrase = .ok s) :
    (s = .finish ∧ Returns phrase) ∨
      ∃ target value, s = .assign target value ∧ ¬ Returns phrase ∧ Assigns target phrase := by
  unfold boundedStatement at read
  split at read
  · contradiction
  · unfold statement at read
    split at read
    · rename_i returns
      cases read
      exact .inl ⟨rfl, returns⟩
    · rename_i goesOn
      obtain ⟨n, -, written⟩ := assignment_sound read
      generalize whole : afterDeclarator phrase = rest at written
      cases written with
      | assign target value => exact .inr ⟨_, _, rfl, goesOn, assigns_of_afterDeclarator target whole⟩

theorem forall₂_of_mapM_ok {read : α → Except ε β} {xs : List α} {ys : List β}
    (all : xs.mapM read = .ok ys) : List.Forall₂ (fun x y => read x = .ok y) xs ys := by
  induction xs generalizing ys with
  | nil =>
    cases all
    exact .nil
  | cons x rest ih =>
    rw [List.mapM_cons] at all
    obtain ⟨y, first, all⟩ := Except.bind_eq_ok_iff.1 all
    obtain ⟨more, others, done⟩ := Except.bind_eq_ok_iff.1 all
    cases done
    exact .cons first (ih others)

theorem phrases_of_read (read : Program.read source = .ok program) : ∃ phrases,
    phrasesOf source = .ok phrases ∧ ReadAs phrases program := by
  unfold Program.read at read
  unfold phrasesOf
  generalize lines source.toList = lines at read ⊢
  generalize 1 = number at read
  induction lines generalizing number program with
  | nil =>
    cases read
    exact ⟨[], rfl, .nil⟩
  | cons line rest ih =>
    obtain ⟨front, back, first, others, rfl⟩ := readLines_cons_eq_ok_iff.1 read
    obtain ⟨tokens, scanned, stated⟩ := Except.bind_eq_ok_iff.1 first
    obtain ⟨phrases, split, further⟩ := ih _ others
    obtain ⟨more, rests, done⟩ := Except.bind_eq_ok_iff.1 split
    cases done
    refine ⟨_, ?_, List.rel_append (forall₂_of_mapM_ok stated) further⟩
    rw [List.mapM_cons, scanned, Except.ok_bind, rests]
    rfl

theorem executed_of_phrases (stated : ReadAs phrases program) :
    (∀ phrase ∈ beforeReturn phrases, ∃! target, Assigns target phrase) ∧
      ∀ target, (∃ phrase ∈ beforeReturn phrases, Assigns target phrase) ↔
        ∃ value, .assign target value ∈ program.executed := by
  induction stated with
  | nil => exact ⟨nofun, fun target => ⟨nofun, nofun⟩⟩
  | @cons phrase s phrases program first rest ih =>
    rcases assigns_of_read first with ⟨rfl, returns⟩ | ⟨place, value, rfl, goesOn, assigns⟩
    · have none_ : beforeReturn (phrase :: phrases) = [] :=
        List.takeWhile_cons_of_neg (by simpa using returns)
      rw [none_]
      exact ⟨nofun, fun target => ⟨nofun, nofun⟩⟩
    · have one : beforeReturn (phrase :: phrases) = phrase :: beforeReturn phrases :=
        List.takeWhile_cons_of_pos (by simpa using goesOn)
      rw [one]
      refine ⟨List.forall_mem_cons.2 ⟨⟨place, assigns, fun other again => again.unique assigns⟩, ih.1⟩, ?_⟩
      intro target
      have same : Assigns target phrase ↔ target = place :=
        ⟨fun again => again.unique assigns, fun same => same ▸ assigns⟩
      rw [List.exists_mem_cons_iff, ih.2 target, same, Program.executed]
      simp only [List.mem_cons, Statement.assign.injEq, exists_or, exists_and_left, exists_eq, and_true]

end Phrases

section Running

variable {b : Bounds} {scope : Scope} {program other : Program} {bag after : Variables} {key : String}
  {front back rest : List (List Token)} {phrase last : List Token} {source : String}

theorem mem_keys_of_variables (ran : program.variables b scope = .ok after) :
    key ∈ after.keys ↔ key ∈ scope.bag.keys ∨ ∃ value, .assign (.variable key) value ∈ program.executed := by
  induction program generalizing scope with
  | nil =>
    cases ran
    simp [Program.executed]
  | cons statement program ih =>
    cases statement with
    | finish =>
      cases ran
      simp [Program.executed]
    | assign target e =>
      obtain ⟨value, -, ran⟩ := Except.bind_eq_ok_iff.1 ran
      rw [ih ran, Program.executed]
      simp only [List.mem_cons, Statement.assign.injEq, exists_or]
      rcases target with name | word
      · rw [Scope.assign, Dict.mem_keys_set]
        simp only [Target.variable.injEq, exists_and_left, exists_eq, and_true]
        tauto
      · simp [Scope.assign]

theorem run_of_same_front (finish : Returns phrase) (finish' : Returns last)
    (stated : ReadAs (front ++ phrase :: back) program)
    (restated : ReadAs (front ++ last :: rest) other) :
    run b program scope = run b other scope := by
  induction front generalizing program other scope with
  | nil =>
    cases stated with
    | cons first _ =>
    cases restated with
    | cons second _ =>
    rcases assigns_of_read first with ⟨rfl, -⟩ | ⟨_, _, -, goesOn, -⟩
    · rcases assigns_of_read second with ⟨rfl, -⟩ | ⟨_, _, -, goesOn, -⟩
      · rfl
      · exact absurd finish' goesOn
    · exact absurd finish goesOn
  | cons first front ih =>
    cases stated with
    | @cons _ s _ _ first stated =>
    cases restated with
    | cons second restated =>
    cases first.symm.trans second
    cases s with
    | finish => rfl
    | assign target value =>
      simp only [run, ih stated restated]

/-- The variables after a script are those before it and those that a statement before the first end assigns to,
and only these can have other values. A statement assigns one thing only: what it calls by a name of the script,
declared or not, is no variable. What follows an end may as well be something else, so long as
it can be read. -/
theorem evaluate_changes (ran : evaluate b bag source = .ok after) :
    ∃ phrases, phrasesOf source = .ok phrases ∧
      (∀ phrase ∈ beforeReturn phrases, ∃! target, Assigns target phrase) ∧
      (∀ key, key ∈ after.keys ↔
        key ∈ bag.keys ∨ ∃ phrase ∈ beforeReturn phrases, Assigns (.variable key) phrase) ∧
      (∀ key, (∀ phrase ∈ beforeReturn phrases, ¬ Assigns (.variable key) phrase) →
        after.get? key = bag.get? key) ∧
      ∀ front phrase back last rest text program, phrases = front ++ phrase :: back → Returns phrase →
        Returns last → phrasesOf text = .ok (front ++ last :: rest) → Program.read text = .ok program →
        evaluate b bag text = .ok after := by
  obtain ⟨program, done, read, finished⟩ := evaluate_eq_ok_iff.1 ran
  obtain ⟨phrases, split, stated⟩ := phrases_of_read read
  obtain ⟨single, assigned⟩ := executed_of_phrases stated
  have worked := variables_of_run finished
  refine ⟨phrases, split, single, fun key => ?_, fun key untouched => ?_, ?_⟩
  · rw [mem_keys_of_variables worked, assigned]
  · refine get?_of_unassigned (fun value member => ?_) worked
    obtain ⟨phrase, among, assigns⟩ := (assigned _).2 ⟨value, member⟩
    exact untouched phrase among assigns
  · intro front phrase back last rest text other joined finish finish' resplit reread
    subst joined
    obtain ⟨phrases, split, restated⟩ := phrases_of_read reread
    cases resplit.symm.trans split
    refine evaluate_eq_ok_iff.2 ⟨other, done, reread, ?_⟩
    rw [← run_of_same_front finish finish' stated restated, finished]

def halfRun : String := "let x = 'a'\nlet vars.y = x\nreturn x; vars.z = x"

def halfRunPhrases : List (List Token) :=
  [[.name "let", .name "x", .assign, .text "a"],
    [.name "let", .name "vars", .dot, .name "y", .assign, .name "x"],
    [.name "return", .name "x"], [.name "vars", .dot, .name "z", .assign, .name "x"]]

/-- The name hides a variable and leaves it as it is, and what stands behind the end can be left out. -/
theorem halfRun_changes :
    evaluate ⟨8, 8, fun _ => false⟩ (.ofList [("x", "0")]) halfRun = .ok (.ofList [("x", "0"), ("y", "a")]) ∧
      (∀ phrase ∈ beforeReturn halfRunPhrases, ∃! target, Assigns target phrase) ∧
      evaluate ⟨8, 8, fun _ => false⟩ (.ofList [("x", "0")]) "let x = 'a'\nlet vars.y = x\nreturn" =
        .ok (.ofList [("x", "0"), ("y", "a")]) := by
  have ran : evaluate ⟨8, 8, fun _ => false⟩ (.ofList [("x", "0")]) halfRun =
      .ok (.ofList [("x", "0"), ("y", "a")]) := by decide +kernel
  obtain ⟨phrases, split, single, -, -, same⟩ := evaluate_changes ran
  have known : phrasesOf halfRun = .ok halfRunPhrases := by decide +kernel
  cases known.symm.trans split
  exact ⟨ran, single, same (halfRunPhrases.take 2) _ _ [.name "return"] [] _ _ rfl rfl rfl
    (by decide +kernel) rfl⟩

end Running

end Switchboard.Script
