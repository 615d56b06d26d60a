import Switchboard.Proofs.Script.Cost

/-! What a script leaves of the variables that it finds. It assigns and never removes, so every variable
keeps its place, and setting one after another what the script returns comes to the same as taking it
over whole. -/
namespace Switchboard

namespace Dict

variable {α : Type} {d p : Dict α} {key : String} {value : α}

theorem put_append {done rest : List (String × α)} (absent : key ∉ done.map Prod.fst) :
    put key value (done ++ rest) = done ++ put key value rest := by
  induction done with
  | nil => rfl
  | cons entry done ih =>
    obtain ⟨other, later⟩ : entry.1 ≠ key ∧ key ∉ done.map Prod.fst := by
      simpa [eq_comm] using absent
    rw [List.cons_append, put, if_neg other, ih later, List.cons_append]

theorem foldl_put {entries old done : List (String × α)}
    (distinct : ((done ++ entries).map Prod.fst).Nodup)
    (starts : old.map Prod.fst <+: entries.map Prod.fst) :
    entries.foldl (fun all entry => put entry.1 entry.2 all) (done ++ old) = done ++ entries := by
  induction entries generalizing old done with
  | nil =>
    have none_ : old = [] := by simpa using starts
    rw [none_, List.foldl_nil]
  | cons entry rest ih =>
    have absent : entry.1 ∉ done.map Prod.fst := by
      intro member
      rw [List.map_append, List.nodup_append] at distinct
      exact distinct.2.2 _ member _ (by simp) rfl
    have joined : done ++ entry :: rest = (done ++ [entry]) ++ rest := by simp
    rw [joined] at distinct ⊢
    rw [List.foldl_cons, put_append absent]
    cases old with
    | nil =>
      have none_ : ([] : List (String × α)).map Prod.fst <+: rest.map Prod.fst := List.nil_prefix
      rw [← ih distinct none_, List.append_nil]
      rfl
    | cons first old =>
      rw [List.map_cons, List.map_cons, List.cons_prefix_cons] at starts
      rw [put, if_pos starts.1, ← ih distinct starts.2, List.append_assoc]
      rfl

theorem entries_merge (d p : Dict α) :
    (d.merge p).entries = p.entries.foldl (fun all entry => put entry.1 entry.2 all) d.entries := by
  unfold merge setAll
  generalize p.entries = entries
  induction entries generalizing d with
  | nil => rfl
  | cons entry rest ih => exact ih (d.set entry.1 entry.2)

/-- A dictionary that goes on from another one replaces it when it is merged into it. -/
theorem merge_of_prefix (starts : d.keys <+: p.keys) : d.merge p = p := by
  apply ext
  rw [entries_merge]
  have distinct : (([] ++ p.entries).map Prod.fst).Nodup := p.distinct
  exact foldl_put distinct starts

end Dict

namespace Script

variable {b : Bounds} {scope : Scope} {bag after : Variables} {source : String}

theorem metered_bind_eq_ok_iff {α β : Type} {work : Metered α} {next : α → Metered β} {done : Nat}
    {reached : β × Nat} : (work >>= next) done = .ok reached ↔
      ∃ a, work done = .ok a ∧ next a.1 a.2 = .ok reached :=
  Except.bind_eq_ok_iff

theorem Scope.keys_assign (scope : Scope) (value : Value) :
    ∀ target : Target, scope.bag.keys <+: (scope.assign value target).bag.keys
  | .variable key => by
    change scope.bag.keys <+: (scope.bag.set key value.written).keys
    rw [Dict.keys_set]
    split
    · exact List.prefix_refl _
    · exact List.prefix_append ..
  | .name _ => List.prefix_refl _

theorem run_keeps {program : Program} {done : Nat} {reached : Variables × Nat}
    (ran : run b program scope done = .ok reached) : scope.bag.keys <+: reached.1.keys := by
  induction program generalizing scope done with
  | nil =>
    cases ran
    exact List.prefix_refl _
  | cons statement rest ih =>
    cases statement with
    | finish =>
      obtain ⟨_, -, ended⟩ := metered_bind_eq_ok_iff.1 ran
      cases ended
      exact List.prefix_refl _
    | assign target value =>
      obtain ⟨_, -, ran⟩ := metered_bind_eq_ok_iff.1 ran
      obtain ⟨evaluated, -, ran⟩ := metered_bind_eq_ok_iff.1 ran
      exact (scope.keys_assign evaluated.1 target).trans (ih ran)

theorem evaluate_eq_ok_iff : evaluate b bag source = .ok after ↔
    ∃ program done, Program.read source = .ok program ∧ run b program ⟨bag, ∅⟩ 0 = .ok (after, done) := by
  unfold evaluate
  cases Program.read source with
  | error misread => exact ⟨nofun, nofun⟩
  | ok program =>
    dsimp only
    rw [runProgram, Except.map_eq_ok_iff]
    constructor
    · intro finished
      obtain ⟨reached, ran, rfl⟩ := finished
      exact ⟨program, reached.2, rfl, ran⟩
    · intro finished
      obtain ⟨_, done, same, ran⟩ := finished
      cases same
      exact ⟨_, ran, rfl⟩

theorem evaluate_keeps (ran : evaluate b bag source = .ok after) : bag.keys <+: after.keys := by
  obtain ⟨program, done, -, finished⟩ := evaluate_eq_ok_iff.1 ran
  exact run_keeps finished

theorem merge_evaluated (ran : evaluate b bag source = .ok after) : bag.merge after = after :=
  Dict.merge_of_prefix (evaluate_keeps ran)

end Script
end Switchboard
