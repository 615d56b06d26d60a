import Mathlib.Data.List.Nodup
import Mathlib.Logic.Relation
import Switchboard.Proofs.Flow.Motion

/-! The way of a walk through its graph, whatever the budget. A journey is the list of nodes that were
executed and left; a round is a journey that ends where the budget is spent, where a handler halts or
where one fails. So what holds of every move holds of every node on the way. -/
namespace Switchboard.Walk

inductive Moves (here : Surroundings) : String → Run → List String → String → Run → Prop
  | stay : Moves here node r [] node r
  | go {found : Node} : here.graph.node? node = some found →
      execute here found r = .ok (.next next) s → Moves here next s path last t →
      Moves here node r (node :: path) last t

inductive Round (here : Surroundings) (budget : Nat) (node : String) (r : Run) :
    EStateM.Result Failure Run Outcome → Prop
  | spent : Moves here node r path last t → path.length = budget →
      Round here budget node r (.ok (.continuedTo last) t)
  | halted {found : Node} {outcome : Outcome} : Moves here node r path last s →
      path.length < budget → here.graph.node? last = some found →
      execute here found s = .ok (.halt outcome) t → Round here budget node r (.ok outcome t)
  | failed {found : Node} {failure : Failure} : Moves here node r path last s →
      path.length < budget → here.graph.node? last = some found →
      execute here found s = .error failure t → Round here budget node r (.error failure t)

/-- What a round leaves on the path: the nodes it left, and the one at which it ended unless the budget was
spent before. -/
def Travels (here : Surroundings) (budget : Nat) (node : String) (r t : Run) : Prop :=
  ∃ path last s, Moves here node r path last s ∧
    (t.path = r.path ++ path ∧ path.length = budget ∨
      t.path = r.path ++ (path ++ [last]) ∧ path.length < budget)

def entering (r : Run) (node : String) : Run := { r with path := r.path ++ [node] }

variable {here : Surroundings} {r s t : Run} {node next last : String} {path : List String}
  {budget : Nat}

theorem execute_decides {found : Node} (member : found ∈ here.graph.nodes) :
    Ends (execute here found) r (Decides here (entering r found.id) found)
      fun t => t.path = r.path ++ [found.id] :=
  Ends.bind_iff.2 (Ends.modify_iff.2 (perform_decides member))

theorem execute_next {found : Node} (member : here.graph.node? node = some found)
    (run : execute here found r = .ok (.next next) s) :
    here.graph.Leads node next ∧ s.path = r.path ++ [node] ∧
      (s.visit.session.status = .closed → r.visit.session.status = .closed) := by
  obtain ⟨known, rfl⟩ := Graph.node?_eq_some member
  have decided := (Ends.ok_iff run).1 (execute_decides known)
  exact ⟨decided.goes, decided.path, fun closed => (decided.closed closed).elim id nofun⟩

namespace Moves

theorem path_eq (moves : Moves here node r path last t) : t.path = r.path ++ path := by
  induction moves with
  | stay => simp
  | go member run _ ih => rw [ih, (execute_next member run).2.1, List.append_assoc]; rfl

theorem known (moves : Moves here node r path last t) (start : here.graph.HasNode node) :
    ∀ id ∈ path ++ [last], here.graph.HasNode id := by
  induction moves with
  | stay => simpa using start
  | go member run _ ih =>
    rw [List.cons_append, List.forall_mem_cons]
    exact ⟨start, ih (execute_next member run).1.hasNode⟩

theorem reaches (moves : Moves here node r path last t) :
    ∀ id ∈ path ++ [last], Relation.ReflTransGen here.graph.Leads node id := by
  induction moves with
  | stay => simp [Relation.ReflTransGen.refl]
  | go member run _ ih =>
    rw [List.cons_append, List.forall_mem_cons]
    exact ⟨.refl, fun id later => .head (execute_next member run).1 (ih id later)⟩

theorem unclosed (moves : Moves here node r path last t)
    (closed : t.visit.session.status = .closed) : r.visit.session.status = .closed := by
  induction moves with
  | stay => exact closed
  | go member run _ ih => exact (execute_next member run).2.2 (ih closed)

end Moves

theorem Round.go {found : Node} {result : EStateM.Result Failure Run Outcome}
    (member : here.graph.node? node = some found)
    (run : execute here found r = .ok (.next next) s) (rest : Round here budget next s result) :
    Round here (budget + 1) node r result := by
  cases rest with
  | spent moves length => exact .spent (.go member run moves) (by simp [length])
  | halted moves length at_ halts => exact .halted (.go member run moves) (by simpa) at_ halts
  | failed moves length at_ fails => exact .failed (.go member run moves) (by simpa) at_ fails

theorem steps_round (known : here.graph.HasNode node) :
    Round here budget node r (steps here budget node r) := by
  induction budget generalizing node r with
  | zero => exact .spent .stay rfl
  | succ budget ih =>
    obtain ⟨found, member⟩ := Option.isSome_iff_exists.1 known
    rw [steps, member]
    dsimp only
    cases run : execute here found r with
    | error failure t =>
      rw [bind_of_error run]
      exact .failed .stay (Nat.succ_pos _) member run
    | ok step t =>
      rw [bind_of_ok run]
      cases step with
      | next next =>
        -- A handler moves to nodes of the graph only, so a node that vanished is never come to.
        exact (ih (execute_next member run).1.hasNode).go member run
      | halt outcome => exact .halted .stay (Nat.succ_pos _) member run

theorem advance_of_known (known : here.graph.HasNode node) :
    advance here budget node = steps here budget node :=
  if_pos known

theorem advance_of_unknown (unknown : ¬ here.graph.HasNode node) :
    advance here budget node = throw (.nodeNotFound node) :=
  if_neg unknown

theorem execute_halt {found : Node} {outcome : Outcome}
    (member : here.graph.node? node = some found)
    (run : execute here found r = .ok (.halt outcome) t) :
    Goes here r found (.halt outcome) ∧ t.path = r.path ++ [node] ∧
      (t.visit.session.status = .closed →
        r.visit.session.status = .closed ∨ outcome = .terminated) := by
  obtain ⟨known, rfl⟩ := Graph.node?_eq_some member
  have decided := (Ends.ok_iff run).1 (execute_decides known)
  exact ⟨decided.goes, decided.path,
    fun closed => (decided.closed closed).imp_right Step.halt.inj⟩

theorem execute_error {found : Node} {failure : Failure}
    (member : here.graph.node? node = some found)
    (run : execute here found r = .error failure t) : t.path = r.path ++ [node] := by
  obtain ⟨known, rfl⟩ := Graph.node?_eq_some member
  exact (Ends.error_iff run).1 (execute_decides known)

theorem steps_travels (known : here.graph.HasNode node) :
    Ends (steps here budget node) r (fun _ t => Travels here budget node r t)
      (Travels here budget node r) := by
  constructor
  · intro outcome t run
    cases run ▸ steps_round known with
    | spent moves length => exact ⟨_, _, _, moves, .inl ⟨moves.path_eq, length⟩⟩
    | halted moves short member run =>
      refine ⟨_, _, _, moves, .inr ⟨?_, short⟩⟩
      rw [(execute_halt member run).2.1, moves.path_eq, List.append_assoc]
  · intro failure t run
    cases run ▸ steps_round known with
    | failed moves short member run =>
      refine ⟨_, _, _, moves, .inr ⟨?_, short⟩⟩
      rw [execute_error member run, moves.path_eq, List.append_assoc]

end Switchboard.Walk
