import Switchboard.Flow.Settlement
import Switchboard.Proofs.Flow.Soundness

/-! Surroundings that a run cannot tell apart. Of a graph a run sees the start, its nodes and their exits, of the
opening hours only whether a group is open now. Where another graph and other hours show the same, every handler
and every round does the same. -/
namespace Switchboard

def Kind.branches : Kind → Bool
  | .condition _ | .schedule _ | .template _ => true
  | _ => false

/-- All that a run finds in one graph it finds in the other. -/
structure Graph.Alike (g h : Graph) : Prop where
  start : h.start = g.start
  node? : ∀ id, h.node? id = g.node? id
  branch : ∀ source handle, h.branch source handle = g.branch source handle
  next : ∀ node ∈ g.nodes, node.kind.branches = false → h.next node.id = g.next node.id

theorem Graph.Alike.refl (g : Graph) : g.Alike g := ⟨rfl, fun _ => rfl, fun _ _ => rfl, fun _ _ _ => rfl⟩

def Surroundings.instead (here : Surroundings) (graph : Graph) (hours : Nat → String → Option ScheduleGroup) :
    Surroundings :=
  { here with graph, services := { here.services with schedule? := hours } }

/-- A run does not notice these instead. -/
structure Surroundings.Indistinct (here : Surroundings) (graph : Graph)
    (hours : Nat → String → Option ScheduleGroup) : Prop where
  alike : here.graph.Alike graph
  isOpenNow : ∀ schedule, Walk.isOpenNow (here.instead graph hours) schedule = Walk.isOpenNow here schedule

namespace Walk

variable {here : Surroundings} {graph : Graph} {hours : Nat → String → Option ScheduleGroup} {node : Node}
  (same : here.Indistinct graph hours)

include same

theorem node?_instead (id : String) : (here.instead graph hours).graph.node? id = here.graph.node? id :=
  same.alike.node? id

theorem next_instead (member : node ∈ here.graph.nodes) (single : node.kind.branches = false) :
    (here.instead graph hours).graph.next node.id = here.graph.next node.id :=
  same.alike.next node member single

theorem branch_instead (source handle : String) :
    (here.instead graph hours).graph.branch source handle = here.graph.branch source handle :=
  same.alike.branch source handle

theorem takeBranch_instead (id handle : String) :
    takeBranch (here.instead graph hours) id handle = takeBranch here id handle := by
  rw [takeBranch, branch_instead same, takeBranch]

theorem branchOnRules_instead (id : String) (rules : List Rule) (bag : Variables) :
    branchOnRules (here.instead graph hours) id rules bag = branchOnRules here id rules bag := by
  simp only [branchOnRules, takeBranch_instead same, branch_instead same]

theorem perform_instead (member : node ∈ here.graph.nodes) :
    perform (here.instead graph hours) node.id node.kind = perform here node.id node.kind := by
  have exit (single : node.kind.branches = false) :
      follow (here.instead graph hours) node.id = follow here node.id := by
    rw [follow, next_instead same member single, follow]
  obtain ⟨id, kind⟩ := node
  cases kind with
  | start | message | setValue | request | script =>
    simp only [perform, exit rfl]
    rfl
  | anchor name => exact congrArg pure (exit rfl)
  | condition rules => simp only [perform, branchOnRules_instead same]
  | schedule schedule => simp only [perform, takeBranch_instead same, same.isOpenNow]
  | goto target => simp only [perform, node?_instead same]
  | delay seconds => simp only [perform, next_instead same member rfl]
  -- No way out of these is looked up.
  | input | template | queue | ending | closing => rfl

theorem steps_instead (budget : Nat) (id : String) :
    steps (here.instead graph hours) budget id = steps here budget id := by
  induction budget generalizing id with
  | zero => rfl
  | succ budget ih =>
    unfold steps
    rw [node?_instead same]
    cases found : here.graph.node? id with
    | none => rfl
    | some node =>
      have member : node ∈ here.graph.nodes := (Graph.node?_eq_some found).1
      simp only [execute, perform_instead same member, ih]

theorem advance_instead (budget : Nat) (id : String) :
    advance (here.instead graph hours) budget id = advance here budget id := by
  rw [advance, steps_instead same, node?_instead same, advance]

theorem proceed_instead (budget rounds : Nat) (outcome : Outcome) :
    proceed (here.instead graph hours) budget rounds outcome = proceed here budget rounds outcome := by
  induction rounds generalizing outcome with
  | zero => cases outcome <;> rfl
  | succ rounds ih =>
    cases outcome with
    | continuedTo id => simp only [proceed, advance_instead same, ih]
    | _ => rfl

theorem settle_instead (outcome : Outcome) : settle (here.instead graph hours) outcome = settle here outcome := by
  unfold settle
  rw [proceed_instead same]
  rfl

theorem runFrom_instead (id : String) : runFrom (here.instead graph hours) id = runFrom here id := by
  simp only [runFrom, advance_instead same, settle_instead same]
  rfl

theorem resume_instead (budget : Nat) (pending : String) (reply : Reply) :
    resume (here.instead graph hours) budget pending reply = resume here budget pending reply := by
  unfold resume
  rw [node?_instead same]
  cases found : here.graph.node? pending with
  | none => rfl
  | some node =>
    have member : node ∈ here.graph.nodes := (Graph.node?_eq_some found).1
    obtain ⟨id, kind⟩ := node
    simp only [advance_instead same]
    cases kind with
    | input text key =>
      simp only [next_instead same member rfl]
      rfl
    | template template =>
      simp only [branch_instead same]
      rfl
    | _ => rfl

theorem resumeFrom_instead (pending : String) (reply : Reply) :
    resumeFrom (here.instead graph hours) pending reply = resumeFrom here pending reply := by
  simp only [resumeFrom, resume_instead same, settle_instead same]
  rfl

theorem awaited_instead : awaited (here.instead graph hours).graph = awaited here.graph := by
  have nodes : (here.instead graph hours).graph.node? = here.graph.node? := funext (node?_instead same)
  funext session
  rw [awaited, nodes, awaited]

theorem receive_instead (reply : Reply) : receive (here.instead graph hours) reply = receive here reply := by
  simp only [receive, awaited_instead same, resumeFrom_instead same]
  rfl

end Walk
end Switchboard
