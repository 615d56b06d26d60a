import Switchboard.Flow.Report
import Switchboard.Proofs.Flow.Building
import Switchboard.Proofs.Flow.Whereabouts

/-! Where a flow can come. It goes on only where an edge or a jump leads, and where it stops it is at the
node that it has come to, so the nodes that a report finds unentered are out of its reach, whatever is
said and answered on the way. -/
namespace Switchboard

namespace Graph

variable {g : Graph} {id target node : String}

theorem mem_jumps_iff : target ∈ g.jumps ↔ ∃ node ∈ g.nodes, node.kind = .goto target := by
  have jump (kind : Kind) : kind.jump? = some target ↔ kind = .goto target := by
    cases kind <;> simp [Kind.jump?]
  simp [jumps, jump]

theorem mem_unentered_iff : id ∈ g.unentered ↔
    ∃ node ∈ g.nodes, node.id = id ∧ ¬ node.kind.isStart ∧
      (∀ edge ∈ g.edges, edge.target ≠ id) ∧ id ∉ g.jumps := by
  simp only [unentered, List.mem_map, List.mem_filter]
  constructor
  · intro h
    obtain ⟨node, ⟨member, apart⟩, rfl⟩ := h
    exact ⟨node, member, rfl, by simpa [and_assoc] using apart⟩
  · intro h
    obtain ⟨node, member, rfl, apart⟩ := h
    exact ⟨node, ⟨member, by simpa [and_assoc] using apart⟩, rfl⟩

theorem mem_missingTargets_iff : target ∈ g.missingTargets ↔
    (∃ node ∈ g.nodes, node.kind = .goto target) ∧ ¬ g.HasNode target := by
  simp [missingTargets, mem_jumps_iff, HasNode]

/-- The report is right: no flow can come to what it finds unentered. -/
theorem not_entered_of_unentered (listed : id ∈ g.unentered) : ¬ g.Entered id := by
  obtain ⟨node, member, rfl, started, edges, jumps⟩ := mem_unentered_iff.1 listed
  intro entered
  obtain start | ⟨source, ⟨edge, joined, -, target⟩ | ⟨jump, there, -, kind, -⟩⟩ := entered
  · obtain ⟨first, also, starts, name⟩ := g.exists_start
    rw [eq_of_id member also (start.trans name)] at started
    exact started starts
  · exact edges edge joined target
  · exact jumps (mem_jumps_iff.2 ⟨jump, there, kind⟩)

theorem Entered.reaches (entered : g.Entered node) (reaches : Relation.ReflTransGen g.Leads node id) :
    g.Entered id := by
  cases reaches with
  | refl => exact entered
  | tail _ leads => exact .inr ⟨_, leads⟩

end Graph

def Outcome.place? : Outcome → Option String
  | .continuedTo node | .paused node | .delayed node _ _ | .stalled node => some node
  | .queued _ | .terminated => none

theorem Outcome.place?_settled (outcome : Outcome) : outcome.settled.place? = outcome.place? := by
  cases outcome <;> rfl

/-- A handler that leaves the flow anywhere leaves it at its own node. -/
def Step.StaysAt (node : String) : Step → Prop
  | .next _ => True
  | .halt outcome => ∀ place, outcome.place? = some place → place = node

namespace Walk

variable {here : Surroundings} {r t : Run} {node place : String} {budget : Nat} {outcome : Outcome}

theorem perform_staysAt (node : String) (kind : Kind) :
    Yields (Step.StaysAt node) (perform here node kind) := by
  intro r step t run
  have befits := perform_befits node kind r step t run
  cases step with
  | next next => trivial
  | halt outcome =>
    intro place left
    cases outcome with
    | continuedTo at_ => exact befits.elim
    | paused at_ | delayed at_ next seconds => exact (Option.some.inj left).symm.trans befits.1
    | stalled at_ => exact (Option.some.inj left).symm.trans befits
    | queued queue | terminated => contradiction

theorem steps_place (known : here.graph.HasNode node)
    (run : steps here budget node r = .ok outcome t) (left : outcome.place? = some place) :
    Relation.ReflTransGen here.graph.Leads node place := by
  cases run ▸ steps_round known with
  | spent moves length =>
    cases left
    exact moves.reaches _ (by simp)
  | @halted path last s _ found _ moves short member executed =>
    have here_ : place = found.id := perform_staysAt _ _ _ _ _ executed place left
    rw [here_, (Graph.node?_eq_some member).2]
    exact moves.reaches _ (by simp)

end Walk

namespace Impulse

variable {here : Surroundings} {impulse : Impulse} {r s t : Run} {outcome : Outcome} {node : String}
  {h : Handling} {session : Session}

theorem setOff_entered (comes : impulse.ComesTo here.graph session)
    (run : impulse.setOff here r = .ok (.next node) s) : here.graph.Entered node := by
  cases impulse with
  | enter entered =>
    cases run
    exact comes
  | answer waiting reply =>
    have goes := ((Ends.ok_iff run).1 (Walk.answered_goes waiting reply r)).2
    exact .inr ⟨_, goes⟩

theorem entered_of_mem_trail (comes : impulse.ComesTo here.graph session)
    (member : h ∈ impulse.trail here r) : here.graph.Entered h.node.id := by
  obtain ⟨node, s, set, there⟩ := mem_trail_iff.1 member
  obtain same | later := Walk.entered_of_mem_trail there
  · exact same ▸ setOff_entered comes set
  · exact .inr later

theorem program_place (fits : impulse.Fits here.graph) (comes : impulse.ComesTo here.graph session)
    (waits : ∀ node, session.pending = some node → here.graph.Entered node)
    (run : impulse.program here r = .ok outcome t) (left : outcome.place? = some node) :
    here.graph.Entered node := by
  obtain ⟨o, u, round, rfl, -, -⟩ := round_of_program fits run
  rw [Outcome.place?_settled] at left
  obtain ⟨step, s, set, gone⟩ := bind_eq_ok_iff.1 round
  cases step with
  | next first =>
    have known := setOff_next fits set
    rw [Walk.goOn, Walk.advance_of_known known] at gone
    exact (setOff_entered comes set).reaches (Walk.steps_place known gone left)
  | halt halted =>
    cases gone
    cases impulse with
    | enter entered => cases set
    | answer waiting reply =>
      have answers := ((Ends.ok_iff set).1 (Walk.answered_goes waiting reply r)).2
      have there : node = waiting.id := by
        cases o with
        | paused place => exact (Option.some.inj left).symm.trans answers
        | stalled place => exact (Option.some.inj left).symm.trans answers.1
        | _ => exact answers.elim
      exact waits node (there ▸ comes)

end Impulse
end Switchboard
