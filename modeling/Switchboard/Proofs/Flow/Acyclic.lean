import Mathlib.Data.List.Perm.Subperm
import Switchboard.Proofs.Flow.Budget

/-! Flows without a loop. A walk along a graph without cycles meets no node twice, so it needs no more budget
than the graph has nodes. A desk whose rounds have that much to spend never gives such a flow up: it
waits, it is over, or it came to a node that has no exit to follow. -/
namespace Switchboard

/-- No way leads from a node back to it. -/
def Graph.Acyclic (g : Graph) : Prop := ∀ id, ¬ Relation.TransGen g.Leads id id

/-- A numbering that every edge and every jump climbs shows that there is no cycle. -/
theorem Graph.acyclic_of_climbs {g : Graph} (height : String → Nat)
    (edges : ∀ edge ∈ g.edges, height edge.source < height edge.target)
    (jumps : ∀ node ∈ g.nodes, ∀ target, node.kind = .goto target →
      height node.id < height target) : g.Acyclic := by
  have climbs {source target : String} (leads : g.Leads source target) :
      height source < height target := by
    obtain ⟨edge, member, rfl, rfl⟩ | ⟨node, member, rfl, kind, -⟩ := leads
    · exact edges edge member
    · exact jumps node member target kind
  intro id cycle
  have higher : Relation.TransGen (· < ·) (height id) (height id) := cycle.lift height fun _ _ => climbs
  rw [Relation.transGen_eq_self] at higher
  exact Nat.lt_irrefl _ higher

def Run.Once (r t : Run) : Prop := ∃ executed, t.path = r.path ++ executed ∧ executed.Nodup

namespace Walk

variable {here : Surroundings} {r s t : Run} {node last pending : String} {path : List String}
  {budget : Nat} {reply : Reply} {found : Node} {outcome : Outcome}

theorem Moves.nodup (acyclic : here.graph.Acyclic) (moves : Moves here node r path last t) :
    (path ++ [last]).Nodup := by
  induction moves with
  | stay => simp
  | go member run rest ih =>
    -- All that comes after a node can be reached from it, so to see it again would close a cycle.
    refine List.nodup_cons.2 ⟨fun again => ?_, ih⟩
    exact acyclic _ (.head' (execute_next member run).1 (rest.reaches _ again))

theorem Moves.length_lt (acyclic : here.graph.Acyclic) (known : here.graph.HasNode node)
    (moves : Moves here node r path last t) : path.length < here.graph.nodes.length := by
  have among : path ++ [last] ⊆ here.graph.nodes.map Node.id :=
    fun id visited => Graph.hasNode_iff.1 (moves.known known id visited)
  have few := (List.subperm_of_subset (moves.nodup acyclic) among).length_le
  rwa [List.length_append, List.length_map] at few

theorem Travels.once (acyclic : here.graph.Acyclic) (travels : Travels here budget node r t) :
    r.Once t := by
  obtain ⟨path, last, s, moves, ⟨executed, -⟩ | ⟨executed, -⟩⟩ := travels
  · exact ⟨_, executed, (moves.nodup acyclic).of_append_left⟩
  · exact ⟨_, executed, moves.nodup acyclic⟩

theorem advance_once (acyclic : here.graph.Acyclic) :
    Ends (advance here budget node) r (fun _ t => r.Once t) r.Once := by
  by_cases known : here.graph.HasNode node
  · rw [advance_of_known known]
    exact (steps_travels known).mono (fun _ _ => Travels.once acyclic)
      fun _ => Travels.once acyclic
  · rw [advance_of_unknown known]
    exact Ends.throw_iff.2 ⟨[], by simp, .nil⟩

def Strands (here : Surroundings) (r : Run) (node last : String) : Prop :=
  ∃ path s found, Moves here node r path last s ∧ here.graph.node? last = some found ∧
    DeadEnd here s found

/-- How a walk from a node ends of its own accord. -/
def Finishes (here : Surroundings) (r : Run) (node : String) : Outcome → Prop
  | .continuedTo _ => False
  | .stalled last => Strands here r node last
  | _ => True

/-- How a flow ends of its own accord that a reply resumes: there is no way on from the node that was
waiting, or from a node at which the flow comes when it goes on. -/
def FinishesAfter (here : Surroundings) (r : Run) (node : Node) (reply : Reply) : Outcome → Prop
  | .continuedTo _ => False
  | .stalled last =>
    last = node.id ∧ DeadReply here r node reply ∨
      ∃ next s, answered here node reply r = .ok (.next next) s ∧ Strands here s next last
  | _ => True

theorem Finishes.settled (finishes : Finishes here r node outcome) :
    outcome.settled = outcome := by
  cases outcome <;> first | rfl | contradiction

theorem FinishesAfter.settled (finishes : FinishesAfter here r found reply outcome) :
    outcome.settled = outcome := by
  cases outcome <;> first | rfl | contradiction

theorem Finishes.afterReply {next : String}
    (goes : answered here found reply r = .ok (.next next) s)
    (finishes : Finishes here s next outcome) : FinishesAfter here r found reply outcome := by
  cases outcome with
  | stalled last => exact .inr ⟨next, s, goes, finishes⟩
  | continuedTo last => exact finishes
  | _ => trivial

theorem Round.finishes (acyclic : here.graph.Acyclic) (known : here.graph.HasNode node)
    (enough : here.graph.nodes.length ≤ budget)
    (round : Round here budget node r (.ok outcome t)) : Finishes here r node outcome := by
  cases round with
  | spent moves length =>
    have few := moves.length_lt acyclic known
    rw [length] at few
    exact absurd enough (Nat.not_le.2 few)
  | halted moves length member run =>
    have goes := (execute_halt member run).1
    cases outcome with
    | continuedTo last => exact goes
    | stalled at_ =>
      obtain ⟨rfl, dead⟩ := goes
      have name := (Graph.node?_eq_some member).2
      exact ⟨_, _, _, name ▸ moves, name ▸ member, dead⟩
    | _ => trivial

theorem advance_finishes (acyclic : here.graph.Acyclic)
    (enough : here.graph.nodes.length ≤ budget) (run : advance here budget node r = .ok outcome t) :
    Finishes here r node outcome := by
  by_cases known : here.graph.HasNode node
  · rw [advance_of_known known] at run
    exact (run ▸ steps_round known).finishes acyclic known enough
  · rw [advance_of_unknown known] at run
    contradiction

theorem resume_finishes (acyclic : here.graph.Acyclic) (enough : here.graph.nodes.length ≤ budget)
    (member : here.graph.node? pending = some found)
    (run : resume here budget pending reply r = .ok outcome t) :
    FinishesAfter here r found reply outcome := by
  rw [resume_of_known member] at run
  obtain ⟨step, s, goes, run⟩ := bind_eq_ok_iff.1 run
  cases step with
  | next next => exact (advance_finishes acyclic enough run).afterReply goes
  | halt halted =>
    obtain ⟨-, answers⟩ := (Ends.ok_iff goes).1 (answered_goes found reply r)
    cases run
    cases outcome with
    | continuedTo last => exact answers
    | stalled last => exact .inl answers
    | _ => trivial

theorem runFrom_finishes (acyclic : here.graph.Acyclic)
    (enough : here.graph.nodes.length ≤ here.engine.budget * here.engine.rounds)
    (run : runFrom here node r = .ok outcome t) : Finishes here r node outcome := by
  rw [runFrom_eq] at run
  obtain ⟨o, s, round, rfl⟩ := exists_of_recorded_eq_ok run
  have finishes := advance_finishes acyclic enough round
  rwa [finishes.settled]

theorem resumeFrom_finishes (acyclic : here.graph.Acyclic)
    (enough : here.graph.nodes.length ≤ here.engine.budget * here.engine.rounds)
    (member : here.graph.node? pending = some found)
    (run : resumeFrom here pending reply r = .ok outcome t) :
    FinishesAfter here r found reply outcome := by
  rw [resumeFrom_eq] at run
  obtain ⟨o, s, round, rfl⟩ := exists_of_recorded_eq_ok run
  have finishes := resume_finishes acyclic enough member round
  rwa [finishes.settled]

structure EndsItself (here : Surroundings) (r : Run) : Prop where
  runs : ∀ node outcome t, runFrom here node r = .ok outcome t → Finishes here r node outcome
  resumes : ∀ pending found reply outcome t, here.graph.node? pending = some found →
    resumeFrom here pending reply r = .ok outcome t → FinishesAfter here r found reply outcome
  /-- A session that the flow drives lets no run fail. -/
  returns : r.visit.session.status = .bot →
    (∀ node, here.graph.HasNode node → ∃ outcome t, runFrom here node r = .ok outcome t) ∧
      ∀ pending found reply, here.graph.node? pending = some found → found.kind.awaitsReply →
        ∃ outcome t, resumeFrom here pending reply r = .ok outcome t

/-- In a graph without cycles a round executes no node twice, whatever comes of it, and one that may execute
as many nodes as there are does not break off. So a desk whose rounds may do so together brings every
flow to an end of its own. -/
theorem acyclic_ends (acyclic : here.graph.Acyclic) (r : Run) :
    (∀ budget node, r.Once (stateAfter (advance here budget node) r)) ∧
      (∀ budget node, here.graph.nodes.length ≤ budget →
        ∀ last t, advance here budget node r ≠ .ok (.continuedTo last) t) ∧
      (here.graph.nodes.length ≤ here.engine.budget * here.engine.rounds → EndsItself here r) := by
  refine ⟨fun budget node => ?_, ?_, fun enough => ⟨?_, ?_, fun bot => ⟨?_, ?_⟩⟩⟩
  · exact (advance_once acyclic).stateAfter
  · intro budget node enough last t run
    exact advance_finishes acyclic enough run
  · exact fun node outcome t => runFrom_finishes acyclic enough
  · exact fun pending found reply outcome t => resumeFrom_finishes acyclic enough
  · intro node known
    obtain ⟨outcome, t, run, -⟩ := runFrom_rests known bot
    exact ⟨outcome, t, run⟩
  · intro pending found reply member awaits
    obtain ⟨outcome, t, run, -⟩ := resumeFrom_rests member awaits bot
    exact ⟨outcome, t, run⟩

end Walk

def Graph.detour : Graph where
  id := "detour"
  name := "Detour"
  nodes := [⟨"start", .start none⟩, ⟨"jump", .goto "hello"⟩, ⟨"hello", .message "Hello"⟩,
    ⟨"end", .ending none⟩]
  edges := [.always "start" "jump", .always "hello" "end"]
  sound := by decide

def Surroundings.detour : Surroundings where
  graph := .detour
  wording := {}
  engine := { stepBudget := 2, maxRounds := 2 }
  services := ⟨fun _ => ⟨0, 0⟩, fun _ _ => none, fun _ _ _ => none, fun _ _ => none,
    fun _ _ => none, fun _ _ => none⟩

theorem Graph.detour_acyclic : Graph.detour.Acyclic :=
  acyclic_of_climbs (fun id => (detour.nodes.map Node.id).idxOf id) (by decide) <| by
    simp [detour]

namespace Walk

def arrival : Run := .start (.new ⟨"chat_1"⟩ "ana" ⟨0, 0⟩) ∅

theorem detour_ends :
    Graph.detour.Acyclic ∧
      (∀ budget node, arrival.Once (stateAfter (advance .detour budget node) arrival)) ∧
      EndsItself .detour arrival := by
  have ends := @acyclic_ends .detour Graph.detour_acyclic arrival
  exact ⟨Graph.detour_acyclic, ends.1, ends.2.2 (by decide)⟩

end Walk
end Switchboard
