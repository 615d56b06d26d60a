import Switchboard.Proofs.Flow.Validation

/-! What the soundness of a graph is good for: whatever a flow can follow leads to a node, so no walk
ever leaves the graph. -/
namespace Switchboard.Graph

variable {g : Graph} {id source target handle : String} {node : Node}

def HasNode (g : Graph) (id : String) : Prop := (g.node? id).isSome

theorem node?_eq_some (h : g.node? id = some node) : node ∈ g.nodes ∧ node.id = id :=
  ⟨List.mem_of_find?_eq_some h, by simpa using List.find?_some h⟩

theorem hasNode_of_node? (h : g.node? id = some node) : g.HasNode id := by
  simp [HasNode, h]

theorem hasNode_iff : g.HasNode id ↔ id ∈ g.nodes.map Node.id := by
  simp [HasNode, node?, List.find?_isSome]

theorem wellFormed (g : Graph) : WellFormed g.nodes g.edges := fault?_eq_none_iff.1 g.sound

theorem hasNode_target {edge : Edge} (h : edge ∈ g.edges) : g.HasNode edge.target :=
  hasNode_iff.2 (g.wellFormed.joined.ends edge h).2

theorem mem_edges_of_outgoing {edge : Edge} (h : edge ∈ g.outgoing source) : edge ∈ g.edges :=
  (List.mem_filter.1 h).1

theorem hasNode_next (h : g.next source = some target) : g.HasNode target := by
  unfold next at h
  obtain ⟨edge, chosen, rfl⟩ := Option.map_eq_some_iff.1 h
  rcases Option.or_eq_some_iff.1 chosen with found | ⟨-, first⟩
  · exact hasNode_target (mem_edges_of_outgoing (List.mem_of_find?_eq_some found))
  · exact hasNode_target (mem_edges_of_outgoing (List.mem_of_mem_head? first))

theorem hasNode_branch (h : g.branch source handle = some target) : g.HasNode target := by
  unfold branch at h
  obtain ⟨edge, found, rfl⟩ := Option.map_eq_some_iff.1 h
  exact hasNode_target (mem_edges_of_outgoing (List.mem_of_find?_eq_some found))

theorem exists_start (g : Graph) :
    ∃ node ∈ g.nodes, node.kind.isStart ∧ g.start = node.id := by
  have some_ : 0 < g.nodes.countP (·.kind.isStart) := by
    rw [g.wellFormed.starts]
    exact Nat.one_pos
  obtain ⟨node, member, starts⟩ := List.countP_pos_iff.1 some_
  have found : (g.nodes.find? (·.kind.isStart)).isSome :=
    List.find?_isSome.2 ⟨node, member, starts⟩
  obtain ⟨first, found⟩ := Option.isSome_iff_exists.1 found
  exact ⟨first, List.mem_of_find?_eq_some found, List.find?_some (p := fun node : Node => node.kind.isStart) found,
    by simp [start, found]⟩

theorem hasNode_start (g : Graph) : g.HasNode g.start := by
  obtain ⟨node, member, -, name⟩ := g.exists_start
  rw [name, hasNode_iff]
  exact List.mem_map_of_mem member

end Switchboard.Graph
