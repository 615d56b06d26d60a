import Switchboard.Proofs.Flow.Soundness

/-! What a graph promises once it is built. Its lookups read the lists it was built from and nothing else,
and each has at most one answer there, so the order of nodes and edges decides none of them. -/
namespace Switchboard.Graph

variable {g : Graph} {id source target handle : String} {node : Node}

theorem eq_of_id {other : Node} (member : node ∈ g.nodes) (also : other ∈ g.nodes)
    (same : node.id = other.id) : node = other :=
  List.inj_on_of_nodup_map g.wellFormed.distinct member also same

theorem eq_of_exit {edge other : Edge} (member : edge ∈ g.edges) (also : other ∈ g.edges)
    (same : edge.exit = other.exit) : edge = other :=
  List.inj_on_of_nodup_map g.wellFormed.joined.exits member also same

theorem node?_eq_some_iff : g.node? id = some node ↔ node ∈ g.nodes ∧ node.id = id := by
  refine ⟨node?_eq_some, fun found => ?_⟩
  obtain ⟨member, rfl⟩ := found
  have known : g.HasNode node.id := hasNode_iff.2 (List.mem_map_of_mem member)
  obtain ⟨other, found⟩ := Option.isSome_iff_exists.1 known
  obtain ⟨also, same⟩ := node?_eq_some found
  rw [found, eq_of_id also member same]

theorem node?_eq_none_iff : g.node? id = none ↔ id ∉ g.nodes.map Node.id := by
  rw [← hasNode_iff, HasNode, Option.not_isSome_iff_eq_none]

theorem start_eq (member : node ∈ g.nodes) (starts : node.kind.isStart) : g.start = node.id := by
  obtain ⟨first, also, starts', name⟩ := g.exists_start
  have one := g.wellFormed.starts
  rw [List.countP_eq_length_filter, List.length_eq_one_iff] at one
  obtain ⟨only, all⟩ := one
  have same (other : Node) (member : other ∈ g.nodes) (starts : other.kind.isStart) :
      other = only := by
    have kept : other ∈ g.nodes.filter (·.kind.isStart) := List.mem_filter.2 ⟨member, starts⟩
    rw [all] at kept
    exact List.mem_singleton.1 kept
  rw [name, same first also starts', same node member starts]

theorem mem_outgoing_iff {edge : Edge} :
    edge ∈ g.outgoing source ↔ edge ∈ g.edges ∧ edge.source = source := by
  simp [outgoing]

theorem edge_of_branch (leads : g.branch source handle = some target) :
    ⟨source, target, some handle⟩ ∈ g.edges := by
  obtain ⟨edge, found, rfl⟩ := Option.map_eq_some_iff.1 leads
  obtain ⟨member, rfl⟩ := mem_outgoing_iff.1 (List.mem_of_find?_eq_some found)
  have taken : edge.handle = some handle := by simpa using List.find?_some found
  rw [← taken]
  exact member

theorem branch_eq_some_iff :
    g.branch source handle = some target ↔ ⟨source, target, some handle⟩ ∈ g.edges := by
  refine ⟨edge_of_branch, fun member => ?_⟩
  have leaves : ⟨source, target, some handle⟩ ∈ g.outgoing source :=
    mem_outgoing_iff.2 ⟨member, rfl⟩
  have some_ : ((g.outgoing source).find? (·.handle == some handle)).isSome :=
    List.find?_isSome.2 ⟨_, leaves, by simp⟩
  obtain ⟨edge, found⟩ := Option.isSome_iff_exists.1 some_
  have leads : g.branch source handle = some edge.target := by simp [branch, found]
  have same : (⟨source, edge.target, some handle⟩ : Edge) = ⟨source, target, some handle⟩ :=
    eq_of_exit (edge_of_branch leads) member rfl
  rw [leads, (Edge.mk.inj same).2.1]

/-- What can be read off a graph that was built from these lists. -/
structure Presents (g : Graph) (nodes : List Node) (edges : List Edge) : Prop where
  nodes_eq : g.nodes = nodes
  edges_eq : g.edges = edges
  start : ∃ node ∈ nodes, node.kind.isStart ∧ g.start = node.id ∧
    ∀ other ∈ nodes, other.kind.isStart → other = node
  node? : ∀ id node, g.node? id = some node ↔ node ∈ nodes ∧ node.id = id
  unknown : ∀ id, g.node? id = none ↔ id ∉ nodes.map Node.id
  branch : ∀ source handle target,
    g.branch source handle = some target ↔ ⟨source, target, some handle⟩ ∈ edges
  /-- There is one edge to an exit. -/
  exit : ∀ edge ∈ edges, ∀ other ∈ edges,
    edge.source = other.source → edge.handle = other.handle → edge = other
  next_known : ∀ source target, g.next source = some target → (g.node? target).isSome
  branch_known : ∀ source handle target,
    g.branch source handle = some target → (g.node? target).isSome

theorem presents (g : Graph) : g.Presents g.nodes g.edges where
  nodes_eq := rfl
  edges_eq := rfl
  start := by
    obtain ⟨node, member, starts, name⟩ := g.exists_start
    refine ⟨node, member, starts, name, fun other also starts' => ?_⟩
    exact eq_of_id also member ((start_eq also starts').symm.trans name)
  node? _ _ := node?_eq_some_iff
  unknown _ := node?_eq_none_iff
  branch _ _ _ := branch_eq_some_iff
  exit _ member _ also source handle :=
    eq_of_exit member also (Prod.ext source handle)
  next_known _ _ := hasNode_next
  branch_known _ _ _ := hasNode_branch

section Build

variable {id name : String} {nodes : List Node} {edges : List Edge} {fault : GraphFault}

theorem build_eq_ok_iff :
    build id name nodes edges = .ok g ↔
      g.id = id ∧ g.name = name ∧ g.nodes = nodes ∧ g.edges = edges := by
  unfold build
  split
  · rename_i fault judged
    simp only [reduceCtorEq, false_iff]
    rintro ⟨-, -, rfl, rfl⟩
    rw [g.sound] at judged
    contradiction
  · rename_i sound
    cases g with
    | mk id' name' nodes' edges' sound' =>
      simp only [Except.ok.injEq, Graph.mk.injEq]
      exact ⟨fun h => ⟨h.1.symm, h.2.1.symm, h.2.2.1.symm, h.2.2.2.symm⟩,
        fun h => ⟨h.1.symm, h.2.1.symm, h.2.2.1.symm, h.2.2.2.symm⟩⟩

theorem build_eq_error_iff :
    build id name nodes edges = .error fault ↔ fault? nodes edges = some fault := by
  unfold build
  split
  · rename_i found judged
    simp [judged]
  · rename_i sound
    simp [sound]

end Build

/-- A graph is built exactly of lists that are well formed, and then it reads as they do; otherwise the
first fault is named, which is really there. -/
theorem build_judges (id name : String) (nodes : List Node) (edges : List Edge) :
    ((∃ g, build id name nodes edges = .ok g) ↔ WellFormed nodes edges) ∧
      (∀ g, build id name nodes edges = .ok g →
        g.id = id ∧ g.name = name ∧ g.Presents nodes edges) ∧
      ∀ fault, build id name nodes edges = .error fault ↔ Names nodes edges fault := by
  refine ⟨⟨?_, ?_⟩, ?_, fun fault => build_eq_error_iff.trans fault?_eq_some_iff⟩
  · intro built
    obtain ⟨g, built⟩ := built
    obtain ⟨-, -, rfl, rfl⟩ := build_eq_ok_iff.1 built
    exact g.wellFormed
  · intro wellFormed
    exact ⟨⟨id, name, nodes, edges, fault?_eq_none_iff.2 wellFormed⟩,
      build_eq_ok_iff.2 ⟨rfl, rfl, rfl, rfl⟩⟩
  · intro g built
    obtain ⟨named, titled, rfl, rfl⟩ := build_eq_ok_iff.1 built
    exact ⟨named, titled, g.presents⟩

def fork : Graph where
  id := "fork"
  name := "Fork"
  nodes := [⟨"start", .start none⟩, ⟨"ask", .condition []⟩, ⟨"end", .ending none⟩]
  edges := [.always "start" "ask", .branch "ask" elseHandle "end"]
  sound := by decide

/-- It is built as it stands, and not with a second edge to an exit that is taken. -/
theorem fork_judged :
    (build "fork" "Fork" fork.nodes fork.edges = .ok fork ∧ fork.Presents fork.nodes fork.edges) ∧
      Names fork.nodes (fork.edges ++ [.branch "ask" elseHandle "start"])
        (.duplicateHandle "ask" elseHandle) := by
  have built : build "fork" "Fork" fork.nodes fork.edges = .ok fork :=
    build_eq_ok_iff.2 ⟨rfl, rfl, rfl, rfl⟩
  refine ⟨⟨built, ((build_judges "fork" "Fork" fork.nodes fork.edges).2.1 fork built).2.2⟩, ?_⟩
  refine ((build_judges "fork" "Fork" fork.nodes _).2.2 _).1 (build_eq_error_iff.2 ?_)
  decide

end Switchboard.Graph
