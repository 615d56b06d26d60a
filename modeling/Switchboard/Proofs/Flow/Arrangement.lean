import Mathlib.Data.List.Perm.Basic
import Switchboard.Proofs.Flow.Building
import Switchboard.Proofs.Flow.Likeness
import Switchboard.Proofs.Lookup

/-! The order in which nodes and edges are listed. Whether lists make a graph does not depend on it, and neither
do the lookups, since what they look for is there once at most. The one exception is the exit of a node that does
not branch: where no edge is without handle, any edge is taken. Where there is only one then, runs are the same
in every order. -/
namespace Switchboard

namespace Graph

/-- Every node that does not branch has an edge without handle, or one edge at most. -/
def HasLoneExits (nodes : List Node) (edges : List Edge) : Prop :=
  ∀ node ∈ nodes, node.kind.branches = false →
    (∃ edge ∈ edges, edge.source = node.id ∧ edge.handle = none) ∨
      (edges.filter (·.source == node.id)).length ≤ 1

section Listing

variable {ids ids' : List String} {nodes nodes' : List Node} {edges edges' : List Edge} {id name : String}

theorem Joined.perm (joined : Joined ids edges) (named : ids.Perm ids') (listed : edges.Perm edges') :
    Joined ids' edges' where
  ends edge member := by
    obtain ⟨source, target⟩ := joined.ends edge (listed.mem_iff.2 member)
    exact ⟨named.mem_iff.1 source, named.mem_iff.1 target⟩
  exits := (listed.map Edge.exit).nodup_iff.1 joined.exits

theorem WellFormed.perm (wellFormed : WellFormed nodes edges) (also : nodes.Perm nodes')
    (listed : edges.Perm edges') : WellFormed nodes' edges' where
  distinct := (also.map Node.id).nodup_iff.1 wellFormed.distinct
  starts := (also.countP_eq _).symm.trans wellFormed.starts
  joined := wellFormed.joined.perm (also.map Node.id) listed

theorem exists_build_iff (id name : String) :
    (∃ g, build id name nodes edges = .ok g) ↔ WellFormed nodes edges :=
  (build_judges id name nodes edges).1

theorem build_error_perm {fault : GraphFault} (also : nodes.Perm nodes') (listed : edges.Perm edges')
    (refused : build id name nodes edges = .error fault) : ∃ fault', build id name nodes' edges' = .error fault' := by
  cases built : build id name nodes' edges' with
  | error fault' => exact ⟨fault', rfl⟩
  | ok h =>
    have wellFormed : WellFormed nodes' edges' := (exists_build_iff id name).1 ⟨h, built⟩
    obtain ⟨g, built'⟩ := (exists_build_iff id name).2 (wellFormed.perm also.symm listed.symm)
    rw [refused] at built'
    contradiction

end Listing

variable {g h : Graph}

theorem start_perm (also : g.nodes.Perm h.nodes) : h.start = g.start := by
  obtain ⟨node, member, starts, name⟩ := g.exists_start
  rw [name, start_eq (also.mem_iff.1 member) starts]

theorem next_perm {node : Node} (listed : g.edges.Perm h.edges)
    (lone : (∃ edge ∈ g.edges, edge.source = node.id ∧ edge.handle = none) ∨
      (g.edges.filter (·.source == node.id)).length ≤ 1) : h.next node.id = g.next node.id := by
  have leaving : (g.outgoing node.id).Perm (h.outgoing node.id) := listed.filter _
  obtain ⟨edge, known, leaves, free⟩ | few := lone
  · have same : (g.outgoing node.id).find? (·.isUnconditional) = (h.outgoing node.id).find? (·.isUnconditional) := by
      refine find?_eq_of_unique (fun _ => leaving.mem_iff) fun a ofA b ofB freeA freeB => ?_
      obtain ⟨knownA, leavesA⟩ := mem_outgoing_iff.1 ofA
      obtain ⟨knownB, leavesB⟩ := mem_outgoing_iff.1 ofB
      rw [Edge.isUnconditional, Option.isNone_iff_eq_none] at freeA freeB
      exact eq_of_exit knownA knownB (Prod.ext (leavesA.trans leavesB.symm) (freeA.trans freeB.symm))
    have there : ((g.outgoing node.id).find? (·.isUnconditional)).isSome :=
      List.find?_isSome.2 ⟨edge, mem_outgoing_iff.2 ⟨known, leaves⟩, by simp [Edge.isUnconditional, free]⟩
    obtain ⟨first, found⟩ := Option.isSome_iff_exists.1 there
    rw [next, next, ← same, found, Option.some_or, Option.some_or]
  · have only : h.outgoing node.id = g.outgoing node.id := by
      unfold outgoing at leaving ⊢
      generalize g.edges.filter (·.source == node.id) = leaves at few leaving ⊢
      cases leaves with
      | nil => exact List.nil_perm.1 leaving
      | cons edge rest =>
        obtain rfl : rest = [] := by simpa using few
        exact (List.singleton_perm.1 leaving).symm
    rw [next, next, only]

theorem Alike.of_perm (also : g.nodes.Perm h.nodes) (listed : g.edges.Perm h.edges)
    (lone : HasLoneExits g.nodes g.edges) : g.Alike h where
  start := start_perm also
  node? id := by
    refine Option.ext fun node => ?_
    rw [node?_eq_some_iff, node?_eq_some_iff, also.mem_iff]
  branch source handle := by
    refine Option.ext fun target => ?_
    rw [branch_eq_some_iff, branch_eq_some_iff, listed.mem_iff]
  next node member single := next_perm listed (lone node member single)

def twoHandles (edges : List Edge)
    (sound : fault? [⟨"s", .start none⟩, ⟨"a", .ending none⟩] edges = none) : Graph :=
  ⟨"f", "", _, edges, sound⟩

-- Without a lone exit the order decides.
example : (twoHandles [.branch "s" "1" "a", .branch "s" "2" "s"] (by decide)).next "s" = some "a" ∧
    (twoHandles [.branch "s" "2" "s", .branch "s" "1" "a"] (by decide)).next "s" = some "s" := by decide

end Graph

def Surroundings.on (here : Surroundings) (graph : Graph) : Surroundings := { here with graph }

end Switchboard
