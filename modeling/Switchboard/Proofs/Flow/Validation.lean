import Mathlib.Data.List.Nodup
import Switchboard.Flow.Graph

/-! What makes a graph sound, and what a fault says of a list of nodes and edges. Both are said without
the scan that looks for the first fault: a repeated thing is one that stands among those before it, and
whatever stands before the first fault is in order. -/
namespace Switchboard

/-- The exit of a node that an edge takes. Two edges without handle take the same exit. -/
def Edge.exit (edge : Edge) : String × Option String := (edge.source, edge.handle)

namespace Graph

/-- The edges join nodes, and no exit leads two ways. -/
structure Joined (ids : List String) (edges : List Edge) : Prop where
  ends : ∀ edge ∈ edges, edge.source ∈ ids ∧ edge.target ∈ ids
  exits : (edges.map Edge.exit).Nodup

structure WellFormed (nodes : List Node) (edges : List Edge) : Prop where
  distinct : (nodes.map Node.id).Nodup
  starts : nodes.countP (·.kind.isStart) = 1
  joined : Joined (nodes.map Node.id) edges

/-- The missing end of an edge, where a missing source is named before a missing target. -/
def Dangles (ids : List String) (edge : Edge) (missing : String) : Prop :=
  edge.source ∉ ids ∧ missing = edge.source ∨
    edge.source ∈ ids ∧ edge.target ∉ ids ∧ missing = edge.target

def Spoils (ids : List String) (taken : List (String × Option String)) (edge : Edge) :
    GraphFault → Prop
  | .danglingEdge source target missing =>
    source = edge.source ∧ target = edge.target ∧ Dangles ids edge missing
  | .duplicateHandle source handle =>
    source = edge.source ∧ handle = edge.handle.getD "<none>" ∧
      (edge.source ∈ ids ∧ edge.target ∈ ids) ∧ edge.exit ∈ taken
  | _ => False

/-- The fault is there, and nothing that is judged before it is at fault: identifiers come first, then
the starts, then one edge after another. -/
def Names (nodes : List Node) (edges : List Edge) : GraphFault → Prop
  | .duplicateNode id =>
    ∃ before after, nodes.map Node.id = before ++ id :: after ∧ before.Nodup ∧ id ∈ before
  | .missingStart =>
    (nodes.map Node.id).Nodup ∧ nodes.countP (·.kind.isStart) = 0
  | .multipleStart count =>
    (nodes.map Node.id).Nodup ∧ nodes.countP (·.kind.isStart) = count ∧ 2 ≤ count
  | fault =>
    (nodes.map Node.id).Nodup ∧ nodes.countP (·.kind.isStart) = 1 ∧
      ∃ edge before after, edges = before ++ edge :: after ∧ Joined (nodes.map Node.id) before ∧
        Spoils (nodes.map Node.id) (before.map Edge.exit) edge fault

theorem exists_split_cons {first x : α} {rest : List α} {P : List α → Prop} :
    (∃ before after, first :: rest = before ++ x :: after ∧ P before) ↔
      first = x ∧ P [] ∨ ∃ before after, rest = before ++ x :: after ∧ P (first :: before) := by
  constructor
  · intro split
    obtain ⟨before, after, split, holds⟩ := split
    cases before with
    | nil =>
      cases split
      exact .inl ⟨rfl, holds⟩
    | cons other before =>
      cases split
      exact .inr ⟨before, after, rfl, holds⟩
  · intro split
    obtain ⟨rfl, holds⟩ | ⟨before, after, rfl, holds⟩ := split
    · exact ⟨[], rest, rfl, holds⟩
    · exact ⟨first :: before, after, rfl, holds⟩

section Repeats

variable {ids seen : List String} {id : String}

theorem firstRepeat_eq_none_iff (distinct : seen.Nodup) :
    firstRepeat seen ids = none ↔ (seen ++ ids).Nodup := by
  induction ids generalizing seen with
  | nil => simpa [firstRepeat] using distinct
  | cons first rest ih =>
    rw [firstRepeat, List.nodup_middle]
    by_cases known : first ∈ seen
    · simp [known]
    · rw [if_neg known, ih (List.nodup_cons.2 ⟨known, distinct⟩), List.cons_append]

theorem firstRepeat_eq_some_iff (distinct : seen.Nodup) :
    firstRepeat seen ids = some id ↔ ∃ before after, ids = before ++ id :: after ∧
      (seen ++ before).Nodup ∧ id ∈ seen ++ before := by
  induction ids generalizing seen with
  | nil => simp [firstRepeat]
  | cons first rest ih =>
    rw [firstRepeat, exists_split_cons]
    simp only [List.append_nil, List.nodup_middle, List.mem_append, List.mem_cons, or_left_comm]
    by_cases known : first ∈ seen
    · have repeated (before : List String) : ¬ (first :: (seen ++ before)).Nodup := by
        simp [known]
      simp only [known, if_true, Option.some.injEq, distinct, repeated, false_and, and_false,
        exists_false, or_false, true_and]
      exact ⟨fun same => ⟨same, same ▸ known⟩, And.left⟩
    · rw [if_neg known, ih (List.nodup_cons.2 ⟨known, distinct⟩)]
      have other : ¬ (first = id ∧ seen.Nodup ∧ id ∈ seen) := by
        rintro ⟨rfl, -, member⟩
        exact known member
      simp [other]

end Repeats

section Starts

variable {nodes : List Node} {fault : GraphFault}

theorem startFault_eq :
    startFault nodes =
      if nodes.countP (·.kind.isStart) = 0 then some .missingStart
      else if nodes.countP (·.kind.isStart) = 1 then none
      else some (.multipleStart (nodes.countP (·.kind.isStart))) := by
  rw [startFault, List.countP_eq_length_filter]
  generalize nodes.filter (·.kind.isStart) = starts
  match starts with
  | [] => rfl
  | [only] => rfl
  | first :: second :: rest => simp

theorem startFault_eq_none_iff :
    startFault nodes = none ↔ nodes.countP (·.kind.isStart) = 1 := by
  rw [startFault_eq]
  generalize nodes.countP (·.kind.isStart) = count
  split
  · simp_all
  · split <;> simp_all

theorem startFault_eq_some_iff :
    startFault nodes = some fault ↔
      fault = .missingStart ∧ nodes.countP (·.kind.isStart) = 0 ∨
        ∃ count, fault = .multipleStart count ∧
          nodes.countP (·.kind.isStart) = count ∧ 2 ≤ count := by
  rw [startFault_eq]
  generalize nodes.countP (·.kind.isStart) = count
  split
  · rename_i zero
    subst zero
    simp [eq_comm]
  · split
    · rename_i one
      subst one
      simp
    · simp only [Option.some.injEq]
      constructor
      · intro same
        exact .inr ⟨count, same.symm, rfl, by omega⟩
      · intro found
        obtain ⟨-, zero⟩ | ⟨other, same, rfl, -⟩ := found
        · contradiction
        · exact same.symm

end Starts

section Edges

variable {ids : List String} {seen : List (String × Option String)} {edges : List Edge}
  {edge : Edge} {missing : String} {fault : GraphFault}

theorem danglingEnd_eq_none_iff :
    danglingEnd ids edge = none ↔ edge.source ∈ ids ∧ edge.target ∈ ids := by
  simp [danglingEnd]

theorem danglingEnd_eq_some_iff :
    danglingEnd ids edge = some missing ↔ Dangles ids edge missing := by
  unfold danglingEnd Dangles
  by_cases source : edge.source ∈ ids
  · by_cases target : edge.target ∈ ids
    · simp [source, target]
    · simp [source, target, eq_comm]
  · simp [source, eq_comm]

theorem Dangles.not_ends (dangles : Dangles ids edge missing) :
    ¬ (edge.source ∈ ids ∧ edge.target ∈ ids) := by
  rw [← danglingEnd_eq_none_iff, danglingEnd_eq_some_iff.2 dangles]
  simp

theorem spoils_of_dangles (dangles : Dangles ids edge missing) :
    Spoils ids seen edge fault ↔ fault = .danglingEdge edge.source edge.target missing := by
  have only (other : String) (also : Dangles ids edge other) : other = missing := by
    rw [← danglingEnd_eq_some_iff] at dangles also
    exact Option.some.inj (also.symm.trans dangles)
  cases fault with
  | danglingEdge source target other =>
    simp only [Spoils, GraphFault.danglingEdge.injEq]
    exact ⟨fun h => ⟨h.1, h.2.1, only other h.2.2⟩,
      fun h => ⟨h.1, h.2.1, h.2.2 ▸ dangles⟩⟩
  | duplicateHandle source handle => simp [Spoils, dangles.not_ends]
  | _ => simp [Spoils]

theorem spoils_of_ends (ends : edge.source ∈ ids ∧ edge.target ∈ ids) :
    Spoils ids seen edge fault ↔
      fault = .duplicateHandle edge.source (edge.handle.getD "<none>") ∧ edge.exit ∈ seen := by
  cases fault with
  | danglingEdge source target other =>
    have joined : ¬ Dangles ids edge other := by
      rw [← danglingEnd_eq_some_iff, danglingEnd_eq_none_iff.2 ends]
      simp
    simp [Spoils, joined]
  | duplicateHandle source handle => simp [Spoils, ends, and_assoc]
  | _ => simp [Spoils]

theorem spoils_middle {exit : String × Option String} {more : List (String × Option String)} :
    Spoils ids (seen ++ exit :: more) edge fault ↔
      Spoils ids (exit :: (seen ++ more)) edge fault := by
  cases fault with
  | duplicateHandle source handle => simp [Spoils, or_left_comm]
  | _ => exact Iff.rfl

theorem edgeFault_of_dangles {rest : List Edge} (dangles : Dangles ids edge missing) :
    edgeFault ids seen (edge :: rest) =
      some (.danglingEdge edge.source edge.target missing) := by
  rw [edgeFault, danglingEnd_eq_some_iff.2 dangles]

theorem edgeFault_of_ends {rest : List Edge} (ends : edge.source ∈ ids ∧ edge.target ∈ ids) :
    edgeFault ids seen (edge :: rest) =
      if edge.exit ∈ seen then
        some (.duplicateHandle edge.source (edge.handle.getD "<none>"))
      else edgeFault ids (edge.exit :: seen) rest := by
  rw [edgeFault, danglingEnd_eq_none_iff.2 ends]
  rfl

theorem dangles_or_ends (ids : List String) (edge : Edge) :
    (∃ missing, Dangles ids edge missing) ∨ edge.source ∈ ids ∧ edge.target ∈ ids := by
  cases found : danglingEnd ids edge with
  | some missing => exact .inl ⟨missing, danglingEnd_eq_some_iff.1 found⟩
  | none => exact .inr (danglingEnd_eq_none_iff.1 found)

theorem edgeFault_eq_none_iff (distinct : seen.Nodup) :
    edgeFault ids seen edges = none ↔
      (∀ edge ∈ edges, edge.source ∈ ids ∧ edge.target ∈ ids) ∧
        (seen ++ edges.map Edge.exit).Nodup := by
  induction edges generalizing seen with
  | nil => simpa [edgeFault] using distinct
  | cons edge rest ih =>
    rw [List.map_cons, List.nodup_middle, List.forall_mem_cons]
    obtain ⟨missing, dangles⟩ | ends := dangles_or_ends ids edge
    · simp [edgeFault_of_dangles dangles, dangles.not_ends]
    · rw [edgeFault_of_ends ends]
      by_cases taken : edge.exit ∈ seen
      · simp [taken]
      · rw [if_neg taken, ih (List.nodup_cons.2 ⟨taken, distinct⟩), List.cons_append]
        simp [ends]

theorem edgeFault_eq_some_iff (distinct : seen.Nodup) :
    edgeFault ids seen edges = some fault ↔
      ∃ edge before after, edges = before ++ edge :: after ∧
        ((∀ edge ∈ before, edge.source ∈ ids ∧ edge.target ∈ ids) ∧
          (seen ++ before.map Edge.exit).Nodup) ∧
        Spoils ids (seen ++ before.map Edge.exit) edge fault := by
  induction edges generalizing seen with
  | nil => simp [edgeFault]
  | cons edge rest ih =>
    simp only [exists_split_cons, exists_or, exists_eq_left', List.map_nil, List.append_nil,
      List.map_cons, List.nodup_middle, List.forall_mem_cons, List.not_mem_nil, false_implies,
      implies_true, true_and, distinct]
    obtain ⟨missing, dangles⟩ | ends := dangles_or_ends ids edge
    · rw [edgeFault_of_dangles dangles, spoils_of_dangles dangles]
      simp [dangles.not_ends, eq_comm]
    · rw [edgeFault_of_ends ends, spoils_of_ends ends]
      by_cases taken : edge.exit ∈ seen
      · have repeated (before : List Edge) :
            ¬ (edge.exit :: (seen ++ before.map Edge.exit)).Nodup := by simp [taken]
        simp [taken, repeated, eq_comm]
      · rw [if_neg taken, ih (List.nodup_cons.2 ⟨taken, distinct⟩)]
        simp [taken, ends, spoils_middle]

end Edges

variable {nodes : List Node} {edges : List Edge} {fault : GraphFault}

theorem joined_iff {ids : List String} :
    Joined ids edges ↔ (∀ edge ∈ edges, edge.source ∈ ids ∧ edge.target ∈ ids) ∧
      (edges.map Edge.exit).Nodup :=
  ⟨fun h => ⟨h.ends, h.exits⟩, fun h => ⟨h.1, h.2⟩⟩

theorem fault?_eq_none_iff : fault? nodes edges = none ↔ WellFormed nodes edges := by
  have distinct : firstRepeat [] (nodes.map Node.id) = none ↔ (nodes.map Node.id).Nodup := by
    rw [firstRepeat_eq_none_iff List.nodup_nil, List.nil_append]
  have joined : edgeFault (nodes.map Node.id) [] edges = none ↔ Joined (nodes.map Node.id) edges := by
    rw [edgeFault_eq_none_iff List.nodup_nil, List.nil_append, ← joined_iff]
  constructor
  · intro sound
    unfold fault? at sound
    dsimp only at sound
    split at sound
    · contradiction
    · rename_i apart
      split at sound
      · contradiction
      · rename_i started
        exact ⟨distinct.1 apart, startFault_eq_none_iff.1 started, joined.1 sound⟩
  · intro wellFormed
    unfold fault?
    dsimp only
    rw [distinct.2 wellFormed.distinct, startFault_eq_none_iff.2 wellFormed.starts]
    exact joined.2 wellFormed.joined

theorem not_duplicateNode (distinct : (nodes.map Node.id).Nodup) (id : String) :
    ¬ Names nodes edges (.duplicateNode id) := by
  intro names
  obtain ⟨before, after, split, -, member⟩ := names
  rw [split, List.nodup_middle, List.nodup_cons] at distinct
  exact distinct.1 (List.mem_append_left _ member)

theorem names_of_repeat {id : String} (repeats : firstRepeat [] (nodes.map Node.id) = some id) :
    Names nodes edges fault ↔ fault = .duplicateNode id := by
  have apart : ¬ (nodes.map Node.id).Nodup := by
    rw [← List.nil_append (nodes.map Node.id), ← firstRepeat_eq_none_iff List.nodup_nil, repeats]
    simp
  cases fault with
  | duplicateNode other =>
    have first : firstRepeat [] (nodes.map Node.id) = some other ↔ _ :=
      firstRepeat_eq_some_iff List.nodup_nil
    rw [repeats, Option.some.injEq] at first
    simpa [Names, eq_comm] using first.symm
  | _ => simp [Names, apart]

theorem names_of_starts {other : GraphFault} (distinct : (nodes.map Node.id).Nodup)
    (started : startFault nodes = some other) : Names nodes edges fault ↔ fault = other := by
  have judged := startFault_eq_some_iff.1 started
  cases fault with
  | duplicateNode id =>
    have other_ : other ≠ .duplicateNode id := by
      rintro rfl
      simp at judged
    simp [not_duplicateNode distinct, other_.symm]
  | missingStart =>
    obtain ⟨rfl, zero⟩ | ⟨count, rfl, counted, several⟩ := judged
    · simp [Names, distinct, zero]
    · have some_ : nodes.countP (·.kind.isStart) ≠ 0 := by omega
      simp [Names, some_]
  | multipleStart count =>
    obtain ⟨rfl, zero⟩ | ⟨counted, rfl, rfl, several⟩ := judged
    · have few : ¬ (nodes.countP (·.kind.isStart) = count ∧ 2 ≤ count) := by omega
      simp [Names, few]
    · simp only [Names, distinct, true_and, GraphFault.multipleStart.injEq]
      exact ⟨fun h => h.1.symm, fun h => ⟨h.symm, h ▸ several⟩⟩
  | _ =>
    have faulty : nodes.countP (·.kind.isStart) ≠ 1 := by
      intro one
      rw [startFault_eq_none_iff.2 one] at started
      contradiction
    obtain ⟨rfl, -⟩ | ⟨count, rfl, -⟩ := judged <;> simp [Names, faulty]

theorem names_of_edges (distinct : (nodes.map Node.id).Nodup)
    (starts : nodes.countP (·.kind.isStart) = 1) :
    Names nodes edges fault ↔ ∃ edge before after, edges = before ++ edge :: after ∧
      Joined (nodes.map Node.id) before ∧
      Spoils (nodes.map Node.id) (before.map Edge.exit) edge fault := by
  cases fault with
  | duplicateNode id => simp [not_duplicateNode distinct, Spoils]
  | missingStart => simp [Names, Spoils, starts]
  | multipleStart count =>
    have one : ¬ (nodes.countP (·.kind.isStart) = count ∧ 2 ≤ count) := by omega
    simp [Names, Spoils, one]
  | _ => simp [Names, distinct, starts]

theorem fault?_eq_some_iff : fault? nodes edges = some fault ↔ Names nodes edges fault := by
  unfold fault?
  dsimp only
  split
  · rename_i id repeats
    rw [names_of_repeat repeats, Option.some.injEq, eq_comm]
  · rename_i apart
    rw [firstRepeat_eq_none_iff List.nodup_nil, List.nil_append] at apart
    split
    · rename_i other started
      rw [names_of_starts apart started, Option.some.injEq, eq_comm]
    · rename_i started
      rw [startFault_eq_none_iff] at started
      rw [edgeFault_eq_some_iff List.nodup_nil, names_of_edges apart started]
      simp only [List.nil_append, joined_iff]

end Graph
end Switchboard
