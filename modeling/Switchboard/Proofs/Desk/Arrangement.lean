import Switchboard.Proofs.Desk.Service
import Switchboard.Proofs.Flow.Arrangement

/-! A desk and the order in which its flow lists nodes and edges. Whatever is done at the desk is done alike on
graphs that a run cannot tell apart, and so the whole course of a desk is the same in every order. -/
namespace Switchboard

def Happening.executed (here : Surroundings) (d : Desk) (happening : Happening) : List String :=
  match happening.launch? here d with
  | some l => (stateAfter (l.impulse.program here) l.begins).path
  | none => []

/-- What comes of one thing after another, each in a world of its own: the nodes that are executed and the desk
afterwards. -/
def Desk.course (g : Graph) : List (Surroundings × Happening) → Desk → List (List String × Desk)
  | [], _ => []
  | (here, happening) :: rest, d =>
    let e := happening.perform (here.on g) d
    (happening.executed (here.on g) d, e) :: course g rest e

section Instead

variable {here : Surroundings} {graph : Graph} {hours : Nat → String → Option ScheduleGroup}
  (same : here.Indistinct graph hours)

include same

namespace Desk

theorem runFrom_instead (asked : Nat) (id : SessionId) (bag : Variables) (node : String) :
    runFrom (here.instead graph hours) asked id bag node = runFrom here asked id bag node := by
  rw [runFrom, Walk.runFrom_instead same, runFrom]

theorem start_instead (fresh : SessionId) (customer : String) :
    start (here.instead graph hours) fresh customer = start here fresh customer := by
  have greets (session : Session) : greet (here.instead graph hours) session = greet here session := by
    rw [greet, runFrom_instead same, show (here.instead graph hours).graph.start = _ from same.alike.start]
    rfl
  simp only [start, greets]
  rfl

theorem reply_instead (id : SessionId) (said : Reply) :
    reply (here.instead graph hours) id said = reply here id said := by
  simp only [reply, Walk.receive_instead same]

theorem continueAfter_instead (c : Continuation) :
    continueAfter (here.instead graph hours) c = continueAfter here c := by
  unfold continueAfter
  simp only [runFrom_instead same]
  rfl

end Desk

theorem Request.perform_instead (request : Request) :
    request.perform (here.instead graph hours) = request.perform here := by
  cases request with
  | start fresh customer => simp only [perform, Desk.start_instead same]
  | reply id said => simp only [perform, Desk.reply_instead same]
  -- No flow is set going.
  | pickup | operatorReply | transfer | close => rfl

namespace Happening

theorem perform_instead (happening : Happening) (d : Desk) :
    happening.perform (here.instead graph hours) d = happening.perform here d := by
  cases happening with
  | request made => exact congrArg (Desk.after · d) (made.perform_instead same)
  | fire timer => simp only [perform, Desk.fire, Desk.continueAfter_instead same]
  | pass | shutdown => rfl

theorem launch_instead (happening : Happening) (d : Desk) :
    happening.launch? (here.instead graph hours) d = happening.launch? here d := by
  have starts : (here.instead graph hours).graph.start = here.graph.start := same.alike.start
  cases happening with
  | request made =>
    cases made with
    | start fresh customer =>
      simp only [launch?, starts]
      rfl
    | reply id said =>
      simp only [launch?, Walk.awaited_instead same]
      rfl
    | _ => rfl
  | _ => rfl

theorem executed_instead (happening : Happening) (d : Desk) :
    happening.executed (here.instead graph hours) d = happening.executed here d := by
  have programs (impulse : Impulse) : impulse.program (here.instead graph hours) = impulse.program here := by
    cases impulse with
    | enter node => exact Walk.runFrom_instead same node
    | answer node reply => exact Walk.resumeFrom_instead same node.id reply
  simp only [executed, launch_instead same, programs]

end Happening

end Instead

section Alike

variable {g h : Graph} (alike : g.Alike h)

include alike

theorem Graph.Alike.indistinct (here : Surroundings) : (here.on g).Indistinct h here.services.schedule? :=
  ⟨alike, fun _ => rfl⟩

theorem Desk.course_alike (history : List (Surroundings × Happening)) (d : Desk) :
    course h history d = course g history d := by
  induction history generalizing d with
  | nil => rfl
  | cons first rest ih =>
    obtain ⟨here, happening⟩ := first
    have performed : happening.perform (here.on h) d = happening.perform (here.on g) d :=
      happening.perform_instead (alike.indistinct here) d
    have executed : happening.executed (here.on h) d = happening.executed (here.on g) d :=
      happening.executed_instead (alike.indistinct here) d
    simp only [course, performed, executed, ih]

end Alike

instance {nodes : List Node} {edges : List Edge} : Decidable (Graph.HasLoneExits nodes edges) :=
  inferInstanceAs (Decidable (∀ node ∈ nodes, node.kind.branches = false →
    (∃ edge ∈ edges, edge.source = node.id ∧ edge.handle = none) ∨ (edges.filter (·.source == node.id)).length ≤ 1))

/-- Lists are refused or taken in every order alike, and with the same start. Where nodes that do not branch have
their exit to themselves, every request is answered alike and the whole course of a desk is the same, with the
nodes that are executed and all that is left at the desk. -/
theorem Graph.same_in_every_order (id name : String) {nodes nodes' : List Node} {edges edges' : List Edge}
    (also : nodes.Perm nodes') (listed : edges.Perm edges') :
    (∀ fault, build id name nodes edges = .error fault → ∃ fault', build id name nodes' edges' = .error fault') ∧
      ∀ g, build id name nodes edges = .ok g → ∃ h, build id name nodes' edges' = .ok h ∧ h.start = g.start ∧
        (HasLoneExits nodes edges →
          (∀ (here : Surroundings) (request : Request),
            request.perform (here.on h) = request.perform (here.on g)) ∧
          ∀ history d, Desk.course h history d = Desk.course g history d) := by
  refine ⟨fun fault => build_error_perm also listed, fun g built => ?_⟩
  have wellFormed : WellFormed nodes edges := (exists_build_iff id name).1 ⟨g, built⟩
  obtain ⟨h, built'⟩ := (exists_build_iff id name).2 (wellFormed.perm also listed)
  obtain ⟨-, -, rfl, rfl⟩ := build_eq_ok_iff.1 built
  obtain ⟨-, -, rfl, rfl⟩ := build_eq_ok_iff.1 built'
  refine ⟨h, built', start_perm also, fun lone => ?_⟩
  have alike : g.Alike h := .of_perm also listed lone
  exact ⟨fun here request => request.perform_instead (alike.indistinct here), Desk.course_alike alike⟩

def Desk.visitAtReception : List (Surroundings × Happening) :=
  [(.reception, .request (.start ⟨"chat_1"⟩ "ana")), (.reception, answering "Ana")]

/-- The reception listed from the last to the first. -/
theorem Graph.reception_in_reverse :
    (Graph.reception.nodes.Perm Graph.reception.nodes.reverse ∧ Graph.reception.edges.Perm Graph.reception.edges.reverse ∧
      HasLoneExits Graph.reception.nodes Graph.reception.edges) ∧
    (∃ h, build "reception" "Reception" Graph.reception.nodes.reverse Graph.reception.edges.reverse = .ok h ∧
      Desk.course h Desk.visitAtReception .empty = Desk.course .reception Desk.visitAtReception .empty) ∧
    (Desk.course .reception Desk.visitAtReception .empty).map Prod.fst =
      [["start", "ask"], ["greet", "known", "counter"]] := by
  have also := (List.reverse_perm Graph.reception.nodes).symm
  have listed := (List.reverse_perm Graph.reception.edges).symm
  have lone : HasLoneExits Graph.reception.nodes Graph.reception.edges := by decide
  refine ⟨⟨also, listed, lone⟩, ?_, by decide +kernel⟩
  obtain ⟨-, taken⟩ := same_in_every_order "reception" "Reception" also listed
  obtain ⟨h, built, -, alike⟩ := taken .reception (build_eq_ok_iff.2 ⟨rfl, rfl, rfl, rfl⟩)
  exact ⟨h, built, (alike lone).2 _ _⟩

end Switchboard
