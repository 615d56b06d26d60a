import Switchboard.Proofs.Desk.Service
import Switchboard.Proofs.Flow.Selection

/-! What becomes of a reply. It is logged as one message of the customer, before anything that the flow says
to it. Then the flow goes on if it has asked a question, or if it has offered buttons and the reply selects
one of them; otherwise the reply is put aside, and of the session only the log has changed. -/
namespace Switchboard

namespace Reply

/-- How often the world is asked for a template before the reply is logged. -/
def lookups (reply : Reply) (awaited : Option Kind) : Nat :=
  if reply.text = "" ∧ reply.button ≠ none then
    match awaited with
    | some (.template _) => 1
    | _ => 0
  else 0

/-- The reply is what a node waits for: a question takes any, and a template one that picks a button of it. -/
inductive Suits (here : Surroundings) (asked : Nat) (reply : Reply) (node : Node) : Prop
  | question {text key : String} : node.kind = .input text key → Suits here asked reply node
  | choice {id : String} {template : Template} {button : Button} : node.kind = .template id →
    here.services.template? asked id = some template → button ∈ template.buttons →
    reply.Picks button → Suits here asked reply node

end Reply

theorem Reply.Suits.awaitsReply {here : Surroundings} {asked : Nat} {reply : Reply} {node : Node}
    (suits : reply.Suits here asked node) : node.kind.awaitsReply := by
  cases suits with
  | question kind | choice kind =>
    rw [kind]
    rfl

/-- The flow goes on, and does not just wait where it waited. -/
def Launch.Resumes (here : Surroundings) (l : Launch) : Prop :=
  ∃ step r, l.impulse.setOff here l.begins = .ok step r ∧ ∀ node, step ≠ .halt (.paused node)

namespace Walk

variable {here : Surroundings} {s : Session} {node : Node} {reply : Reply} {r t u : Run}

def offered (here : Surroundings) (asked : Nat) (awaited : Option Kind) (name : String) : Option Button :=
  match awaited with
  | some (.template id) =>
    (here.services.template? asked id).bind fun template => template.buttons.find? (·.id == name)
  | _ => none

end Walk

namespace Impulse

variable {here : Surroundings} {node : Node} {reply : Reply} {r : Run}

end Impulse

namespace Desk

variable {g : Graph} {here : Surroundings} {d : Desk} {id : SessionId} {s : Session} {said : Reply}
  {node : Node} {r t : Run} {outcome : Outcome} {e : Desk}

def Resumes (here : Surroundings) (d : Desk) (id : SessionId) (said : Reply) : Prop :=
  ∃ l, (Happening.request (.reply id said)).launch? here d = some l ∧ l.Resumes here

end Desk
end Switchboard
