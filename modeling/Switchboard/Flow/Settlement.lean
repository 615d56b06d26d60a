import Switchboard.Flow.Walk

/-! What a run leaves behind. Once the flow stops, the session is told where it waits, and exactly one
event tells the observers; nothing of the run comes after that event. -/
namespace Switchboard.Walk

/-- A session that the flow has closed waits nowhere already. -/
def clearPending : Walk Unit := fun r =>
  match Visit.setPending none r.visit with
  | .ok () v => .ok () { r with visit := v }
  | .error .closed v => .ok () { r with visit := v }
  | .error refusal v => .error (.notAllowed refusal) { r with visit := v }

def publish (event : SessionId → Event) : Walk Unit :=
  modify fun r => { r with visit := r.visit.publish (event r.visit.session.id) }

def suspend (node : String) : Walk Unit := do
  act (Visit.setPending (some node))
  publish fun id => .flowPaused id node

def conclude : Outcome → Walk Unit
  | .paused node | .delayed node _ _ => suspend node
  | .stalled node => do
    clearPending
    publish fun id => .flowStalled id node
  | .queued _ | .terminated => do
    clearPending
    publish .flowFinished
  | .continuedTo _ => pure ()

variable (here : Surroundings)

/-- All rounds after the first, and the end of the run. -/
def settle (outcome : Outcome) : Walk Outcome := do
  let outcome ← proceed here here.engine.budget (here.engine.rounds - 1) outcome
  conclude outcome
  return outcome

def runFrom (node : String) : Walk Outcome := do
  settle here (← advance here here.engine.budget node)

def resumeFrom (pending : String) (reply : Reply) : Walk Outcome := do
  settle here (← resume here here.engine.budget pending reply)

def awaited (graph : Graph) (session : Session) : Option Node :=
  (session.pending.bind graph.node?).filter fun node =>
    session.status == .bot && node.kind.awaitsReply

/-- What is logged for a reply. A bare button press is logged as the button's label where the session
waits at a template that offers it. -/
def loggedText (awaited : Option Node) (reply : Reply) : Walk String :=
  if reply.text != "" then pure reply.text
  else match reply.button, awaited.map Node.kind with
    | none, _ => pure ""
    | some button, some (.template id) => do
      let template ← ask fun n => here.services.template? n id
      let offered := template.bind fun template => template.buttons.find? (·.id == button)
      return (offered.map Button.label).getD button
    | some button, _ => pure button

def receive (reply : Reply) : Walk (Option Outcome) := do
  let awaited := awaited here.graph (← get).visit.session
  post here (.user (← loggedText here awaited reply))
  match awaited with
  | some node => return some (← resumeFrom here node.id reply)
  | none => return none

end Switchboard.Walk
