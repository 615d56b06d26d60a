import Switchboard.Chat.Visit
import Switchboard.Failure
import Switchboard.Flow.Graph
import Switchboard.Flow.Interpolation
import Switchboard.Flow.Services
import Switchboard.Json.Path
import Switchboard.Json.Reader
import Switchboard.Settings.Basic
import Switchboard.Text.Replace

/-! Walking a graph for one session. A run holds the session with its journal, the variables in hand,
how many questions it has asked and which nodes it has executed. A failure leaves behind what was done
before it. -/
namespace Switchboard

structure Run where
  visit : Visit
  bag : Variables
  /-- Questions asked so far. -/
  asked : Nat
  /-- Addresses requested so far. -/
  requests : List String
  /-- Nodes executed so far. -/
  path : List String

def Run.start (session : Session) (bag : Variables) : Run :=
  ⟨.start session, bag, 0, [], []⟩

/-- A run for which so many questions have been asked before it begins. -/
def Run.startAfter (asked : Nat) (session : Session) (bag : Variables) : Run :=
  { Run.start session bag with asked }

/-- What a walk is given: the graph, the desk's words and limits, and the world. -/
structure Surroundings where
  graph : Graph
  wording : Wording
  engine : EngineSettings
  services : Services

inductive Outcome
  /-- The budget ran out before this node. -/
  | continuedTo (node : String)
  | paused (node : String)
  | queued (queue : String)
  | terminated
  | delayed (node next : String) (seconds : Nat)
  /-- There is no way on from this node. -/
  | stalled (node : String)
deriving DecidableEq, Repr

structure Reply where
  text : String
  button : Option String
deriving DecidableEq, Repr

inductive Step
  | next (node : String)
  | halt (outcome : Outcome)
deriving DecidableEq, Repr

abbrev Walk := EStateM Failure Run

namespace Walk

def ask (question : Nat → α) : Walk α := fun r =>
  .ok (question r.asked) { r with asked := r.asked + 1 }

def act (act : Visit.Act α) : Walk α := fun r =>
  match act r.visit with
  | .ok a v => .ok a { r with visit := v }
  | .error refusal v => .error (.notAllowed refusal) { r with visit := v }

def fill (text : String) : Walk String := fun r => .ok (r.bag.interpolate text) r

variable (here : Surroundings)

def post (post : Post) : Walk Unit := do
  let now ← ask here.services.now
  let _ ← act (Visit.append post now)

/-- Blank text is not said. -/
def say (text : String) : Walk Unit :=
  if Text.isBlankText text then pure () else post here (.bot text)

def sayFilled (text : String) : Walk Unit := do say here (← fill text)

def patch (patch : Variables) : Walk Unit := do
  let now ← ask here.services.now
  let merged ← act (Visit.mergeVariables patch now)
  modify fun r => { r with bag := merged }

/-- The name that editors give to a new start node is no greeting. -/
def isPlaceholder (text : String) : Bool :=
  let text := Text.trim text
  text == "" || text == "Início" || Text.sameIgnoringCase text "start"

def follow (node : String) : Step :=
  match here.graph.next node with
  | some next => .next next
  | none => .halt (.stalled node)

def takeBranch (node handle : String) : Step :=
  match here.graph.branch node handle with
  | some next => .next next
  | none => .halt (.stalled node)

/-- The first rule that holds and leads on decides; else the exit for everything else. -/
def branchOnRules (node : String) (rules : List Rule) (bag : Variables) : Step :=
  let taken := rules.findSome? fun rule =>
    if rule.comparison.holds ((bag.get? rule.key).getD "") rule.value then
      here.graph.branch node rule.id
    else none
  match taken with
  | some next => .next next
  | none => takeBranch here node elseHandle

/-- What the mappings take from a document; the last mapping of a variable counts. -/
def mapped (document : Json) (mappings : List Mapping) : Variables :=
  .ofList (mappings.filterMap fun mapping =>
    if mapping.key == "" then none
    else ((document.lookup mapping.path).bind Json.plainText).map fun text => (mapping.key, text))

/-- What a request sets, or `none` when it fails. A body that nobody looks into may be anything. -/
def answerOf (response : Option Response) (mappings : List Mapping) : Option Variables :=
  match response with
  | none => none
  | some response =>
    if !response.isSuccess then none
    else if mappings.isEmpty then some ∅
    else (Json.ofWholeText response.body).map fun document => mapped document mappings

def request (url : String) (mappings : List Mapping) : Walk Unit := do
  let url ← fill url
  let response ← ask fun n => here.services.fetch n url
  modify fun r => { r with requests := r.requests ++ [url] }
  match answerOf response mappings with
  | some answer => if answer.entries.isEmpty then pure () else patch here answer
  | none => say here here.wording.httpFailure

def runScript (source : String) : Walk Unit := do
  let bag := (← get).bag
  match ← ask fun n => here.services.evaluate n bag source with
  | some bag => patch here bag
  | none => say here here.wording.scriptFailure

def isOpenNow (schedule : String) : Walk Bool := do
  match ← ask fun n => here.services.schedule? n schedule with
  | some group => return group.isOpen (localTime (← ask here.services.now) here.engine.utcOffsetHours)
  | none => return false

def showTemplate (node template : String) : Walk Step := do
  match ← ask fun n => here.services.template? n template with
  | some template =>
    post here (.offer (← fill template.text) template.buttons)
    return .halt (.paused node)
  | none => return .halt (.stalled node)

def enterQueue (queue : String) : Walk Step := do
  say here (Text.replace Wording.queueMarker queue here.wording.queueTransfer)
  if (← ask fun n => here.services.hasOperator n queue).getD false then
    let now ← ask here.services.now
    act (Visit.transfer (some queue) none now)
    return .halt (.queued queue)
  else
    say here (Text.replace Wording.queueMarker queue here.wording.queueUnavailable)
    return .halt .terminated

def sayFarewell (text : Option String) : Walk Unit :=
  match text.filter (! Text.isBlankText ·) with
  | some text => sayFilled here text
  | none => say here here.wording.closing

def perform (node : String) : Kind → Walk Step
  | .start text => do
    match text.filter (! isPlaceholder ·) with
    | some text => sayFilled here text
    | none => pure ()
    return follow here node
  | .message text => do
    sayFilled here text
    return follow here node
  | .input text _ => do
    sayFilled here text
    return .halt (.paused node)
  | .setValue key value => do
    let value ← fill value
    patch here (.ofList [(key, value)])
    return follow here node
  | .condition rules => do return branchOnRules here node rules (← get).bag
  | .anchor _ => pure (follow here node)
  | .goto target =>
    pure (if (here.graph.node? target).isSome then .next target else .halt (.stalled node))
  | .request url mappings => do
    request here url mappings
    return follow here node
  | .script source => do
    runScript here source
    return follow here node
  | .delay seconds =>
    pure (match here.graph.next node with
      | some next => .halt (.delayed node next seconds)
      | none => .halt (.stalled node))
  | .schedule id => do
    return takeBranch here node (if ← isOpenNow here id then insideHandle else outsideHandle)
  | .template id => showTemplate here node id
  | .queue name => enterQueue here name
  | .ending text => do
    sayFarewell here text
    return .halt .terminated
  | .closing text => do
    sayFarewell here text
    let now ← ask here.services.now
    let _ ← act (Visit.close .flow here.wording.closed now)
    return .halt .terminated

def execute (node : Node) : Walk Step := do
  modify fun r => { r with path := r.path ++ [node.id] }
  perform here node.id node.kind

def steps : Nat → String → Walk Outcome
  | 0, node => pure (.continuedTo node)
  | budget + 1, id =>
    match here.graph.node? id with
    | none => pure (.stalled id)
    | some node => do
      match ← execute here node with
      | .next next => steps budget next
      | .halt outcome => pure outcome

/-- One round: from a node until the flow waits, ends or stalls, or the budget is spent. -/
def advance (budget : Nat) (node : String) : Walk Outcome :=
  if (here.graph.node? node).isSome then steps here budget node
  else throw (.nodeNotFound node)

/-- The button that a reply presses, or the first whose label it writes out. -/
def chosenButton (buttons : List Button) (reply : Reply) : Option String :=
  match reply.button with
  | some id => (buttons.find? (·.id == id)).map Button.id
  | none =>
    let typed := Text.trim reply.text
    (buttons.find? fun button =>
      typed != "" && Text.sameIgnoringCase (Text.trim button.label) typed).map Button.id

/-- The text of a reply to a question; a bare button press answers with its identifier. -/
def answer (reply : Reply) : String :=
  if reply.text == "" then reply.button.getD "" else reply.text

/-- Goes on from a node that waits for the customer. A reply that selects no button keeps the flow
waiting. -/
def resume (budget : Nat) (pending : String) (reply : Reply) : Walk Outcome :=
  match here.graph.node? pending with
  | none => throw (.nodeNotFound pending)
  | some node =>
    let leave (exit : Option String) : Walk Outcome :=
      match exit with
      | some next => advance here budget next
      | none => pure (.stalled node.id)
    match node.kind with
    | .input _ key => do
      patch here (.ofList [(key, answer reply)])
      leave (here.graph.next node.id)
    | .template id => do
      let template ← ask fun n => here.services.template? n id
      match template.bind (chosenButton ·.buttons reply) with
      | some button => leave (here.graph.branch node.id button)
      | none => pure (.paused node.id)
    | _ => pure (.stalled node.id)

/-- Further rounds while the budget runs out; a flow that still goes on after them has stalled. -/
def proceed (budget : Nat) : Nat → Outcome → Walk Outcome
  | rounds + 1, .continuedTo node => do proceed budget rounds (← advance here budget node)
  | 0, .continuedTo node => pure (.stalled node)
  | _, outcome => pure outcome

end Walk
end Switchboard
