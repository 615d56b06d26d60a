import Switchboard.Chat.Store
import Switchboard.Flow.Settlement

/-! A desk: many sessions on one flow. The flow answers customers until it hands a session over, and
operators act on it from then on. Delays are data: a desk holds the continuations it owes, each with
the time at which it is due, and firing one is an operation like any other. -/
namespace Switchboard

structure Continuation where
  session : SessionId
  /-- The node of the delay. -/
  node : String
  next : String
deriving DecidableEq, Repr

structure Timer where
  continuation : Continuation
  /-- On the clock of the desk, in milliseconds. -/
  due : Nat
deriving DecidableEq, Repr

structure Desk where
  store : Store
  /-- In the order in which they were set. -/
  timers : List Timer
  /-- Milliseconds since the desk opened. -/
  elapsed : Nat
  /-- A desk that has shut down sets no timers. -/
  running : Bool
deriving DecidableEq

namespace Desk

def empty : Desk := ⟨.empty, [], 0, true⟩

abbrev Op := EStateM Failure Desk

def find (id : SessionId) : Op Session := fun d =>
  match d.store.find? id with
  | some session => .ok session d
  | none => .error (.sessionNotFound id.text) d

def visit (id : SessionId) (act : Visit.Act α) : Op α := fun d =>
  match Store.visit id act d.store with
  | .ok a store => .ok a { d with store }
  | .error failure store => .error failure { d with store }

def walk (asked : Nat) (id : SessionId) (bag : Variables) (walk : Walk α) : Op α := fun d =>
  match d.store.find? id with
  | none => .error (.sessionNotFound id.text) d
  | some session =>
    match walk (.startAfter asked session bag) with
    | .ok a r => .ok a { d with store := d.store.record r.visit }
    | .error failure r => .error failure { d with store := d.store.record r.visit }

def keepTime (id : SessionId) (outcome : Outcome) (d : Desk) : Desk :=
  match outcome with
  | .delayed node next seconds =>
    if d.running then
      { d with timers := d.timers ++ [⟨⟨id, node, next⟩, d.elapsed + 1000 * seconds⟩] }
    else d
  | _ => d

variable (here : Surroundings)

def runFrom (asked : Nat) (id : SessionId) (bag : Variables) (node : String) : Op Unit := do
  let outcome ← walk asked id bag (Walk.runFrom here node)
  modify (keepTime id outcome)

def register (fresh : SessionId) (customer : String) : Op (Session × Bool) := fun d =>
  let (result, store) := d.store.create fresh customer (here.services.now 0)
  .ok result { d with store }

/-- The flow of a new session. Registering it has taken the first reading of the clock. -/
def greet (session : Session) : Op Unit :=
  runFrom here 1 session.id session.bag here.graph.start

def start (fresh : SessionId) (customer : String) : Op Session := do
  let (session, isNew) ← register here fresh customer
  if isNew then
    greet here session
    find session.id
  else return session

/-- A reply is logged in every session that is not closed. -/
def reply (id : SessionId) (reply : Reply) : Op Session := do
  let session ← find id
  if session.isClosed then throw (.notAllowed .closed)
  match ← walk 0 id session.bag (Walk.receive here reply) with
  | some outcome => modify (keepTime id outcome)
  | none => pure ()
  find id

/-- Goes on after a delay, unless the session has moved on meanwhile. -/
def continueAfter (c : Continuation) : Op Unit := fun d =>
  match d.store.find? c.session with
  | none => .ok () d
  | some session =>
    if session.status = .bot ∧ session.pending = some c.node then
      runFrom here 0 c.session session.bag c.next d
    else .ok () d

/-- Nobody is there to be told of a failure. -/
def fire (timer : Timer) (d : Desk) : Desk :=
  match continueAfter here timer.continuation { d with timers := d.timers.erase timer } with
  | .ok () d => d
  | .error _ d => d

def pickup (id : SessionId) (operator : Operator) : Op Session := do
  let announcement := Text.replace Wording.operatorMarker operator.name here.wording.pickup
  let _ ← visit id (Visit.pickup operator announcement (here.services.now 0))
  find id

def operatorReply (id : SessionId) (operator : Operator) (text : String) : Op Message :=
  visit id (Visit.appendFromOperator operator.id text (here.services.now 0))

/-- Queues a session again, which is announced where the queue has a name. -/
def transferAct (queue operator : Option String) : Visit.Act Unit := do
  Visit.transfer queue operator (here.services.now 0)
  match (← get).session.queue with
  | some queue =>
    let notice := Text.replace Wording.queueMarker queue here.wording.transfer
    let _ ← Visit.append (.system notice) (here.services.now 1)
  | none => pure ()

def transfer (id : SessionId) (queue operator : Option String) : Op Session := do
  visit id (transferAct here queue operator)
  find id

/-- Agents close what they serve, and supervisors whatever is handed over. -/
def closer (operator : Operator) : Closer :=
  if operator.role.isSupervisor then .supervisor operator.id else .operator operator.id

def close (id : SessionId) (operator : Operator) : Op Session := do
  let _ ← visit id (Visit.close (closer operator) here.wording.closed (here.services.now 0))
  find id

def shutdown (d : Desk) : Desk := { d with timers := [], running := false }

end Desk
end Switchboard
