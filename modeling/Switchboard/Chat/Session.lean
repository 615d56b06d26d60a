import Switchboard.Dict
import Switchboard.Chat.Message
import Switchboard.Chat.Operator

/-! One customer's conversation. The flow drives it first, a transfer queues it, an operator picks
it up, and closing ends it. An operation that is refused throws; the state it had reached by then
is what the caller finds, so that nothing is changed before a guard is a law and not a notation. -/
namespace Switchboard

abbrev Variables := Dict String

structure SessionId where
  text : String
deriving DecidableEq, Repr, Inhabited

def SessionId.ofNumber (bits : Nat) : SessionId :=
  let digits := Nat.toDigits 16 (bits % Nat.pow 2 128)
  ⟨"chat_" ++ String.ofList (List.replicate (32 - digits.length) '0' ++ digits)⟩

inductive Status
  /-- The flow answers. -/
  | bot
  /-- Queued for an operator. -/
  | waiting
  /-- An operator answers. -/
  | opened
  | closed
deriving DecidableEq, Repr, Inhabited

def Status.name : Status → String
  | .bot => "bot" | .waiting => "waiting" | .opened => "open" | .closed => "closed"

inductive Action
  | reply | pickup | close
deriving DecidableEq, Repr

def Action.name : Action → String
  | .reply => "reply" | .pickup => "pickup" | .close => "close"

inductive Closer
  | operator (id : String)
  | supervisor (id : String)
  | flow
deriving DecidableEq, Repr

inductive NotAllowed
  | closed
  | alreadyAssigned (operator : String)
  | wrongStatus (action : Action) (status : Status)
  | notOwner (operator : String)
  | reserved (operator : String)
deriving DecidableEq, Repr

def NotAllowed.message : NotAllowed → String
  | .closed => "session is closed"
  | .alreadyAssigned operator => "session already assigned to " ++ operator
  | .wrongStatus action status => "cannot " ++ action.name ++ " while session is " ++ status.name
  | .notOwner operator => "operator " ++ operator ++ " does not own this session"
  | .reserved operator => "session is reserved for operator " ++ operator

structure Session where
  id : SessionId
  customer : String
  status : Status
  queue : Option String
  operator : Option String
  operatorName : Option String
  /-- The only operator who may pick the session up. -/
  reservedFor : Option String
  bag : Variables
  messages : List Message
  /-- The node at which the flow waits. -/
  pending : Option String
  createdAt : Instant
  updatedAt : Instant
deriving DecidableEq

namespace Session

def new (id : SessionId) (customer : String) (now : Instant) : Session :=
  { id, customer, status := .bot, queue := none, operator := none, operatorName := none
    reservedFor := none, bag := ∅, messages := [], pending := none
    createdAt := now, updatedAt := now }

def isClosed (s : Session) : Bool := s.status == .closed

abbrev Change := EStateM NotAllowed Session

/-- Operators speak only in sessions they serve. -/
def appendRefusal (s : Session) (sender : Sender) : Option NotAllowed :=
  if s.isClosed then some .closed
  else if sender == .agent && s.status != .opened then some (.wrongStatus .reply s.status)
  else none

def append (post : Post) (now : Instant) : Change Message := fun s =>
  match s.appendRefusal post.sender with
  | some refusal => .error refusal s
  | none =>
    let message := post.stamp now
    .ok message { s with messages := s.messages ++ [message], updatedAt := now }

/-- Ownership is checked before the status. -/
def appendFromOperator (operator text : String) (now : Instant) : Change Message := fun s =>
  if s.status == .opened && s.operator != some operator then .error (.notOwner operator) s
  else append (.agent text) now s

def mergeVariables (patch : Variables) (now : Instant) : Change Variables := fun s =>
  if s.isClosed then .error .closed s
  else
    let merged := s.bag.merge patch
    .ok merged { s with bag := merged, updatedAt := now }

/-- Waiting is not activity: the time of the last update stays. -/
def setPending (node : Option String) : Change Unit := fun s =>
  if s.isClosed then .error .closed s else .ok () { s with pending := node }

/-- Queues the session again from any status but closed. The queue stays when none is named. -/
def transfer (queue operator : Option String) (now : Instant) : Change Unit := fun s =>
  if s.isClosed then .error .closed s
  else .ok ()
    { s with
      queue := queue.or s.queue, operator := none, operatorName := none, reservedFor := operator
      pending := none, status := .waiting, updatedAt := now }

def pickupRefusal (s : Session) (operator : String) : Option NotAllowed :=
  if s.isClosed then some .closed
  else match s.operator with
    | some current => some (.alreadyAssigned current)
    | none =>
      if s.status != .waiting then some (.wrongStatus .pickup s.status)
      else match s.reservedFor with
        | some reserved => if reserved != operator then some (.reserved reserved) else none
        | none => none

def pickup (operator : Operator) (announcement : String) (now : Instant) : Change Message := fun s =>
  match s.pickupRefusal operator.id with
  | some refusal => .error refusal s
  | none =>
    append (.system announcement) now
      { s with
        operator := some operator.id, operatorName := some operator.name, reservedFor := none
        status := .opened }

def isHandedOver (s : Session) : Bool := s.status == .waiting || s.status == .opened

def closeRefusal (s : Session) (closer : Closer) : Option NotAllowed :=
  if s.isClosed then some .closed
  else match closer with
    | .flow => if s.status != .bot then some (.wrongStatus .close s.status) else none
    | .supervisor _ => if s.isHandedOver then none else some (.wrongStatus .close s.status)
    | .operator id =>
      if !s.isHandedOver then some (.wrongStatus .close s.status)
      else if s.operator != some id then some (.notOwner id)
      else none

def close (closer : Closer) (farewell : String) (now : Instant) : Change Message := fun s =>
  match s.closeRefusal closer with
  | some refusal => .error refusal s
  | none =>
    match append (.system farewell) now s with
    | .error refusal s => .error refusal s
    | .ok message s => .ok message { s with status := .closed, pending := none }

end Session
end Switchboard
