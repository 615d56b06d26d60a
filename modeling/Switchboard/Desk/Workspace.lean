import Switchboard.Chat.Store

/-! What the people behind a desk see of its sessions. -/
namespace Switchboard

namespace Session

def isServedBy (s : Session) (operator : Operator) : Bool :=
  s.status == .opened && s.operator == some operator.id

/-- A reserved session is offered to nobody else, and any other one to those who serve its queue and
to supervisors. -/
def isOfferedTo (s : Session) (operator : Operator) : Bool :=
  s.status == .waiting && s.operator.isNone &&
    match s.reservedFor with
    | some reserved => reserved == operator.id
    | none => operator.role.isSupervisor || s.queue.any operator.serves

end Session

structure Inbox where
  active : List Session
  waiting : List Session
deriving DecidableEq

namespace Store

def inbox (store : Store) (operator : Operator) : Inbox :=
  ⟨store.sessions.filter (·.isServedBy operator), store.sessions.filter (·.isOfferedTo operator)⟩

def ongoing (store : Store) : List Session := store.sessions.filter (! ·.isClosed)

def history (store : Store) (customer : String) : List Session :=
  store.sessions.filter fun s => s.isClosed && s.customer == customer

end Store
end Switchboard
