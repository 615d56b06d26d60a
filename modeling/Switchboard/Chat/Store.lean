import Switchboard.Chat.Visit
import Switchboard.Failure

/-! All sessions, in the order of their creation, with the journal of everything published about
them. A customer has at most one session that is not closed, since another is created only when
every earlier one is. -/
namespace Switchboard

structure Store where
  sessions : List Session
  journal : List Event
deriving DecidableEq

namespace Store

def empty : Store := ⟨[], []⟩

def find? (store : Store) (id : SessionId) : Option Session :=
  store.sessions.find? (·.id == id)

def put (sessions : List Session) (session : Session) : List Session :=
  sessions.map fun s => if s.id = session.id then session else s

def record (store : Store) (v : Visit) : Store :=
  ⟨put store.sessions v.session, store.journal ++ v.journal⟩

abbrev Op := EStateM Failure Store

def visit (id : SessionId) (act : Visit.Act α) : Op α := fun store =>
  match store.find? id with
  | none => .error (.sessionNotFound id.text) store
  | some session =>
    match act (.start session) with
    | .ok a v => .ok a (store.record v)
    | .error refusal v => .error (.notAllowed refusal) (store.record v)

def current? (store : Store) (customer : String) : Option Session :=
  store.sessions.find? fun s => s.customer == customer && !s.isClosed

/-- The customer's open session, or a new one under the identifier `fresh`; and whether it is new. -/
def create (fresh : SessionId) (customer : String) (now : Instant) (store : Store) :
    (Session × Bool) × Store :=
  match store.current? customer with
  | some session => ((session, false), store)
  | none =>
    let session := Session.new fresh customer now
    ((session, true),
      ⟨store.sessions ++ [session], store.journal ++ [.sessionCreated fresh customer]⟩)

end Store
end Switchboard
