import Mathlib.Init
import Switchboard.Chat.Store

/-! How sessions are kept. A table holds them by identifier and lists them in an order of its own that
means nothing; beside it stand the identifiers in the order of creation. A store is what can be seen of
a registry. -/
namespace Switchboard

instance : Hashable SessionId := ⟨fun id => hash id.text⟩

structure Registry where
  byId : Std.HashMap SessionId Session
  /-- Oldest first. -/
  order : List SessionId
  journal : List Event

namespace Registry

def empty : Registry := ⟨∅, [], []⟩

def tabled (r : Registry) : List Session := r.byId.toList.map Prod.snd

def list (r : Registry) : List Session := r.order.filterMap (r.byId[·]?)

def add (r : Registry) (s : Session) : Registry :=
  ⟨r.byId.insert s.id s, r.order ++ [s.id], r.journal ++ [.sessionCreated s.id s.customer]⟩

/-- The customer's open session, the first one in a listing of the table, or a new one; and whether it
is new. -/
def create (listing : List Session) (fresh : SessionId) (customer : String) (now : Instant)
    (r : Registry) : (Session × Bool) × Registry :=
  match listing.find? fun s => s.customer == customer && !s.isClosed with
  | some session => ((session, false), r)
  | none =>
    let session := Session.new fresh customer now
    ((session, true), r.add session)

def record (r : Registry) (id : SessionId) (v : Visit) : Registry :=
  { r with byId := r.byId.insert id v.session, journal := r.journal ++ v.journal }

abbrev Op := EStateM Failure Registry

def visit (id : SessionId) (act : Visit.Act α) : Op α := fun r =>
  match r.byId[id]? with
  | none => .error (.sessionNotFound id.text) r
  | some session =>
    match act (.start session) with
    | .ok a v => .ok a (r.record id v)
    | .error refusal v => .error (.notAllowed refusal) (r.record id v)

end Registry
end Switchboard
