import Switchboard.Chat.Session

/-! What observers of a desk are told. -/
namespace Switchboard

inductive Event
  | sessionCreated (session : SessionId) (customer : String)
  | messageAppended (session : SessionId) (message : Message)
  | statusChanged (session : SessionId) (before after : Status)
  /-- The flow waits at a node for a reply or a delay. -/
  | flowPaused (session : SessionId) (node : String)
  /-- The flow found no way on from a node. -/
  | flowStalled (session : SessionId) (node : String)
  | flowFinished (session : SessionId)
deriving DecidableEq, Repr

def Event.session : Event → SessionId
  | sessionCreated session _ | messageAppended session _ | statusChanged session _ _
  | flowPaused session _ | flowStalled session _ | flowFinished session => session

/-- A feed of a stated capacity keeps a power of two of events. -/
def Event.feedSize (capacity : Nat) : Nat := capacity.nextPowerOfTwo

/-- The last `capacity` events of a feed, with the number of those that were lost before them. -/
def Event.retained (capacity : Nat) (events : List Event) : Nat × List Event :=
  let lost := events.length - capacity
  (lost, events.drop lost)

end Switchboard
