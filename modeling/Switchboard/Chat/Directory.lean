import Switchboard.Dict
import Switchboard.Chat.Operator

/-! Who answers, and who is there. Operators show themselves by heartbeats and count as online while
the last one is younger than a window. Times are milliseconds of a clock that never goes back. -/
namespace Switchboard

structure Presence where
  lastSeen : Dict Nat
  window : Nat
deriving DecidableEq

namespace Presence

def new (window : Nat) : Presence := ⟨∅, window⟩

def isFresh (p : Presence) (now seen : Nat) : Bool := now - seen < p.window

def touch (p : Presence) (operator : String) (now : Nat) : Presence :=
  { p with lastSeen := p.lastSeen.set operator now }

def isOnline (p : Presence) (operator : String) (now : Nat) : Bool :=
  (p.lastSeen.get? operator).any (p.isFresh now)

def sweep (p : Presence) (now : Nat) : Nat × Presence :=
  let kept := p.lastSeen.filter fun _ seen => p.isFresh now seen
  (p.lastSeen.size - kept.size, { p with lastSeen := kept })

def heartbeat (p : Presence) (operator : String) (now : Nat) : Presence :=
  ((p.touch operator now).sweep now).2

end Presence

structure Directory where
  operators : List Operator
  presence : Presence
  requireOnline : Bool
deriving DecidableEq

namespace Directory

def isOnline (d : Directory) (operator : String) (now : Nat) : Bool :=
  d.presence.isOnline operator now

/-- Only agents serve queues, and where presence is required only those online. -/
def isEligible (d : Directory) (queue : String) (now : Nat) : Bool :=
  d.operators.any fun operator =>
    operator.role == .agent && operator.serves queue &&
      (!d.requireOnline || d.isOnline operator.id now)

def heartbeat (d : Directory) (operator : String) (now : Nat) : Directory :=
  { d with presence := d.presence.heartbeat operator now }

end Directory
end Switchboard
