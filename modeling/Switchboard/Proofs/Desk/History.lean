import Mathlib.Logic.Relation
import Switchboard.Desk.Basic

/-! What can happen to a desk. Requests, timers, the passing of time and the end of the desk's work come
one after another in any order, and the world around the desk, its words and its limits may be other
ones every time; only the flow is the same throughout. A timer may fire whenever it is set, so nothing
rests on its being due. -/
namespace Switchboard

inductive Request
  | start (fresh : SessionId) (customer : String)
  | reply (id : SessionId) (said : Reply)
  | pickup (id : SessionId) (operator : Operator)
  | operatorReply (id : SessionId) (operator : Operator) (text : String)
  | transfer (id : SessionId) (queue operator : Option String)
  | close (id : SessionId) (operator : Operator)

namespace Request

def perform (here : Surroundings) : Request → Desk.Op Unit
  | start fresh customer => do let _ ← Desk.start here fresh customer
  | reply id said => do let _ ← Desk.reply here id said
  | pickup id operator => do let _ ← Desk.pickup here id operator
  | operatorReply id operator text => do let _ ← Desk.operatorReply here id operator text
  | transfer id queue operator => do let _ ← Desk.transfer here id queue operator
  | close id operator => do let _ ← Desk.close here id operator

def session? : Request → Option SessionId
  | start .. => none
  | reply id _ | pickup id _ | operatorReply id .. | transfer id .. | close id _ => some id

def IsFresh (d : Desk) : Request → Prop
  | start fresh _ => ∀ s ∈ d.store.sessions, s.id ≠ fresh
  | _ => True

end Request

namespace Desk

def after (op : Op α) (d : Desk) : Desk :=
  match op d with
  | .ok _ d => d
  | .error _ d => d

inductive Step (g : Graph) : Desk → Desk → Prop
  | request {d : Desk} (here : Surroundings) (request : Request) :
      here.graph = g → request.IsFresh d → Step g d (after (request.perform here) d)
  | fire {d : Desk} (here : Surroundings) (timer : Timer) :
      here.graph = g → timer ∈ d.timers → Step g d (d.fire here timer)
  | pass {d : Desk} (elapsed : Nat) : Step g d { d with elapsed }
  | shutdown {d : Desk} : Step g d d.shutdown

abbrev Later (g : Graph) : Desk → Desk → Prop := Relation.ReflTransGen (Step g)

/-- A state of a desk that opened with nobody on the line. -/
def Reached (g : Graph) (d : Desk) : Prop := Later g .empty d

end Desk

/-! A history to look at. -/

def Graph.patient : Graph where
  id := "patient"
  name := "Patient"
  nodes := [⟨"start", .start none⟩, ⟨"hold", .delay 5⟩, ⟨"end", .ending none⟩]
  edges := [.always "start" "hold", .always "hold" "end"]
  sound := by decide

def Surroundings.silent : Surroundings where
  graph := .patient
  wording := {}
  engine := {}
  services := ⟨fun _ => ⟨0, 0⟩, fun _ _ => none, fun _ _ _ => none, fun _ _ => none,
    fun _ _ => none, fun _ _ => none⟩

namespace Desk

def onHold : Desk := after (Request.perform .silent (.start ⟨"chat_1"⟩ "ana")) .empty

def transferred : Desk := after (Request.perform .silent (.transfer ⟨"chat_1"⟩ none none)) onHold

def holdTimer : Timer := ⟨⟨⟨"chat_1"⟩, "hold", "end"⟩, 5000⟩

theorem onHold_reached : Reached .patient onHold :=
  .single (.request .silent (.start ⟨"chat_1"⟩ "ana") rfl
    (by simp [Request.IsFresh, empty, Store.empty]))

theorem transferred_reached : Reached .patient transferred :=
  .tail onHold_reached (.request .silent (.transfer ⟨"chat_1"⟩ none none) rfl trivial)

end Desk
end Switchboard
