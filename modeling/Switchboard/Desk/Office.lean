import Switchboard.Catalogue.Loading
import Switchboard.Chat.Directory
import Switchboard.Desk.Basic
import Switchboard.Desk.Workspace
import Switchboard.Script.Evaluation

/-! A desk with the things it works with: the roster, the catalogue, the web and a clock. Time has two
sides here. Messages and opening hours go by the wall clock, delays and presence by the desk's own, and
when time passes the wall clock moves first. -/
namespace Switchboard

structure Office where
  graph : Graph
  settings : Settings
  directory : Directory
  catalogue : Catalogue
  web : String → Option Response
  scripts : Variables → String → Option Variables
  /-- Whether somebody serves a queue, if the directory can tell. -/
  lookup : Directory → Nat → String → Option Bool
  clock : Instant
  desk : Desk

namespace Office

def sandbox (limits : ScriptLimits) (bag : Variables) (source : String) : Option Variables :=
  (Script.evaluate (.ofLimits limits) bag source).toOption

def eligible (directory : Directory) (now : Nat) (queue : String) : Option Bool :=
  some (directory.isEligible queue now)

def opening (graph : Graph) (settings : Settings) (catalogue : Catalogue)
    (operators : List Operator) (clock : Instant) : Office where
  graph := graph
  settings := settings
  directory := ⟨operators, .new (1000 * settings.stalenessSeconds), settings.requireOnline⟩
  catalogue := catalogue
  web := fun _ => none
  scripts := sandbox settings.script
  lookup := eligible
  clock := clock
  desk := .empty

/-- Nothing moves while an operation runs, so the answers are steady. -/
def services (o : Office) : Services where
  now _ := o.clock
  fetch _ := o.web
  evaluate _ := o.scripts
  hasOperator _ := o.lookup o.directory o.desk.elapsed
  schedule? _ := o.catalogue.schedule?
  template? _ := o.catalogue.template?

def surroundings (o : Office) : Surroundings :=
  ⟨o.graph, o.settings.wording, o.settings.engine, o.services⟩

abbrev Op := EStateM Failure Office

def act (act : Surroundings → Desk.Op α) : Op α := fun o =>
  match act o.surroundings o.desk with
  | .ok a desk => .ok a { o with desk }
  | .error failure desk => .error failure { o with desk }

def heartbeat (operator : String) (o : Office) : Office :=
  { o with directory := o.directory.heartbeat operator o.desk.elapsed }

def start (fresh : SessionId) (customer : String) : Op Session :=
  act fun here => Desk.start here fresh customer

def reply (id : SessionId) (reply : Reply) : Op Session := act fun here => Desk.reply here id reply

/-- Operators who act are there. -/
def pickup (id : SessionId) (operator : Operator) : Op Session := do
  modify (heartbeat operator.id)
  act fun here => Desk.pickup here id operator

def operatorReply (id : SessionId) (operator : Operator) (text : String) : Op Message := do
  modify (heartbeat operator.id)
  act fun here => Desk.operatorReply here id operator text

def transfer (id : SessionId) (queue operator : Option String) : Op Session :=
  act fun here => Desk.transfer here id queue operator

def close (id : SessionId) (operator : Operator) : Op Session :=
  act fun here => Desk.close here id operator

def shutdown (o : Office) : Office := { o with desk := o.desk.shutdown }

def isOnline (o : Office) (operator : String) : Bool :=
  o.directory.isOnline operator o.desk.elapsed

def agents (o : Office) : List Operator := o.directory.operators.filter (·.role == .agent)

/-- The timer that is due first among those due by a time; of equals, the one set first. -/
def nextTimer (timers : List Timer) (time : Nat) : Option Timer :=
  (timers.filter (·.due ≤ time)).foldl (fun best timer =>
    match best with
    | none => some timer
    | some first => if timer.due < first.due then some timer else some first) none

def fire (timer : Timer) (o : Office) : Office :=
  let o := { o with desk := { o.desk with elapsed := max o.desk.elapsed timer.due } }
  { o with desk := o.desk.fire o.surroundings timer }

def fireDue (time : Nat) : Nat → Office → Office
  | 0, o => o
  | firings + 1, o =>
    match nextTimer o.desk.timers time with
    | some timer => fireDue time firings (o.fire timer)
    | none => o

/-- The timers that may fire before time moves on, so that a flow which delays by nothing in a circle
cannot stop the clock. -/
def maxFirings : Nat := 1000000

def reach (time : Nat) (o : Office) : Office :=
  let o := fireDue time maxFirings o
  { o with desk := { o.desk with elapsed := max o.desk.elapsed time } }

def settle (o : Office) : Office := o.reach o.desk.elapsed

def advance (seconds : Nat) (o : Office) : Office :=
  { o with clock := o.clock.addSeconds seconds }.reach (o.desk.elapsed + 1000 * seconds)

end Office
end Switchboard
