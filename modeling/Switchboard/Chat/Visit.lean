import Switchboard.Chat.Event

/-! Work on one session that keeps a journal. Everything the flow and the desk do to a session is a
visit, so a session can only change together with the events that tell of it. -/
namespace Switchboard

structure Visit where
  session : Session
  journal : List Event
deriving DecidableEq

namespace Visit

def start (session : Session) : Visit := ⟨session, []⟩

abbrev Act := EStateM NotAllowed Visit

/-- A change of the session, followed by the events that `told` derives from it. -/
def change (change : Session.Change α) (told : Session → Session → α → List Event) : Act α :=
  fun v =>
    match change v.session with
    | .ok a after => .ok a ⟨after, v.journal ++ told v.session after a⟩
    | .error refusal after => .error refusal { v with session := after }

/-- A status that stays the same is no news. -/
def toldStatus (before after : Session) : List Event :=
  if before.status = after.status then []
  else [.statusChanged before.id before.status after.status]

def toldMessage (before : Session) (message : Message) : List Event :=
  [.messageAppended before.id message]

def publish (event : Event) (v : Visit) : Visit := { v with journal := v.journal ++ [event] }

def append (post : Post) (now : Instant) : Act Message :=
  change (Session.append post now) fun before _ message => toldMessage before message

def appendFromOperator (operator text : String) (now : Instant) : Act Message :=
  change (Session.appendFromOperator operator text now) fun before _ message =>
    toldMessage before message

def mergeVariables (patch : Variables) (now : Instant) : Act Variables :=
  change (Session.mergeVariables patch now) fun _ _ _ => []

def setPending (node : Option String) : Act Unit :=
  change (Session.setPending node) fun _ _ _ => []

def transfer (queue operator : Option String) (now : Instant) : Act Unit :=
  change (Session.transfer queue operator now) fun before after _ => toldStatus before after

def pickup (operator : Operator) (announcement : String) (now : Instant) : Act Message :=
  change (Session.pickup operator announcement now) fun before after message =>
    toldMessage before message ++ toldStatus before after

def close (closer : Closer) (farewell : String) (now : Instant) : Act Message :=
  change (Session.close closer farewell now) fun before after message =>
    toldMessage before message ++ toldStatus before after

end Visit
end Switchboard
