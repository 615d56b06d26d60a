import Switchboard.Catalogue.OpeningHours
import Switchboard.Catalogue.Template
import Switchboard.Chat.Session

/-! What a running flow asks of the world. Every answer may depend on how many questions the run has
asked before, so nothing that is proved of a run relies on a service answering the same way twice. -/
namespace Switchboard

structure Response where
  status : Nat
  body : String
deriving DecidableEq, Repr

def Response.isSuccess (r : Response) : Bool := 200 ≤ r.status && r.status < 300

structure Services where
  now : Nat → Instant
  /-- `none` when no response arrives. -/
  fetch : Nat → String → Option Response
  /-- The variables after a script, or `none` when it fails. -/
  evaluate : Nat → Variables → String → Option Variables
  /-- Whether somebody serves a queue, or `none` when that cannot be found out. -/
  hasOperator : Nat → String → Option Bool
  schedule? : Nat → String → Option ScheduleGroup
  template? : Nat → String → Option Template

end Switchboard
