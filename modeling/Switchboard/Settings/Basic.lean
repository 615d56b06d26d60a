/-! What can be set on a desk, with its defaults. -/
namespace Switchboard

structure EngineSettings where
  /-- Nodes that one round may execute; none counts as one. -/
  stepBudget : Nat := 200
  /-- Rounds of one run; none counts as one. -/
  maxRounds : Nat := 10
  utcOffsetHours : Int := 0
deriving DecidableEq, Repr

structure Wording where
  closing : String := "Conversation finished."
  httpFailure : String := "⚠️ Could not reach the external service."
  scriptFailure : String := "⚠️ Could not process your data."
  queueTransfer : String := "Transferring to: \x7bqueue\x7d..."
  queueUnavailable : String := "⚠️ Queue unavailable right now."
  pickup : String := "You will be served by \x7boperator\x7d."
  closed : String := "Conversation closed."
  transfer : String := "Conversation transferred to \x7bqueue\x7d."
deriving DecidableEq, Repr

def version : String := "0.8.3"

structure HttpSettings where
  timeoutSeconds : Nat := 10
  userAgent : String := "flowdesk/" ++ version
deriving DecidableEq, Repr

structure ScriptLimits where
  maxOps : Nat := 10000
  timeoutMs : Nat := 500
  maxValueLength : Nat := 4096
deriving DecidableEq, Repr

structure DataFiles where
  flow : Option String := none
  schedules : Option String := none
  templates : Option String := none
  operators : Option String := none
deriving DecidableEq, Repr

structure Settings where
  engine : EngineSettings := {}
  wording : Wording := {}
  http : HttpSettings := {}
  script : ScriptLimits := {}
  /-- Seconds after which an operator who has not shown up is offline. -/
  stalenessSeconds : Nat := 15
  requireOnline : Bool := false
  files : DataFiles := {}
deriving DecidableEq, Repr

namespace EngineSettings

def budget (e : EngineSettings) : Nat := max e.stepBudget 1

def rounds (e : EngineSettings) : Nat := max e.maxRounds 1

end EngineSettings

namespace Wording

def queueMarker : String := "\x7bqueue\x7d"

def operatorMarker : String := "\x7boperator\x7d"

end Wording
end Switchboard
