import Switchboard.Chat.Session

/-! What can go wrong on a desk, and how it is told. -/
namespace Switchboard

inductive Failure
  | invalidGraph (reason : String)
  | nodeNotFound (node : String)
  | sessionNotFound (session : String)
  | notAllowed (refusal : NotAllowed)
  | http (reason : String)
  | script (reason : String)
  | scriptTimeout (milliseconds : Nat)
  | catalogue (reason : String)
  | config (reason : String)
  | configNotFound (path : String)
  /-- A file that cannot be read. -/
  | file
  /-- A document that is malformed or has the wrong shape. -/
  | document
deriving DecidableEq, Repr

namespace Failure

def message : Failure → String
  | invalidGraph reason => "Invalid graph: " ++ reason
  | nodeNotFound node => "Node not found: " ++ node
  | sessionNotFound session => "Session not found: " ++ session
  | notAllowed refusal => "Not allowed: " ++ refusal.message
  | http reason => "HTTP request failed: " ++ reason
  | script reason => "Script failed: " ++ reason
  | scriptTimeout milliseconds => "Script timeout after " ++ toString milliseconds ++ "ms"
  | catalogue reason => "Catalogue error: " ++ reason
  | config reason => "Config error: " ++ reason
  | configNotFound path => "Config file not found: " ++ path
  | file => "I/O error"
  | document => "JSON error"

def isNotAllowed : Failure → Bool
  | notAllowed _ => true
  | _ => false

end Failure
end Switchboard
