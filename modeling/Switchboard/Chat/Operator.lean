import Switchboard.Text.Blank

/-! The people who answer. Agents serve queues; admins and managers supervise. -/
namespace Switchboard

inductive Role
  | admin | manager | agent
deriving DecidableEq, Repr, Inhabited

def Role.name : Role → String
  | .admin => "admin" | .manager => "manager" | .agent => "agent"

def Role.isSupervisor : Role → Bool
  | .admin | .manager => true
  | .agent => false

structure Operator where
  id : String
  name : String
  role : Role
  queues : List String
deriving DecidableEq, Repr

namespace Operator

def agent (id name : String) (queues : List String) : Operator := ⟨id, name, .agent, queues⟩

def supervisor (id name : String) : Operator := ⟨id, name, .manager, []⟩

def serves (operator : Operator) (queue : String) : Bool :=
  operator.queues.any (Text.sameIgnoringCase · queue)

end Operator
end Switchboard
