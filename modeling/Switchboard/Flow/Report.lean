import Switchboard.Flow.Draft

/-! What is worth knowing of a flow before it is used. A node that nothing leads to is no fault, and a
jump into nowhere only stalls the flow, so both are warnings. -/
namespace Switchboard

def Kind.jump? : Kind → Option String
  | .goto target => some target
  | _ => none

namespace Graph

def jumps (g : Graph) : List String := g.nodes.filterMap (·.kind.jump?)

/-- The nodes that neither an edge nor a jump leads to, the start aside. -/
def unentered (g : Graph) : List String :=
  (g.nodes.filter fun node =>
    !node.kind.isStart && !g.edges.any (·.target == node.id) && !g.jumps.contains node.id).map Node.id

def missingTargets (g : Graph) : List String := g.jumps.filter fun target => (g.node? target).isNone

def report (g : Graph) : String :=
  "Flow: " ++ g.name ++ " (" ++ g.id ++ ")\n" ++
  "  start: " ++ g.start ++ "\n" ++
  "  nodes: " ++ toString g.nodes.length ++ "\n" ++
  "  edges: " ++ toString g.edges.length ++ "\n" ++
  (if g.unentered.isEmpty then ""
    else "  warning: no incoming edges: " ++ String.intercalate ", " g.unentered ++ "\n") ++
  String.join (g.missingTargets.map fun target =>
    "  warning: goto target " ++ target ++ " does not exist\n")

end Graph

def Graph.ofFile : Option String → Except Failure Graph
  | none => .error .file
  | some text =>
    match Draft.read text with
    | .error failure => .error failure
    | .ok draft =>
      match draft.publish with
      | .error fault => .error fault.toFailure
      | .ok graph => .ok graph

end Switchboard
