import Switchboard.Flow.Condition
import Switchboard.Failure

/-! Flows as graphs. A graph carries the proof that it is sound: identifiers are distinct, one node is
the start, edges join nodes, and no exit of a node leads two ways. -/
namespace Switchboard

/-- One case of a condition. Its identifier is also the handle of the edge it takes. -/
structure Rule where
  id : String
  key : String
  comparison : Comparison
  value : String
deriving DecidableEq, Repr

structure Mapping where
  path : String
  key : String
deriving DecidableEq, Repr

inductive Kind
  | start (text : Option String)
  | message (text : String)
  | input (text key : String)
  | setValue (key value : String)
  | condition (rules : List Rule)
  | anchor (name : Option String)
  | goto (target : String)
  | request (url : String) (mappings : List Mapping)
  | script (source : String)
  | delay (seconds : Nat)
  | schedule (id : String)
  | template (id : String)
  | queue (name : String)
  /-- Ends the flow and leaves the session with the bot. -/
  | ending (text : Option String)
  /-- Ends the flow and closes the session. -/
  | closing (text : Option String)
deriving DecidableEq, Repr

namespace Kind

def name : Kind → String
  | start _ => "start" | message _ => "message" | input .. => "input" | setValue .. => "setValue"
  | condition _ => "condition" | anchor _ => "anchor" | goto _ => "goto"
  | request .. => "httpRequest" | script _ => "script" | delay _ => "delay"
  | schedule _ => "schedule" | template _ => "template" | queue _ => "queue" | ending _ => "end"
  | closing _ => "final"

def isStart : Kind → Bool
  | start _ => true
  | _ => false

def awaitsReply : Kind → Bool
  | input .. | template _ => true
  | _ => false

def suspends : Kind → Bool
  | input .. | template _ | delay _ => true
  | _ => false

end Kind

structure Node where
  id : String
  kind : Kind
deriving DecidableEq, Repr

/-- An edge without handle is the exit of a node that does not branch. -/
structure Edge where
  source : String
  target : String
  handle : Option String
deriving DecidableEq, Repr

namespace Edge

def always (source target : String) : Edge := ⟨source, target, none⟩

def branch (source handle target : String) : Edge := ⟨source, target, some handle⟩

def isUnconditional (edge : Edge) : Bool := edge.handle.isNone

end Edge

/-- The exits of a schedule node. -/
def insideHandle : String := "inside"

def outsideHandle : String := "outside"

/-- The exit of a condition none of whose rules leads on. -/
def elseHandle : String := "else"

inductive GraphFault
  | missingStart
  | multipleStart (count : Nat)
  | duplicateNode (id : String)
  | danglingEdge (source target missing : String)
  | duplicateHandle (source handle : String)
  | invalidNode (node kind reason : String)
deriving DecidableEq, Repr

namespace GraphFault

def message : GraphFault → String
  | missingStart => "graph has no start node"
  | multipleStart count =>
    "graph must have exactly one start node, found " ++ toString count
  | duplicateNode id => "duplicate node id: " ++ id
  | danglingEdge source target missing =>
    "edge " ++ source ++ " -> " ++ target ++ " references unknown node " ++ missing
  | duplicateHandle source handle =>
    "node " ++ source ++ " has more than one edge with handle " ++ handle
  | invalidNode node kind reason =>
    "node '" ++ node ++ "' of kind '" ++ kind ++ "' is invalid: " ++ reason

def toFailure (fault : GraphFault) : Failure := .invalidGraph fault.message

end GraphFault

namespace Graph

def firstRepeat (seen : List String) : List String → Option String
  | [] => none
  | id :: rest => if id ∈ seen then some id else firstRepeat (id :: seen) rest

def startFault (nodes : List Node) : Option GraphFault :=
  match nodes.filter (·.kind.isStart) with
  | [] => some .missingStart
  | [_] => none
  | starts => some (.multipleStart starts.length)

/-- An end of the edge that is no node, the source before the target. -/
def danglingEnd (ids : List String) (edge : Edge) : Option String :=
  [edge.source, edge.target].find? (! ids.contains ·)

/-- `seen` holds the exits of the edges before. -/
def edgeFault (ids : List String) (seen : List (String × Option String)) :
    List Edge → Option GraphFault
  | [] => none
  | edge :: rest =>
    match danglingEnd ids edge with
    | some missing => some (.danglingEdge edge.source edge.target missing)
    | none =>
      if (edge.source, edge.handle) ∈ seen then
        some (.duplicateHandle edge.source (edge.handle.getD "<none>"))
      else edgeFault ids ((edge.source, edge.handle) :: seen) rest

/-- The first thing wrong with a list of nodes and edges: identifiers, then starts, then edges. -/
def fault? (nodes : List Node) (edges : List Edge) : Option GraphFault :=
  let ids := nodes.map Node.id
  match firstRepeat [] ids with
  | some id => some (.duplicateNode id)
  | none =>
    match startFault nodes with
    | some fault => some fault
    | none => edgeFault ids [] edges

end Graph

structure Graph where
  id : String
  name : String
  nodes : List Node
  edges : List Edge
  sound : Graph.fault? nodes edges = none
deriving DecidableEq

namespace Graph

def build (id name : String) (nodes : List Node) (edges : List Edge) : Except GraphFault Graph :=
  match sound : fault? nodes edges with
  | some fault => .error fault
  | none => .ok { id, name, nodes, edges, sound }

def node? (g : Graph) (id : String) : Option Node := g.nodes.find? (·.id == id)

def start (g : Graph) : String := ((g.nodes.find? (·.kind.isStart)).map Node.id).getD ""

def outgoing (g : Graph) (source : String) : List Edge := g.edges.filter (·.source == source)

/-- The exit of a node that does not branch: the edge without handle if there is one, else any, since
editors give a handle even to a lone exit. -/
def next (g : Graph) (source : String) : Option String :=
  (((g.outgoing source).find? (·.isUnconditional)).or (g.outgoing source).head?).map Edge.target

def branch (g : Graph) (source handle : String) : Option String :=
  ((g.outgoing source).find? (·.handle == some handle)).map Edge.target

end Graph
end Switchboard
