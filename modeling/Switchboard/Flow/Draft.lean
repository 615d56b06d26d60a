import Switchboard.Chat.Document
import Switchboard.Flow.Graph
import Switchboard.Json.Reader

/-! Flows as they are written. Editors use names of their own for most members and kinds, and keep a
draft beside the published copy; both spellings read the same, and the published copy counts. -/
namespace Switchboard

open Json (required withDefault readString readOption readList slots)

def Comparison.toJson (comparison : Comparison) : Json := .string comparison.name

def Comparison.ofJson (j : Json) : Option Comparison := (Json.readName j).bind Comparison.ofName

def Comparison.ofWhole (j : Json) : Option Comparison :=
  (Json.readNameInWhole j).bind Comparison.ofName

def Edge.toJson (edge : Edge) : Json :=
  .object ([("source", .string edge.source), ("target", .string edge.target)] ++
    match edge.handle with
    | some handle => [("handle", .string handle)]
    | none => [])

def Edge.ofJson (j : Json) : Option Edge := do
  match ← slots [["source"], ["target"], ["handle", "sourceHandle"]] j with
  | [source, target, handle] =>
    return ⟨← required readString source, ← required readString target,
      ← withDefault none (readOption readString) handle⟩
  | _ => none

def Rule.toJson (rule : Rule) : Json :=
  .object [("id", .string rule.id), ("variable", .string rule.key),
    ("operator", rule.comparison.toJson), ("value", .string rule.value)]

def Rule.ofJsonWith (readComparison : Json → Option Comparison) (j : Json) : Option Rule := do
  match ← slots [["id"], ["variable"], ["operator"], ["value"]] j with
  | [id, key, comparison, value] =>
    return ⟨← required readString id, ← required readString key,
      ← required readComparison comparison, ← withDefault "" readString value⟩
  | _ => none

def Rule.ofJson : Json → Option Rule := Rule.ofJsonWith Comparison.ofJson

def Rule.ofWhole : Json → Option Rule := Rule.ofJsonWith Comparison.ofWhole

def Mapping.toJson (mapping : Mapping) : Json :=
  .object [("jsonPath", .string mapping.path), ("variable", .string mapping.key)]

def Mapping.ofJson (j : Json) : Option Mapping := do
  match ← slots [["jsonPath"], ["variable", "varName"]] j with
  | [path, key] =>
    return ⟨← withDefault "" readString path, ← withDefault "" readString key⟩
  | _ => none

namespace Kind

def defaultSeconds : Nat := 1

def readDigits (text : List Char) : Option Nat :=
  let digits := match text with
    | '+' :: digits => digits
    | digits => digits
  if digits.isEmpty || !digits.all Char.isDigit then none
  else
    let value := Decimal.digitsValue digits
    if value ≤ Json.maxWord then some value else none

/-- A delay as a number or as text; blank text is the default. -/
def readSeconds : Json → Option Nat
  | .string text =>
    let text := Text.trimChars text.toList
    if text.isEmpty then some defaultSeconds else readDigits text
  | value => Json.readWord value

def readText : Option Json → Option (Option String) := withDefault none (readOption readString)

def fields : String → Option Json.Fields
  | "start" | "message" | "end" | "final" => some [["text"]]
  | "input" => some [["text"], ["variable", "variableName"]]
  | "setValue" => some [["variable", "variableName"], ["value"]]
  | "condition" => some [["rules", "conditions"]]
  | "anchor" => some [["name", "anchorName"]]
  | "goto" => some [["target", "targetAnchorId"]]
  | "httpRequest" => some [["url"], ["mappings"]]
  | "script" => some [["script"]]
  | "delay" => some [["seconds", "delay"]]
  | "schedule" => some [["scheduleId"]]
  | "template" => some [["templateId"]]
  | "queue" => some [["queue", "queueName"]]
  | _ => none

/-- Editors add a suffix to the name of a kind. -/
def canonical : String → String
  | "startNode" => "start" | "messageNode" => "message" | "inputNode" => "input"
  | "setValueNode" => "setValue" | "conditionNode" => "condition" | "anchorNode" => "anchor"
  | "gotoNode" => "goto" | "httpRequestNode" => "httpRequest" | "scriptNode" => "script"
  | "delayNode" => "delay" | "scheduleNode" => "schedule" | "templateNode" => "template"
  | "queueNode" => "queue" | "endNode" => "end" | "finalNode" => "final"
  | name => name

def ofSlots (readRule : Json → Option Rule) : String → List (Option Json) → Option Kind
  | "start", [text] => return .start (← readText text)
  | "message", [text] => return .message (← withDefault "" readString text)
  | "input", [text, key] =>
    return .input (← withDefault "" readString text) (← required readString key)
  | "setValue", [key, value] =>
    return .setValue (← required readString key) (← withDefault "" readString value)
  | "condition", [rules] => return .condition (← withDefault [] (readList readRule) rules)
  | "anchor", [name] => return .anchor (← readText name)
  | "goto", [target] => return .goto (← required readString target)
  | "httpRequest", [url, mappings] =>
    return .request (← required readString url)
      (← withDefault [] (readList Mapping.ofJson) mappings)
  | "script", [source] => return .script (← withDefault "" readString source)
  | "delay", [seconds] => return .delay (← withDefault defaultSeconds readSeconds seconds)
  | "schedule", [id] => return .schedule (← required readString id)
  | "template", [id] => return .template (← required readString id)
  | "queue", [name] => return .queue (← required readString name)
  | "end", [text] => return .ending (← readText text)
  | "final", [text] => return .closing (← readText text)
  | _, _ => none

def ofConfig (readRule : Json → Option Rule) (name : String) (config : Json) : Option Kind := do
  let name := canonical name
  match config with
  | .object members => ofSlots readRule name (← (← fields name).mapM (Json.pick members))
  | _ => none

def config : Kind → Json
  | start text | ending text | closing text => .object [("text", Json.ofOption .string text)]
  | message text => .object [("text", .string text)]
  | input text key => .object [("text", .string text), ("variable", .string key)]
  | setValue key value => .object [("variable", .string key), ("value", .string value)]
  | condition rules => .object [("rules", .array (rules.map Rule.toJson))]
  | anchor name => .object [("name", Json.ofOption .string name)]
  | goto target => .object [("target", .string target)]
  | request url mappings =>
    .object [("url", .string url), ("mappings", .array (mappings.map Mapping.toJson))]
  | script source => .object [("script", .string source)]
  | delay seconds => .object [("seconds", .integer seconds)]
  | schedule id => .object [("scheduleId", .string id)]
  | template id => .object [("templateId", .string id)]
  | queue name => .object [("queue", .string name)]

def toJson (kind : Kind) : Json :=
  .object [("kind", .string kind.name), ("config", kind.config)]

/-- A configuration that comes before the name of its kind is taken as a whole, since it cannot be
known yet what of it will be used. -/
def comesEarly : Json → Bool
  | .object members => ((members.find? fun m => m.1 == "kind" || m.1 == "config").map
      fun m => m.1 == "config").getD false
  | _ => false

def ofJson (j : Json) : Option Kind := do
  match ← slots [["kind"], ["config"]] j with
  | [some name, some config] =>
    let name ← Json.readName name
    if !comesEarly j then ofConfig Rule.ofJson name config
    else if config.whole.isNone then none
    else ofConfig Rule.ofWhole name config
  | _ => none

end Kind

structure RawNode where
  id : String
  kind : String
  config : Json

namespace RawNode

def toJson (raw : RawNode) : Json :=
  .object [("id", .string raw.id), ("kind", .string raw.kind), ("config", raw.config)]

def ofJson (j : Json) : Option RawNode := do
  match ← slots [["id"], ["kind", "type"], ["config", "data"]] j with
  | [id, kind, config] =>
    return ⟨← required readString id, ← required readString kind,
      ← withDefault .null Json.whole config⟩
  | _ => none

/-- A missing configuration is an empty one. -/
def toNode (raw : RawNode) : Except GraphFault Node :=
  let config := match raw.config with
    | .null => .object []
    | config => config
  match Kind.ofConfig Rule.ofWhole raw.kind config with
  | some kind => .ok ⟨raw.id, kind⟩
  | none => .error (.invalidNode raw.id raw.kind "unreadable configuration")

end RawNode

structure Draft where
  id : String
  name : String
  nodes : List RawNode
  edges : List Edge

namespace Draft

def toJson (draft : Draft) : Json :=
  .object [("id", .string draft.id), ("name", .string draft.name),
    ("nodes", .array (draft.nodes.map RawNode.toJson)),
    ("edges", .array (draft.edges.map Edge.toJson))]

def ofJson (j : Json) : Option Draft := do
  match ← slots [["id"], ["name"], ["nodes"], ["edges"]] j with
  | [id, name, nodes, edges] =>
    return ⟨← withDefault "" readString id, ← withDefault "" readString name,
      ← withDefault [] (readList RawNode.ofJson) nodes,
      ← withDefault [] (readList Edge.ofJson) edges⟩
  | _ => none

end Draft

/-- What an editor stores: a flow with its published copy and the draft beside it. -/
structure FlowRecord where
  id : String
  name : String
  draft : Option Draft
  published : Option Draft

namespace FlowRecord

def ofJson (j : Json) : Option FlowRecord := do
  match ← slots [["id"], ["name"], ["draft"], ["published"]] j with
  | [id, name, draft, published] =>
    return ⟨← withDefault "" readString id, ← withDefault "" readString name,
      ← withDefault none (readOption Draft.ofJson) draft,
      ← withDefault none (readOption Draft.ofJson) published⟩
  | _ => none

/-- The flow of a record, under the record's own name where it has none. -/
def flow (record : FlowRecord) : Except Failure Draft :=
  match record.published.or record.draft with
  | none => .error (.invalidGraph ("flow '" ++ record.id ++ "' is empty"))
  | some draft => .ok { draft with
      id := if draft.id == "" then record.id else draft.id
      name := if draft.name == "" then record.name else draft.name }

end FlowRecord

namespace Draft

def isRecord : Json → Bool
  | .object members => members.any fun m => m.1 == "published" || m.1 == "draft"
  | _ => false

def ofValue (value : Json) : Except Failure Draft :=
  if isRecord value then
    match FlowRecord.ofJson value with
    | some record => record.flow
    | none => .error .document
  else
    match Draft.ofJson value with
    | some draft => .ok draft
    | none => .error .document

def read (text : String) : Except Failure Draft :=
  match Json.ofWholeText text with
  | some value => ofValue value
  | none => .error .document

/-- Nodes are judged before the graph they make. -/
def publish (draft : Draft) : Except GraphFault Graph := do
  let nodes ← draft.nodes.mapM RawNode.toNode
  Graph.build draft.id draft.name nodes draft.edges

end Draft
end Switchboard
