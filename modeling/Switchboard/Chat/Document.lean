import Switchboard.Calendar.Timestamp
import Switchboard.Chat.Event
import Switchboard.Json.Record

/-! Conversations as documents. Every reader takes back what the writer beside it makes. -/
namespace Switchboard

open Json (required withDefault readString readOption readList readDict slots)

def Instant.toJson (t : Instant) : Json := .string (Timestamp.write t)

def Instant.ofJson (j : Json) : Option Instant := (Json.readString j).bind Timestamp.read

def Sender.ofName : String → Option Sender
  | "bot" => some .bot | "user" => some .user | "agent" => some .agent | "system" => some .system
  | _ => none

def Sender.toJson (sender : Sender) : Json := .string sender.name

def Sender.ofJson (j : Json) : Option Sender := (Json.readName j).bind Sender.ofName

def Status.ofName : String → Option Status
  | "bot" => some .bot | "waiting" => some .waiting | "open" => some .opened
  | "closed" => some .closed
  | _ => none

def Status.toJson (status : Status) : Json := .string status.name

def Status.ofJson (j : Json) : Option Status := (Json.readName j).bind Status.ofName

def Role.ofName : String → Option Role
  | "admin" | "ADMIN" => some .admin
  | "manager" | "MANAGER" => some .manager
  | "agent" | "AGENT" => some .agent
  | _ => none

def Role.toJson (role : Role) : Json := .string role.name

def Role.ofJson (j : Json) : Option Role := (Json.readName j).bind Role.ofName

def Button.toJson (button : Button) : Json :=
  .object [("id", .string button.id), ("label", .string button.label)]

def Button.ofJson (j : Json) : Option Button := do
  match ← slots [["id"], ["label"]] j with
  | [id, label] => return ⟨← required readString id, ← required readString label⟩
  | _ => none

/-- Offered buttons are left out when nothing was offered. -/
def buttonsMember (buttons : Option (List Button)) : List (String × Json) :=
  match buttons with
  | none => []
  | some buttons => [("buttons", .array (buttons.map Button.toJson))]

def readButtons : Json → Option (Option (List Button)) := readOption (readList Button.ofJson)

def Post.toJson (post : Post) : Json :=
  .object ([("sender", post.sender.toJson), ("text", .string post.text)]
    ++ buttonsMember post.buttons)

def Post.ofJson (j : Json) : Option Post := do
  match ← slots [["sender"], ["text"], ["buttons"]] j with
  | [sender, text, buttons] =>
    return ⟨← required Sender.ofJson sender, ← required readString text,
      ← withDefault none readButtons buttons⟩
  | _ => none

def Message.toJson (message : Message) : Json :=
  .object ([("sender", message.sender.toJson), ("text", .string message.text)]
    ++ buttonsMember message.buttons ++ [("timestamp", message.timestamp.toJson)])

def Message.ofJson (j : Json) : Option Message := do
  match ← slots [["sender"], ["text"], ["buttons"], ["timestamp"]] j with
  | [sender, text, buttons, timestamp] =>
    return ⟨← required Sender.ofJson sender, ← required readString text,
      ← withDefault none readButtons buttons, ← required Instant.ofJson timestamp⟩
  | _ => none

def Operator.toJson (operator : Operator) : Json :=
  .object [("id", .string operator.id), ("name", .string operator.name),
    ("role", operator.role.toJson), ("queues", Json.ofStrings operator.queues)]

def Operator.ofJson (j : Json) : Option Operator := do
  match ← slots [["id"], ["name"], ["role"], ["queues"]] j with
  | [id, name, role, queues] =>
    return ⟨← required readString id, ← required readString name, ← required Role.ofJson role,
      ← withDefault [] (readList readString) queues⟩
  | _ => none

def SessionId.toJson (id : SessionId) : Json := .string id.text

def SessionId.ofJson (j : Json) : Option SessionId := (Json.readString j).map SessionId.mk

def Variables.toJson (bag : Variables) : Json := Json.ofDict .string bag

def Variables.ofJson (j : Json) : Option Variables := readDict readString j

namespace Session

def fields : Json.Fields :=
  [["id"], ["customer_ref"], ["status"], ["queue"], ["operator_ref"], ["operator_name"],
    ["reserved_for"], ["variables"], ["messages"], ["pending_node"], ["created_at"],
    ["updated_at"]]

def members (s : Session) (messages : Json) : List (String × Json) :=
  [("customer_ref", .string s.customer), ("status", s.status.toJson),
    ("queue", Json.ofOption .string s.queue), ("operator_ref", Json.ofOption .string s.operator),
    ("operator_name", Json.ofOption .string s.operatorName),
    ("reserved_for", Json.ofOption .string s.reservedFor),
    ("variables", Variables.toJson s.bag), ("messages", messages),
    ("pending_node", Json.ofOption .string s.pending), ("created_at", s.createdAt.toJson),
    ("updated_at", s.updatedAt.toJson)]

def toJson (s : Session) : Json :=
  .object (("id", s.id.toJson) :: s.members (.array (s.messages.map Message.toJson)))

/-- A session without its name, and with the length of its log in place of the log. -/
def toBrief (s : Session) : Json := .object (s.members (.integer s.messages.length))

def ofJson (j : Json) : Option Session := do
  match ← slots fields j with
  | [id, customer, status, queue, operator, operatorName, reservedFor, bag, messages,
      pending, createdAt, updatedAt] =>
    return {
      id := ← required SessionId.ofJson id
      customer := ← required readString customer
      status := ← required Status.ofJson status
      queue := ← withDefault none (readOption readString) queue
      operator := ← withDefault none (readOption readString) operator
      operatorName := ← withDefault none (readOption readString) operatorName
      reservedFor := ← withDefault none (readOption readString) reservedFor
      bag := ← withDefault ∅ Variables.ofJson bag
      messages := ← withDefault [] (readList Message.ofJson) messages
      pending := ← withDefault none (readOption readString) pending
      createdAt := ← required Instant.ofJson createdAt
      updatedAt := ← required Instant.ofJson updatedAt }
  | _ => none

end Session

namespace Event

def tagged (type : String) (session : SessionId) (members : List (String × Json)) : Json :=
  .object ([("type", .string type), ("session_id", session.toJson)] ++ members)

def toJson : Event → Json
  | sessionCreated session customer =>
    tagged "session_created" session [("customer_ref", .string customer)]
  | messageAppended session message =>
    tagged "message_appended" session [("message", message.toJson)]
  | statusChanged session before after =>
    tagged "status_changed" session [("from", before.toJson), ("to", after.toJson)]
  | flowPaused session node => tagged "flow_paused" session [("node_id", .string node)]
  | flowStalled session node => tagged "flow_stalled" session [("node_id", .string node)]
  | flowFinished session => tagged "flow_finished" session []

end Event
end Switchboard
