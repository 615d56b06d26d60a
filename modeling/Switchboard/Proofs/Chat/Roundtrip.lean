import Switchboard.Catalogue.Document
import Switchboard.Proofs.Calendar.Timestamp
import Switchboard.Proofs.Json.Dictionary
import Switchboard.Proofs.Json.Text

/-! Conversations, operators and catalogues as documents and back. A field that is left out or written as
null stands for the very value that is written so, hence no default takes the place of another value. -/
namespace Switchboard

namespace Json

variable {α β : Type} {read : Json → Option α} {j : Json} {a default : α} {found : Option α}
  {next : α → Option β} {b : β}

theorem required_given (reads : read j = some a) : required read (some j) = some a := reads

theorem withDefault_given (reads : read j = some a) : withDefault default read (some j) = some a := reads

theorem field_then (first : found = some a) (rest : next a = some b) : (found >>= next) = some b := by
  rw [first]
  exact rest

end Json

open Json (slots required withDefault readList readString ofOption ofStrings ofDict readString_string
  readOption_string field_then required_given withDefault_given)

theorem Instant.ofJson_toJson {t : Instant} (plain : t.IsPlain) : ofJson t.toJson = some t := by
  unfold ofJson toJson
  rw [Json.readString_string, Option.bind_some, Timestamp.read_write plain]

theorem Sender.ofJson_toJson (sender : Sender) : ofJson sender.toJson = some sender := by
  cases sender <;> rfl

theorem Status.ofJson_toJson (status : Status) : ofJson status.toJson = some status := by
  cases status <;> rfl

theorem Role.ofJson_toJson (role : Role) : ofJson role.toJson = some role := by
  cases role <;> rfl

theorem Button.ofJson_toJson (button : Button) : ofJson button.toJson = some button := rfl

theorem readButtons_map (buttons : List Button) :
    readList Button.ofJson (.array (buttons.map Button.toJson)) = some buttons :=
  Json.readList_map fun button _ => button.ofJson_toJson

def buttonsSlot (buttons : Option (List Button)) : Option Json :=
  buttons.map fun buttons => .array (buttons.map Button.toJson)

/-- Buttons that are left out were not offered, while an empty offer is written as one. -/
theorem readButtons_slot (buttons : Option (List Button)) :
    withDefault none readButtons (buttonsSlot buttons) = some buttons := by
  cases buttons with
  | none => rfl
  | some buttons => exact congrArg (Option.map some) (readButtons_map buttons)

theorem Post.ofJson_toJson (post : Post) : ofJson post.toJson = some post := by
  have written : slots [["sender"], ["text"], ["buttons"]] post.toJson =
      some [some post.sender.toJson, some (.string post.text), buttonsSlot post.buttons] := by
    obtain ⟨sender, text, buttons⟩ := post
    cases buttons <;> rfl
  unfold ofJson
  exact field_then written <|
    field_then (required_given post.sender.ofJson_toJson) <|
    field_then (required_given (readString_string post.text)) <|
    field_then (readButtons_slot post.buttons) rfl

theorem Message.ofJson_toJson {message : Message} (plain : message.timestamp.IsPlain) :
    ofJson message.toJson = some message := by
  have written : slots [["sender"], ["text"], ["buttons"], ["timestamp"]] message.toJson =
      some [some message.sender.toJson, some (.string message.text), buttonsSlot message.buttons,
        some message.timestamp.toJson] := by
    obtain ⟨sender, text, buttons, timestamp⟩ := message
    cases buttons <;> rfl
  unfold ofJson
  exact field_then written <|
    field_then (required_given message.sender.ofJson_toJson) <|
    field_then (required_given (readString_string message.text)) <|
    field_then (readButtons_slot message.buttons) <|
    field_then (required_given (Instant.ofJson_toJson plain)) rfl

theorem Operator.ofJson_toJson (operator : Operator) : ofJson operator.toJson = some operator := by
  have written : slots [["id"], ["name"], ["role"], ["queues"]] operator.toJson =
      some [some (.string operator.id), some (.string operator.name), some operator.role.toJson,
        some (ofStrings operator.queues)] := rfl
  have queues : readList readString (ofStrings operator.queues) = some operator.queues :=
    Json.readList_map fun queue _ => readString_string queue
  unfold ofJson
  exact field_then written <|
    field_then (required_given (readString_string operator.id)) <|
    field_then (required_given (readString_string operator.name)) <|
    field_then (required_given operator.role.ofJson_toJson) <|
    field_then (withDefault_given queues) rfl

theorem Template.ofJson_toJson (template : Template) : ofJson template.toJson = some template := by
  have written : slots [["id"], ["name"], ["text"], ["buttons"]] template.toJson =
      some [some (.string template.id), some (.string template.name), some (.string template.text),
        some (.array (template.buttons.map Button.toJson))] := rfl
  unfold ofJson
  exact field_then written <|
    field_then (required_given (readString_string template.id)) <|
    field_then (withDefault_given (readString_string template.name)) <|
    field_then (required_given (readString_string template.text)) <|
    field_then (withDefault_given (readButtons_map template.buttons)) rfl

theorem DayRule.ofJson_toJson (rule : DayRule) : ofJson rule.toJson = some rule := rfl

theorem ScheduleGroup.ofJson_toJson (group : ScheduleGroup) : ofJson group.toJson = some group := by
  have written : slots [["id"], ["name"], ["rules"]] group.toJson =
      some [some (.string group.id), some (.string group.name),
        some (ofDict DayRule.toJson group.rules)] := rfl
  unfold ofJson
  exact field_then written <|
    field_then (required_given (readString_string group.id)) <|
    field_then (withDefault_given (readString_string group.name)) <|
    field_then (withDefault_given (Json.readDict_ofDict DayRule.ofJson_toJson group.rules)) rfl

theorem Variables.ofJson_toJson (bag : Variables) : ofJson (toJson bag) = some bag :=
  Json.readDict_ofDict Json.readString_string bag

structure Session.IsPlain (s : Session) : Prop where
  created : s.createdAt.IsPlain
  updated : s.updatedAt.IsPlain
  messages : ∀ message ∈ s.messages, message.timestamp.IsPlain

theorem Session.ofJson_toJson {s : Session} (plain : s.IsPlain) : ofJson s.toJson = some s := by
  have written : slots fields s.toJson = some [some s.id.toJson, some (.string s.customer),
      some s.status.toJson, some (ofOption .string s.queue), some (ofOption .string s.operator),
      some (ofOption .string s.operatorName), some (ofOption .string s.reservedFor),
      some (Variables.toJson s.bag), some (.array (s.messages.map Message.toJson)),
      some (ofOption .string s.pending), some s.createdAt.toJson, some s.updatedAt.toJson] := rfl
  have id : SessionId.ofJson s.id.toJson = some s.id := rfl
  have messages := Json.readList_map fun message member =>
    Message.ofJson_toJson (plain.messages message member)
  unfold ofJson
  exact field_then written <|
    field_then (required_given id) <|
    field_then (required_given (readString_string s.customer)) <|
    field_then (required_given s.status.ofJson_toJson) <|
    field_then (withDefault_given (readOption_string s.queue)) <|
    field_then (withDefault_given (readOption_string s.operator)) <|
    field_then (withDefault_given (readOption_string s.operatorName)) <|
    field_then (withDefault_given (readOption_string s.reservedFor)) <|
    field_then (withDefault_given s.bag.ofJson_toJson) <|
    field_then (withDefault_given messages) <|
    field_then (withDefault_given (readOption_string s.pending)) <|
    field_then (required_given (Instant.ofJson_toJson plain.created)) <|
    field_then (required_given (Instant.ofJson_toJson plain.updated)) rfl

/-! All these documents hold no numbers and have little depth, hence are read back from their texts. -/

section Plain

variable {α : Type} {depth : Nat} {write : α → Json}

theorem Json.plain_ofOption (value : Option String) : Json.Plain depth (ofOption .string value) := by
  cases value with
  | none => exact .null
  | some value => exact .string value

theorem Json.plain_map (each : ∀ a, Json.Plain depth (write a)) (values : List α) :
    Json.Plain (depth + 1) (.array (values.map write)) :=
  .array (List.forall_mem_map.2 fun a _ => each a)

theorem Json.plain_ofDict (each : ∀ a, Json.Plain depth (write a)) (dict : Dict α) :
    Json.Plain (depth + 1) (ofDict write dict) :=
  .object (List.forall_mem_map.2 fun entry _ => each entry.2)

theorem Button.plain (button : Button) : Json.Plain (depth + 1) button.toJson :=
  .object (by simp [Json.Plain.string])

theorem plain_buttonsMember (depth : Nat) (buttons : Option (List Button)) :
    ∀ member ∈ buttonsMember buttons, Json.Plain (depth + 2) member.2 := by
  cases buttons with
  | none => simp [buttonsMember]
  | some buttons => simpa [buttonsMember] using Json.plain_map Button.plain buttons

theorem Post.plain (post : Post) : Json.Plain (depth + 3) post.toJson := by
  have said : ∀ member ∈ [("sender", post.sender.toJson), ("text", .string post.text)],
      Json.Plain (depth + 2) member.2 := by
    simp [Sender.toJson, Json.Plain.string]
  exact .object (List.forall_mem_append.2 ⟨said, plain_buttonsMember depth post.buttons⟩)

theorem Message.plain (message : Message) : Json.Plain (depth + 3) message.toJson := by
  have post : Json.Plain (depth + 3) (Post.toJson ⟨message.sender, message.text, message.buttons⟩) :=
    Post.plain _
  cases post with
  | object said =>
    exact .object (List.forall_mem_append.2 ⟨said, List.forall_mem_singleton.2 (.string _)⟩)

theorem Operator.plain (operator : Operator) : Json.Plain (depth + 2) operator.toJson := by
  have queues : Json.Plain (depth + 1) (ofStrings operator.queues) :=
    Json.plain_map Json.Plain.string operator.queues
  exact .object (by simp [Role.toJson, Json.Plain.string, queues])

theorem Template.plain (template : Template) : Json.Plain (depth + 3) template.toJson := by
  have buttons : Json.Plain (depth + 2) (.array (template.buttons.map Button.toJson)) :=
    Json.plain_map Button.plain template.buttons
  exact .object (by simp [Json.Plain.string, buttons])

theorem DayRule.plain (rule : DayRule) : Json.Plain (depth + 1) rule.toJson :=
  .object (by simp [Json.Plain.string, Json.Plain.bool])

theorem ScheduleGroup.plain (group : ScheduleGroup) : Json.Plain (depth + 3) group.toJson := by
  have rules : Json.Plain (depth + 2) (ofDict DayRule.toJson group.rules) :=
    Json.plain_ofDict DayRule.plain group.rules
  exact .object (by simp [Json.Plain.string, rules])

theorem Session.plain (s : Session) : Json.Plain (depth + 5) s.toJson := by
  have bag : Json.Plain (depth + 4) s.bag.toJson := Json.plain_ofDict Json.Plain.string s.bag
  have messages : Json.Plain (depth + 4) (.array (s.messages.map Message.toJson)) :=
    Json.plain_map Message.plain s.messages
  refine .object ?_
  simp [members, SessionId.toJson, Status.toJson, Instant.toJson, Json.Plain.string, Json.plain_ofOption,
    bag, messages]

end Plain

/-- The value comes back from its document, and from the text of its document. -/
structure ReadsBack {α : Type} (write : α → Json) (read : Json → Option α) (a : α) : Prop where
  document : read (write a) = some a
  text : (Json.ofText (write a).text).bind read = some a

theorem ReadsBack.of_plain {α : Type} {write : α → Json} {read : Json → Option α} {a : α}
    (plain : Json.Plain Json.maxDepth (write a)) (back : read (write a) = some a) :
    ReadsBack write read a where
  document := back
  text := by rw [Json.ofText_text plain, Option.bind_some, back]

/-- Nothing is lost in a document. A dictionary keeps its entries as they stand, and this holds for every
order in which they may stand. -/
theorem documents_read_back :
    (∀ s : Session, s.IsPlain → ReadsBack Session.toJson Session.ofJson s) ∧
    (∀ message : Message, message.timestamp.IsPlain → ReadsBack Message.toJson Message.ofJson message) ∧
    (∀ post : Post, ReadsBack Post.toJson Post.ofJson post) ∧
    (∀ operator : Operator, ReadsBack Operator.toJson Operator.ofJson operator) ∧
    (∀ template : Template, ReadsBack Template.toJson Template.ofJson template) ∧
    (∀ group : ScheduleGroup, ReadsBack ScheduleGroup.toJson ScheduleGroup.ofJson group) :=
  ⟨fun s plain => .of_plain s.plain (Session.ofJson_toJson plain),
    fun message plain => .of_plain message.plain (Message.ofJson_toJson plain),
    fun post => .of_plain post.plain post.ofJson_toJson,
    fun operator => .of_plain operator.plain operator.ofJson_toJson,
    fun template => .of_plain template.plain template.ofJson_toJson,
    fun group => .of_plain group.plain group.ofJson_toJson⟩

def Message.question : Message :=
  ⟨.bot, "Still \"there\"?\n", some [], ⟨1700000000, 120000⟩⟩

def Session.questioned : Session :=
  { Session.new ⟨"chat_1"⟩ "visitor" Message.question.timestamp with
    bag := Dict.ofList [("city", "Oslo"), ("age", "")], messages := [Message.question] }

theorem Message.question_isPlain : question.timestamp.IsPlain where
  year_nonneg := by decide
  year_le := by decide
  nanos := by decide

theorem Session.questioned_isPlain : questioned.IsPlain where
  created := Message.question_isPlain
  updated := Message.question_isPlain
  messages := by
    intro message member
    obtain rfl := List.mem_singleton.1 member
    exact Message.question_isPlain

theorem question_reads_back :
    Session.questioned.IsPlain ∧ ReadsBack Session.toJson Session.ofJson Session.questioned ∧
      Message.question.timestamp.IsPlain ∧
        ReadsBack Message.toJson Message.ofJson Message.question :=
  ⟨Session.questioned_isPlain, documents_read_back.1 _ Session.questioned_isPlain,
    Message.question_isPlain, documents_read_back.2.1 _ Message.question_isPlain⟩

end Switchboard
