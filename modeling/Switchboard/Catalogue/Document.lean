import Switchboard.Catalogue.OpeningHours
import Switchboard.Catalogue.Template
import Switchboard.Chat.Document

/-! Templates and opening hours as documents. -/
namespace Switchboard

open Json (required withDefault readString readBool readList readDict slots)

def DayRule.toJson (rule : DayRule) : Json :=
  .object [("active", .bool rule.active), ("start", .string rule.opening),
    ("end", .string rule.closing)]

def DayRule.ofJson (j : Json) : Option DayRule := do
  match ← slots [["active"], ["start"], ["end"]] j with
  | [active, opening, closing] =>
    return ⟨← withDefault false readBool active, ← required readString opening,
      ← required readString closing⟩
  | _ => none

def ScheduleGroup.toJson (group : ScheduleGroup) : Json :=
  .object [("id", .string group.id), ("name", .string group.name),
    ("rules", Json.ofDict DayRule.toJson group.rules)]

def ScheduleGroup.ofJson (j : Json) : Option ScheduleGroup := do
  match ← slots [["id"], ["name"], ["rules"]] j with
  | [id, name, rules] =>
    return ⟨← required readString id, ← withDefault "" readString name,
      ← withDefault ∅ (readDict DayRule.ofJson) rules⟩
  | _ => none

def Template.toJson (template : Template) : Json :=
  .object [("id", .string template.id), ("name", .string template.name),
    ("text", .string template.text), ("buttons", .array (template.buttons.map Button.toJson))]

def Template.ofJson (j : Json) : Option Template := do
  match ← slots [["id"], ["name"], ["text"], ["buttons"]] j with
  | [id, name, text, buttons] =>
    return ⟨← required readString id, ← withDefault "" readString name,
      ← required readString text, ← withDefault [] (readList Button.ofJson) buttons⟩
  | _ => none

end Switchboard
