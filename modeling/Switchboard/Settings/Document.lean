import Switchboard.Failure
import Switchboard.Json.Record
import Switchboard.Settings.Basic
import Switchboard.Settings.Environment
import Switchboard.Toml.Printer
import Switchboard.Toml.Reader

/-! Settings as documents and as files. Whatever is not set keeps its default. -/
namespace Switchboard

open Json (withDefault readString readBool readInt readWord readOption slots)

namespace EngineSettings

def fields : Json.Fields := [["step_budget"], ["max_rounds"], ["utc_offset_hours"]]

def readHours : Json → Option Int := readInt (-Int.pow 2 31) (Int.pow 2 31 - 1)

def ofJson (j : Json) : Option EngineSettings := do
  let default : EngineSettings := {}
  match ← slots fields j with
  | [budget, rounds, hours] =>
    return ⟨← withDefault default.stepBudget readWord budget,
      ← withDefault default.maxRounds readWord rounds,
      ← withDefault default.utcOffsetHours readHours hours⟩
  | _ => none

def members (e : EngineSettings) : List (String × Json) :=
  [("step_budget", .integer e.stepBudget), ("max_rounds", .integer e.maxRounds),
    ("utc_offset_hours", .integer e.utcOffsetHours)]

end EngineSettings

namespace Wording

def fields : Json.Fields :=
  [["closing"], ["http_failure"], ["script_failure"], ["queue_transfer"], ["queue_unavailable"],
    ["pickup"], ["closed"], ["transfer"]]

def ofJson (j : Json) : Option Wording := do
  let default : Wording := {}
  match ← slots fields j with
  | [closing, httpFailure, scriptFailure, queueTransfer, queueUnavailable, pickup, closed,
      transfer] =>
    return {
      closing := ← withDefault default.closing readString closing
      httpFailure := ← withDefault default.httpFailure readString httpFailure
      scriptFailure := ← withDefault default.scriptFailure readString scriptFailure
      queueTransfer := ← withDefault default.queueTransfer readString queueTransfer
      queueUnavailable := ← withDefault default.queueUnavailable readString queueUnavailable
      pickup := ← withDefault default.pickup readString pickup
      closed := ← withDefault default.closed readString closed
      transfer := ← withDefault default.transfer readString transfer }
  | _ => none

def members (w : Wording) : List (String × Json) :=
  [("closing", .string w.closing), ("http_failure", .string w.httpFailure),
    ("script_failure", .string w.scriptFailure), ("queue_transfer", .string w.queueTransfer),
    ("queue_unavailable", .string w.queueUnavailable), ("pickup", .string w.pickup),
    ("closed", .string w.closed), ("transfer", .string w.transfer)]

end Wording

namespace HttpSettings

def fields : Json.Fields := [["timeout_secs"], ["user_agent"]]

def ofJson (j : Json) : Option HttpSettings := do
  let default : HttpSettings := {}
  match ← slots fields j with
  | [timeout, agent] =>
    return ⟨← withDefault default.timeoutSeconds readWord timeout,
      ← withDefault default.userAgent readString agent⟩
  | _ => none

def members (h : HttpSettings) : List (String × Json) :=
  [("timeout_secs", .integer h.timeoutSeconds), ("user_agent", .string h.userAgent)]

end HttpSettings

namespace ScriptLimits

def fields : Json.Fields := [["max_ops"], ["timeout_ms"], ["max_value_len"]]

/-- Limits, of which those that are missing are taken from `default`. -/
def ofJson (default : ScriptLimits) (j : Json) : Option ScriptLimits := do
  match ← slots fields j with
  | [ops, timeout, length] =>
    return ⟨← withDefault default.maxOps readWord ops,
      ← withDefault default.timeoutMs readWord timeout,
      ← withDefault default.maxValueLength readWord length⟩
  | _ => none

def members (l : ScriptLimits) : List (String × Json) :=
  [("max_ops", .integer l.maxOps), ("timeout_ms", .integer l.timeoutMs),
    ("max_value_len", .integer l.maxValueLength)]

end ScriptLimits

namespace DataFiles

def fields : Json.Fields := [["flow"], ["schedules"], ["templates"], ["operators"]]

def ofJson (j : Json) : Option DataFiles := do
  match ← slots fields j with
  | [flow, schedules, templates, operators] =>
    return ⟨← withDefault none (readOption readString) flow,
      ← withDefault none (readOption readString) schedules,
      ← withDefault none (readOption readString) templates,
      ← withDefault none (readOption readString) operators⟩
  | _ => none

def members (f : DataFiles) : List (String × Json) :=
  [("flow", Json.ofOption .string f.flow), ("schedules", Json.ofOption .string f.schedules),
    ("templates", Json.ofOption .string f.templates),
    ("operators", Json.ofOption .string f.operators)]

end DataFiles

namespace Settings

def ofSingle (name : String) (default : α) (read : Json → Option α) (j : Json) : Option α := do
  match ← slots [[name]] j with
  | [value] => withDefault default read value
  | _ => none

def presenceField : String := "staleness_secs"

def directoryField : String := "require_online"

/-- Settings whose missing script limits are taken from `limits`. -/
def ofJsonWith (limits : ScriptLimits) (j : Json) : Option Settings := do
  let default : Settings := {}
  match ← slots [["engine"], ["messages"], ["http"], ["script"], ["presence"], ["directory"],
      ["data"]] j with
  | [engine, messages, http, script, presence, directory, data] =>
    return {
      engine := ← withDefault default.engine EngineSettings.ofJson engine
      wording := ← withDefault default.wording Wording.ofJson messages
      http := ← withDefault default.http HttpSettings.ofJson http
      script := ← withDefault limits (ScriptLimits.ofJson limits) script
      stalenessSeconds := ← withDefault default.stalenessSeconds
        (ofSingle presenceField default.stalenessSeconds readWord) presence
      requireOnline := ← withDefault default.requireOnline
        (ofSingle directoryField default.requireOnline readBool) directory
      files := ← withDefault default.files DataFiles.ofJson data }
  | _ => none

def ofJson (j : Json) : Option Settings := ofJsonWith {} j

def sections (s : Settings) : List (String × List (String × Json)) :=
  [("engine", s.engine.members), ("messages", s.wording.members), ("http", s.http.members),
    ("script", s.script.members), ("presence", [(presenceField, .integer s.stalenessSeconds)]),
    ("directory", [(directoryField, .bool s.requireOnline)]), ("data", s.files.members)]

def toJson (s : Settings) : Json :=
  .object (s.sections.map fun entry => (entry.1, .object entry.2))

/-- A section of a file may be a list of its values, and what is too much in it is left out. -/
def dropSurplus : Json → Json
  | .object members => .object (members.map fun m =>
    match m.2, (({} : Settings).sections.lookup m.1) with
    | .array items, some fields => (m.1, .array (items.take fields.length))
    | value, _ => (m.1, value))
  | j => j

def read (environment : String → Option String) (text : String) : Except Failure Settings :=
  match (Toml.read (Environment.expand environment text)).bind fun j => ofJson (dropSurplus j) with
  | some settings => .ok settings
  | none => .error (.config "unreadable settings")

/-- A value as a settings file writes it; what is not set is not written. -/
def valueText : Json → Option String
  | .bool value => some (if value then "true" else "false")
  | .integer value => some (Json.integerText value)
  | .string value => some (Toml.quote value)
  | _ => none

def memberLine (member : String × Json) : Option String :=
  (valueText member.2).map fun value => member.1 ++ " = " ++ value ++ "\n"

def sectionText (entry : String × List (String × Json)) : String :=
  "[" ++ entry.1 ++ "]\n" ++ String.join (entry.2.filterMap memberLine)

def fileText (s : Settings) : String := String.intercalate "\n" (s.sections.map sectionText)

end Settings
end Switchboard
