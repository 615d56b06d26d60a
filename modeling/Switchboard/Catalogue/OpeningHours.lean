import Switchboard.Calendar.Timestamp
import Switchboard.Dict
import Switchboard.Text.CaseMap

/-! Weekly opening hours. Rules stand under names of weekdays, of which there are English and
Portuguese ones; the clock is compared by the minute, and both ends of a window belong to it. -/
namespace Switchboard

structure DayRule where
  active : Bool
  opening : String
  closing : String
deriving DecidableEq, Repr

namespace DayRule

def opened (opening closing : String) : DayRule := ⟨true, opening, closing⟩

def closed : DayRule := ⟨false, "00:00", "00:00"⟩

end DayRule

structure ScheduleGroup where
  id : String
  name : String
  rules : Dict DayRule
deriving DecidableEq

namespace Weekday

/-- Names that end in `-feira` are also known without it. -/
def stripSuffix (name : List Char) : List Char :=
  let suffix := "-feira".toList
  if suffix.isSuffixOf name then name.take (name.length - suffix.length) else name

def ofKey : String → Option Weekday
  | "monday" | "mon" | "segunda" | "seg" => some monday
  | "tuesday" | "tue" | "terça" | "terca" | "ter" => some tuesday
  | "wednesday" | "wed" | "quarta" | "qua" => some wednesday
  | "thursday" | "thu" | "quinta" | "qui" => some thursday
  | "friday" | "fri" | "sexta" | "sex" => some friday
  | "saturday" | "sat" | "sábado" | "sabado" | "sab" => some saturday
  | "sunday" | "sun" | "domingo" | "dom" => some sunday
  | _ => none

def ofName (name : String) : Option Weekday :=
  ofKey (String.ofList (stripSuffix (Text.lower (Text.trim name)).toList))

end Weekday

/-- A time of day in minutes, written as hours and minutes of one or two digits. -/
def readClock (text : String) : Option Nat := do
  let (hour, rest) ← Timestamp.readNumber 2 (Text.trimChars text.toList)
  match rest with
  | ':' :: rest =>
    let (minute, rest) ← Timestamp.readNumber 2 rest
    if rest.isEmpty && hour < 24 && minute < 60 then some (60 * hour + minute) else none
  | _ => none

/-- Whether a minute of the day lies in the window; a window with an unreadable end is closed. -/
def DayRule.contains (rule : DayRule) (minute : Nat) : Bool :=
  match readClock rule.opening, readClock rule.closing with
  | some opening, some closing => rule.active && opening ≤ minute && minute ≤ closing
  | _, _ => false

namespace ScheduleGroup

def ruleFor (group : ScheduleGroup) (day : Weekday) : Option DayRule :=
  (group.rules.entries.find? fun rule => Weekday.ofName rule.1 == some day).map Prod.snd

def isOpen (group : ScheduleGroup) (here : Instant) : Bool :=
  match group.ruleFor here.weekday with
  | some rule => rule.contains here.minuteOfDay
  | none => false

end ScheduleGroup

def localTime (now : Instant) (offsetHours : Int) : Instant := now.addHours offsetHours

end Switchboard
