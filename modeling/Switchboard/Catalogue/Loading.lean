import Switchboard.Catalogue.Document
import Switchboard.Failure
import Switchboard.Json.Reader

/-! What a desk keeps at hand for its flow: opening hours and templates by identifier. A later entry
of an identifier replaces an earlier one. A file of templates is added entry by entry, so what stands
before a faulty entry stays. -/
namespace Switchboard

structure Catalogue where
  schedules : Dict ScheduleGroup
  templates : Dict Template
deriving DecidableEq

namespace Catalogue

def empty : Catalogue := ⟨∅, ∅⟩

abbrev Loading := EStateM Failure Catalogue

def addSchedule (group : ScheduleGroup) (c : Catalogue) : Catalogue :=
  { c with schedules := c.schedules.set group.id group }

/-- Keeps a template whatever its buttons. -/
def keepTemplate (template : Template) (c : Catalogue) : Catalogue :=
  { c with templates := c.templates.set template.id template }

def addTemplate (template : Template) : Loading Unit := fun c =>
  match template.fault? with
  | some fault => .error (.catalogue fault.message) c
  | none => .ok () (c.keepTemplate template)

def addTemplates : List Template → Loading Unit
  | [] => fun c => .ok () c
  | template :: rest => fun c =>
    match addTemplate template c with
    | .ok () c => addTemplates rest c
    | .error failure c => .error failure c

def readEntries (read : Json → Option α) : Option String → Except Failure (List α)
  | none => .error .file
  | some text =>
    match (Json.ofText text).bind (Json.readList read) with
    | some entries => .ok entries
    | none => .error .document

def loadSchedules (file : Option String) : Loading Nat := fun c =>
  match readEntries ScheduleGroup.ofJson file with
  | .error failure => .error failure c
  | .ok groups => .ok groups.length (groups.foldl (fun c group => c.addSchedule group) c)

def loadTemplates (file : Option String) : Loading Nat := fun c =>
  match readEntries Template.ofJson file with
  | .error failure => .error failure c
  | .ok templates =>
    match addTemplates templates c with
    | .error failure c => .error failure c
    | .ok () c => .ok templates.length c

def schedule? (c : Catalogue) (id : String) : Option ScheduleGroup := c.schedules.get? id

def template? (c : Catalogue) (id : String) : Option Template := c.templates.get? id

end Catalogue
end Switchboard
