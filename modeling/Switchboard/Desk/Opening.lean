import Switchboard.Desk.Office
import Switchboard.Flow.Report
import Switchboard.Settings.Document

/-! Opening an office from its settings and the files they name. Nothing opens unless everything can be
read. -/
namespace Switchboard

abbrev Files := String → Option String

/-- What a request may say of its sender: nothing that breaks the line of a header. -/
def HttpSettings.isUsable (h : HttpSettings) : Bool :=
  h.userAgent.toList.all fun c => c == '\t' || (32 ≤ c.toNat && c.toNat != 127)

namespace Catalogue

def loadNamed (load : Option String → Loading Nat) (files : Files) (name : Option String)
    (c : Catalogue) : Except Failure Catalogue :=
  match name with
  | none => .ok c
  | some name =>
    match load (files name) c with
    | .ok _ c => .ok c
    | .error failure _ => .error failure

end Catalogue

def readRoster (files : Files) : Option String → Except Failure (List Operator)
  | none => .ok []
  | some name => Catalogue.readEntries Operator.ofJson (files name)

/-- The settings of a file, or the defaults where there is no such file. -/
def Settings.load (environment : String → Option String) : Option String → Except Failure Settings
  | none => .ok {}
  | some text => Settings.read environment text

def Office.ofFiles (settings : Settings) (flow : String) (files : Files) (clock : Instant) :
    Except Failure Office := do
  let graph ← Graph.ofFile (files flow)
  let catalogue ← Catalogue.loadNamed Catalogue.loadSchedules files settings.files.schedules .empty
  let catalogue ← Catalogue.loadNamed Catalogue.loadTemplates files settings.files.templates catalogue
  let operators ← readRoster files settings.files.operators
  if settings.http.isUsable then return .opening graph settings catalogue operators clock
  else throw (.http "unusable sender")

end Switchboard
