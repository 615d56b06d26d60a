import Std.Time.DateTime.Timestamp
import Switchboard.Command
import Switchboard.Desk.Opening
import Switchboard.Desk.Simulation

/-! The program: reads its files, its environment and the terminal, and prints what the library makes of
them. -/
open Switchboard

namespace Switchboard.Terminal

def readText (path : String) : IO (Option String) := do
  try
    return some (← IO.FS.readFile path)
  catch _ => return none

def readFiles (paths : List String) : IO Files := do
  let mut contents : Dict String := ∅
  for path in paths do
    if let some text ← readText path then contents := contents.set path text
  return contents.get?

def environmentOf (text : String) : IO (String → Option String) := do
  let mut values : Variables := ∅
  for name in Environment.names text.toList do
    if let some value ← IO.getEnv name then values := values.set name value
  return values.get?

def now : IO Instant := do
  let t := (← Std.Time.Timestamp.now).toNanosecondsSinceUnixEpoch.val
  return ⟨t / 1000000000, (t % 1000000000).toNat⟩

def freshId : IO SessionId := do return .ofNumber (← IO.rand 0 (Nat.pow 2 128 - 1))

def fail (failure : Failure) : IO UInt32 := do
  IO.eprintln ("Error: " ++ failure.message)
  return 1

def loadSettings (path : String) : IO (Except Failure Settings) := do
  match ← readText path with
  | none => return Settings.load (fun _ => none) none
  | some text => return Settings.load (← environmentOf text) (some text)

def validate (file : String) : IO UInt32 := do
  match Graph.ofFile (← readText file) with
  | .error failure => fail failure
  | .ok graph =>
    IO.print graph.report
    return 0

def config (settings : Settings) : IO UInt32 := do
  IO.println settings.fileText
  return 0

partial def converse (shown : Shown) : IO Unit := do
  IO.print shown.text
  if let some simulation := shown.next then
    IO.print Simulation.promptText
    (← IO.getStdout).flush
    let line ← (← IO.getStdin).getLine
    if line != "" then converse (simulation.step line)

def simulate (settings : Settings) (flow : Option String) (customer : String) : IO UInt32 := do
  match flow.or settings.files.flow with
  | none => fail (.config "no flow given")
  | some flow =>
    let files := settings.files
    let paths := flow :: [files.schedules, files.templates, files.operators].filterMap id
    match Office.ofFiles settings flow (← readFiles paths) (← now) with
    | .error failure => fail failure
    | .ok office =>
      converse (Simulation.begin office (← freshId) customer)
      return 0

def run (invocation : Invocation) : IO UInt32 := do
  match invocation.command with
  | .validate file => validate file
  | .config =>
    match ← loadSettings invocation.settingsFile with
    | .error failure => fail failure
    | .ok settings => config settings
  | .simulate flow customer =>
    match ← loadSettings invocation.settingsFile with
    | .error failure => fail failure
    | .ok settings => simulate settings flow customer

def usage : String :=
  "usage: flowdesk [--config FILE] (validate FILE | config | simulate [--flow FILE] [--customer NAME])"

end Switchboard.Terminal

def main (arguments : List String) : IO UInt32 := do
  match Invocation.ofArguments arguments with
  | some invocation => Terminal.run invocation
  | none =>
    IO.eprintln Terminal.usage
    return 2
