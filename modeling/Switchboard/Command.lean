/-! What can be asked for on the command line. Options stand before what they belong to, with their
value after a blank or an equals sign. -/
namespace Switchboard

inductive Command
  /-- Reports on a flow file. -/
  | validate (file : String)
  /-- Talks to a flow, or to the one that the settings name. -/
  | simulate (flow : Option String) (customer : String)
  /-- Shows the settings in effect. -/
  | config
deriving DecidableEq, Repr

structure Invocation where
  settingsFile : String
  command : Command
deriving DecidableEq, Repr

namespace Command

def defaultCustomer : String := "simulator"

def option? (names : List String) : List String → Option (String × List String)
  | [] => none
  | argument :: rest =>
    match names.findSome? fun name => argument.dropPrefix? (name ++ "=") with
    | some value => some (value.toString, rest)
    | none =>
      match rest with
      | value :: rest => if names.contains argument then some (value, rest) else none
      | [] => none

def simulateOptions (flow : Option String) (customer : String) :
    Nat → List String → Option Command
  | _, [] => some (.simulate flow customer)
  | 0, _ => none
  | rounds + 1, arguments =>
    match option? ["--flow"] arguments, option? ["--customer"] arguments with
    | some (value, rest), _ => simulateOptions (some value) customer rounds rest
    | none, some (value, rest) => simulateOptions flow value rounds rest
    | none, none => none

def ofArguments : List String → Option Command
  | ["validate", file] => some (.validate file)
  | ["config"] => some .config
  | "simulate" :: rest => simulateOptions none defaultCustomer rest.length rest
  | _ => none

end Command

namespace Invocation

def defaultFile : String := "flowdesk.toml"

def ofArguments (arguments : List String) : Option Invocation :=
  match Command.option? ["--config", "-c"] arguments with
  | some (file, rest) => (Command.ofArguments rest).map (⟨file, ·⟩)
  | none => (Command.ofArguments arguments).map (⟨defaultFile, ·⟩)

end Invocation
end Switchboard
