import Switchboard.Desk.Office

/-! Talking to a flow from a terminal: one customer, and one operator who may step in. A simulation is
a function of the lines that are typed; whatever a line causes is shown before the next one is asked
for. -/
namespace Switchboard

structure Simulation where
  office : Office
  session : SessionId
  /-- Who has picked the session up. -/
  operator : Option Operator

structure Shown where
  text : String
  next : Option Simulation

namespace Simulation

def help : String :=
  "Type a reply, or:\n" ++
  "  /button <id>        press a template button\n" ++
  "  /pickup <operator>  pick the session up as an operator\n" ++
  "  /say <text>         reply as the operator\n" ++
  "  /transfer <queue>   move the session to another queue\n" ++
  "  /close              close as the operator\n" ++
  "  /status             show the session\n" ++
  "  /quit               exit\n"

def promptText : String := "> "

/-- A message as a terminal shows it; what the customer says is on the screen already. -/
def messageText (message : Message) : String :=
  let buttons := (message.buttons.getD []).map fun button =>
    "   [" ++ button.id ++ "] " ++ button.label ++ "\n"
  match message.sender with
  | .user => ""
  | sender => sender.name ++ ": " ++ message.text ++ "\n" ++ String.join buttons

def eventText : Event → String
  | .messageAppended _ message => messageText message
  | .statusChanged _ before after => "   (" ++ before.name ++ " -> " ++ after.name ++ ")\n"
  | .flowStalled _ node => "   (flow stopped at " ++ node ++ ")\n"
  | .sessionCreated .. | .flowPaused .. | .flowFinished .. => ""

def newsText (before after : Office) : String :=
  String.join
    ((after.desk.store.journal.drop before.desk.store.journal.length).map eventText)

def greeting (graph : Graph) : String :=
  "Flowdesk v" ++ version ++ "\n" ++
  "Flow: " ++ graph.name ++ " (" ++ graph.id ++ ")\n" ++ help ++ "\n"

/-- A customer who calls; `none` when nobody can be greeted. -/
def begin (office : Office) (fresh : SessionId) (customer : String) : Shown :=
  match Office.start fresh customer office with
  | .ok session after =>
    ⟨greeting office.graph ++ newsText office after, some ⟨after, session.id, none⟩⟩
  | .error _ _ => ⟨greeting office.graph, none⟩

def variablesText (bag : Variables) : String :=
  let sorted := bag.entries.mergeSort fun a b => a.1 ≤ b.1
  String.join (sorted.map fun entry => "  " ++ entry.1 ++ " = " ++ entry.2 ++ "\n")

def statusText (session : Session) : String :=
  let line (label : String) (value : Option String) : String :=
    match value with
    | some value => label ++ ": " ++ value ++ "\n"
    | none => ""
  "Session: " ++ session.id.text ++ " [" ++ session.status.name ++ "]\n" ++
    line "Queue" session.queue ++ line "Operator" session.operatorName ++
    variablesText session.bag

def splitCommand (input : String) : String × String :=
  let chars := input.toList
  let command := chars.takeWhile (· != ' ')
  (String.ofList command, String.ofList (Text.trimChars (chars.drop (command.length + 1))))

def tell (text : String) (s : Simulation) : Shown := ⟨text, some s⟩

/-- Does something at the office. `after` is the operator in charge when it is done, and a session that
is closed ends the simulation. -/
def perform (act : Office.Op α) (after : Option Operator) (s : Simulation) : Shown :=
  match act s.office with
  | .ok _ office => ⟨newsText s.office office, some ⟨office, s.session, after⟩⟩
  | .error (.notAllowed .closed) _ => ⟨"Conversation is closed.\n", none⟩
  | .error failure office =>
    ⟨"Error: " ++ failure.message ++ "\n" ++ newsText s.office office, some { s with office }⟩

def pickup (operator : String) (s : Simulation) : Shown :=
  match s.office.directory.operators.find? (·.id == operator) with
  | none => tell ("Unknown operator: " ++ operator ++ "\n") s
  | some found => perform (Office.pickup s.session found) (some found) s

def asOperator (act : Operator → Simulation → Shown) (s : Simulation) : Shown :=
  match s.operator with
  | none => tell "No operator has picked this session up.\n" s
  | some operator => act operator s

def say (text : String) : Simulation → Shown :=
  asOperator fun operator s =>
    perform (Office.operatorReply s.session operator text) s.operator s

def transfer (queue : String) : Simulation → Shown :=
  asOperator fun _ s => perform (Office.transfer s.session (some queue) none) none s

def close : Simulation → Shown :=
  asOperator fun operator s => perform (Office.close s.session operator) s.operator s

def status (s : Simulation) : Shown :=
  match s.office.desk.store.find? s.session with
  | some session => tell (statusText session) s
  | none => ⟨"", none⟩

def reply (reply : Reply) (s : Simulation) : Shown :=
  perform (Office.reply s.session reply) s.operator s

def run (command argument input : String) (s : Simulation) : Shown :=
  match command with
  | "/quit" | "/exit" | "/q" => ⟨"", none⟩
  | "/help" => tell help s
  | "/status" => status s
  | "/button" => reply ⟨"", some argument⟩ s
  | "/pickup" => pickup argument s
  | "/say" => say argument s
  | "/transfer" => transfer argument s
  | "/close" => close s
  | _ => reply ⟨input, none⟩ s

/-- Blank lines are skipped. -/
def step (line : String) (s : Simulation) : Shown :=
  let input := Text.trim line
  if input == "" then tell "" s
  else
    let (command, argument) := splitCommand input
    run command argument input s

def transcript : List String → Shown → String
  | _, ⟨text, none⟩ => text
  | [], ⟨text, some _⟩ => text ++ promptText
  | line :: rest, ⟨text, some s⟩ => text ++ promptText ++ transcript rest (s.step line)

end Simulation
end Switchboard
