import Switchboard.Json.Token

/-! Reading a document. The reader keeps the arrays and objects that are still open on a stack, so
it is a fold over the lexemes, and nesting costs nothing but the stack. What stands deeper than
the limit is unreadable. -/
namespace Switchboard.Json

/-- An open array or object, last entry first. -/
inductive Frame
  | items (reversed : List Json)
  | members (reversed : List (String × Json)) (readable : Bool)
  /-- An object whose next member has its name, unless the name is unreadable. -/
  | member (name : Option String) (reversed : List (String × Json)) (readable : Bool)

inductive Expected
  | value
  | valueOrClose
  | nameOrClose
  | name
  | colon
  | commaOrClose
  | nothing
deriving DecidableEq

structure Reading where
  stack : List Frame
  expected : Expected
  result : Json

def Reading.start : Reading := ⟨[], .value, .null⟩

def Reading.put (value : Json) : List Frame → Option Reading
  | [] => some ⟨[], .nothing, value⟩
  | .items reversed :: outer => some ⟨.items (value :: reversed) :: outer, .commaOrClose, .null⟩
  | .member (some name) reversed readable :: outer =>
    some ⟨.members ((name, value) :: reversed) readable :: outer, .commaOrClose, .null⟩
  | .member none reversed _ :: outer =>
    some ⟨.members reversed false :: outer, .commaOrClose, .null⟩
  | .members .. :: _ => none

def Frame.value (depth : Nat) : Frame → Json
  | .items reversed => if depth ≤ maxDepth then .array reversed.reverse else .unreadable
  | .members reversed readable | .member _ reversed readable =>
    if readable && depth ≤ maxDepth then .object reversed.reverse else .unreadable

def takesValue (expected : Expected) : Bool := expected == .value || expected == .valueOrClose

def Reading.step (r : Reading) : Token → Option Reading
  | .value value =>
    if takesValue r.expected then Reading.put value r.stack
    else if r.expected == .name || r.expected == .nameOrClose then
      match r.stack, value with
      | .members reversed readable :: outer, .string name =>
        some ⟨.member (some name) reversed readable :: outer, .colon, .null⟩
      | .members reversed readable :: outer, .unreadable =>
        some ⟨.member none reversed readable :: outer, .colon, .null⟩
      | _, _ => none
    else none
  | .openArray =>
    if takesValue r.expected then some ⟨.items [] :: r.stack, .valueOrClose, .null⟩ else none
  | .openObject =>
    if takesValue r.expected then some ⟨.members [] true :: r.stack, .nameOrClose, .null⟩ else none
  | .closeArray =>
    match r.stack with
    | .items reversed :: outer =>
      if r.expected == .valueOrClose || r.expected == .commaOrClose then
        Reading.put (Frame.value r.stack.length (.items reversed)) outer
      else none
    | _ => none
  | .closeObject =>
    match r.stack with
    | .members reversed readable :: outer =>
      if r.expected == .nameOrClose || r.expected == .commaOrClose then
        Reading.put (Frame.value r.stack.length (.members reversed readable)) outer
      else none
    | _ => none
  | .colon =>
    if r.expected == .colon then some { r with expected := .value } else none
  | .comma =>
    if r.expected == .commaOrClose then
      match r.stack with
      | .items _ :: _ => some { r with expected := .value }
      | .members .. :: _ => some { r with expected := .name }
      | _ => none
    else none

def ofTokens (tokens : List Token) : Option Json := do
  let r ← tokens.foldlM Reading.step Reading.start
  if r.expected == .nothing then some r.result else none

/-- The value of a text, with what only some uses of it would reject left in. -/
def ofText (text : String) : Option Json := do
  ofTokens (← tokens text.toList)

/-- The value of a text of which every part is used. -/
def ofWholeText (text : String) : Option Json := do
  whole (← ofText text)

end Switchboard.Json
