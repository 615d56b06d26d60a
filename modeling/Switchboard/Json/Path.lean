import Switchboard.Json.Printer

/-! Finding a value by a dotted path. A part names a member of an object or counts the items of an
array; a count is written in digits, with or without a plus sign. -/
namespace Switchboard.Json

def splitDots : List Char → List (List Char)
  | [] => [[]]
  | '.' :: rest => [] :: splitDots rest
  | c :: rest =>
    match splitDots rest with
    | [] => [[c]]
    | part :: parts => (c :: part) :: parts

def index? (part : List Char) : Option Nat :=
  let digits := match part with
    | '+' :: digits => digits
    | digits => digits
  if digits.isEmpty || !digits.all Char.isDigit then none
  else
    let value := digits.foldl (fun n c => 10 * n + (c.toNat - '0'.toNat)) 0
    if value < Nat.pow 2 64 then some value else none

def child? (value : Json) (part : List Char) : Option Json :=
  match value with
  | .object members => member? (String.ofList part) members
  | .array items => (index? part).bind fun i => items[i]?
  | _ => none

def descend (value : Json) : List (List Char) → Option Json
  | [] => some value
  | part :: parts => (value.child? part).bind (descend · parts)

/-- An empty path leads nowhere. -/
def lookup (value : Json) (path : String) : Option Json :=
  if path == "" then none else descend value (splitDots path.toList)

/-- A value as the text of a variable; null is no value. -/
def plainText : Json → Option String
  | .null => none
  | .string text => some text
  | value => some value.compact

end Switchboard.Json
