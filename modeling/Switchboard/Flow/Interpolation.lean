import Switchboard.Chat.Session
import Switchboard.Text.WordChar

/-! Filling in variables. A placeholder is a name of word characters between braces; one whose name
has no value stays as it is, and a value is never searched for placeholders. -/
namespace Switchboard
namespace Interpolation

/-- The name of the placeholder whose opening brace stands before this text. -/
def name? (text : List Char) : Option (List Char) :=
  let name := text.takeWhile Text.isWordChar
  if !name.isEmpty && (text.drop name.length).head? == some '\x7d' then some name else none

def replacement (bag : Variables) (name : List Char) : List Char :=
  match bag.get? (String.ofList name) with
  | some value => value.toList
  | none => '\x7b' :: name ++ ['\x7d']

/-- The first `skip` characters belong to a placeholder that is already filled in. -/
def fill (bag : Variables) : Nat → List Char → List Char
  | _, [] => []
  | skip + 1, _ :: rest => fill bag skip rest
  | 0, c :: rest =>
    match if c == '\x7b' then name? rest else none with
    | some name => replacement bag name ++ fill bag (name.length + 1) rest
    | none => c :: fill bag 0 rest

end Interpolation

def Variables.interpolate (bag : Variables) (text : String) : String :=
  String.ofList (Interpolation.fill bag 0 text.toList)

end Switchboard
