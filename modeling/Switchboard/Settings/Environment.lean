import Switchboard.Dict

/-! Settings may name variables of the environment. A name stands between a dollar sign with a brace
and the next brace; what is not set stays as it is written, and a value is never searched again. -/
namespace Switchboard.Environment

/-- The name whose opening mark stands before this text. -/
def name? (text : List Char) : Option (List Char) :=
  let name := text.takeWhile (· != '\x7d')
  if name.length < text.length then some name else none

def mark (name : List Char) : List Char := ['$', '\x7b'] ++ name ++ ['\x7d']

/-- The first `skip` characters belong to a name that is already replaced. -/
def expandFrom (environment : String → Option String) : Nat → List Char → List Char
  | _, [] => []
  | skip + 1, _ :: rest => expandFrom environment skip rest
  | 0, c :: rest =>
    match if c == '$' && rest.head? == some '\x7b' then name? (rest.drop 1) else none with
    | none => c :: expandFrom environment 0 rest
    | some name =>
      let value := (environment (String.ofList name)).map String.toList
      value.getD (mark name) ++ expandFrom environment (name.length + 2) rest

def expand (environment : String → Option String) (text : String) : String :=
  String.ofList (expandFrom environment 0 text.toList)

def names : List Char → List String
  | [] => []
  | c :: rest =>
    match if c == '$' && rest.head? == some '\x7b' then name? (rest.drop 1) else none with
    | none => names rest
    | some name => String.ofList name :: names rest

end Switchboard.Environment
