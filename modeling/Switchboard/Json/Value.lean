import Switchboard.Number.Binary64

/-! Document values. A reader keeps the members of an object in the order of the text, repeated
names included, because what a repeated name means depends on who asks. `unreadable` stands for a
value whose syntax is sound and which still denotes nothing, such as a number beyond every double:
skipping it is harmless and using it is an error. -/
namespace Switchboard

inductive Json
  | null
  | bool (value : Bool)
  | integer (value : Int)
  | double (value : Binary64)
  | string (value : String)
  | array (items : List Json)
  | object (members : List (String × Json))
  | unreadable
deriving Inhabited

namespace Json

def maxDepth : Nat := 127

/-- The last member of a name decides its value. -/
def member? (name : String) (members : List (String × Json)) : Option Json :=
  (members.reverse.lookup name)

def dropRepeated : List (String × Json) → List (String × Json)
  | [] => []
  | m :: rest => if rest.any (·.1 == m.1) then dropRepeated rest else m :: dropRepeated rest

mutual
/-- The value taken as a whole: nothing in it is unreadable, and each name keeps its last value. -/
def whole : Json → Option Json
  | .array items => (wholeItems items).map .array
  | .object members => (wholeMembers members).map fun ms => .object (dropRepeated ms)
  | .unreadable => none
  | value => some value

def wholeItems : List Json → Option (List Json)
  | [] => some []
  | item :: rest => do return (← whole item) :: (← wholeItems rest)

def wholeMembers : List (String × Json) → Option (List (String × Json))
  | [] => some []
  | (name, value) :: rest => do return (name, ← whole value) :: (← wholeMembers rest)
end

end Json
end Switchboard
