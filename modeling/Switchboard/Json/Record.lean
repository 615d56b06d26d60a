import Switchboard.Dict
import Switchboard.Json.Value

/-! Reading typed values out of documents. A record is an object, or an array of its fields in
order; each field may have several names but may be given only once, and members that name no field
are skipped. -/
namespace Switchboard.Json

abbrev Fields := List (List String)

/-- The value of a field: `some none` when it is missing, `none` when it is given twice. -/
def pick (members : List (String × Json)) (names : List String) : Option (Option Json) :=
  match members.filter (names.contains ·.1) with
  | [] => some none
  | [member] => some (some member.2)
  | _ => none

def slots (fields : Fields) : Json → Option (List (Option Json))
  | .object members => fields.mapM (pick members)
  | .array items =>
    if items.length ≤ fields.length then
      some (items.map some ++ List.replicate (fields.length - items.length) none)
    else none
  | _ => none

def required (read : Json → Option α) (slot : Option Json) : Option α := slot.bind read

def withDefault (default : α) (read : Json → Option α) : Option Json → Option α
  | none => some default
  | some value => read value

def readString : Json → Option String
  | .string value => some value
  | _ => none

def readBool : Json → Option Bool
  | .bool value => some value
  | _ => none

def readInt (low high : Int) : Json → Option Int
  | .integer value => if low ≤ value ∧ value ≤ high then some value else none
  | _ => none

def maxWord : Nat := Nat.pow 2 64 - 1

def readWord (value : Json) : Option Nat := (readInt 0 maxWord value).map Int.toNat

def readOption (read : Json → Option α) : Json → Option (Option α)
  | .null => some none
  | value => (read value).map some

def readList (read : Json → Option α) : Json → Option (List α)
  | .array items => items.mapM read
  | _ => none

def readDict (read : Json → Option α) : Json → Option (Dict α)
  | .object members =>
    (members.mapM fun m => (read m.2).map fun value => (m.1, value)).map Dict.ofList
  | _ => none

/-- The name of a case without content: the name itself, or an object with that name and null. -/
def readName : Json → Option String
  | .string name => some name
  | .object [(name, .null)] => some name
  | _ => none

/-- The same in a value that is taken as a whole before it is judged: there an empty object says as
little as null. -/
def readNameInWhole : Json → Option String
  | .object [(name, .object [])] => some name
  | value => readName value

def ofOption (write : α → Json) (value : Option α) : Json := (value.map write).getD .null

def ofStrings (values : List String) : Json := .array (values.map .string)

def ofDict (write : α → Json) (dict : Dict α) : Json :=
  .object (dict.entries.map fun entry => (entry.1, write entry.2))

@[simp] theorem readString_string (s : String) : readString (.string s) = some s := rfl

@[simp] theorem readOption_string (value : Option String) :
    readOption readString (ofOption .string value) = some value := by
  cases value <;> rfl

theorem readList_map {read : Json → Option α} {write : α → Json} {values : List α}
    (agree : ∀ a ∈ values, read (write a) = some a) :
    readList read (.array (values.map write)) = some values := by
  simp only [readList]
  induction values with
  | nil => rfl
  | cons a rest ih =>
    have first := agree a List.mem_cons_self
    simp [first, ih fun b member => agree b (List.mem_cons_of_mem a member)]

end Switchboard.Json
