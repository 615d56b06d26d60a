import Switchboard.Chat.Message
import Switchboard.Text.Blank
import Switchboard.Failure

/-! Messages with buttons. A template is shown only as long as a chat window has room for its
buttons and each of them says something. -/
namespace Switchboard

structure Template where
  id : String
  name : String
  text : String
  buttons : List Button
deriving DecidableEq, Repr

namespace Template

def maxButtons : Nat := 3

inductive Fault
  | tooManyButtons (template : String) (count : Nat)
  | emptyLabel (template button : String)
deriving DecidableEq, Repr

def Fault.message : Fault → String
  | tooManyButtons template count =>
    "template '" ++ template ++ "' has " ++ toString count ++ " buttons (max "
      ++ toString maxButtons ++ ")"
  | emptyLabel template button =>
    "template '" ++ template ++ "' button '" ++ button ++ "' has an empty label"

/-- The number of buttons is judged before their labels. -/
def fault? (template : Template) : Option Fault :=
  if maxButtons < template.buttons.length then
    some (.tooManyButtons template.id template.buttons.length)
  else
    (template.buttons.find? (Text.isBlankText ·.label)).map fun button =>
      .emptyLabel template.id button.id

def hasButton (template : Template) (id : String) : Bool := template.buttons.any (·.id == id)

theorem fault?_eq_none_iff (template : Template) :
    template.fault? = none ↔ template.buttons.length ≤ maxButtons ∧
      ∀ button ∈ template.buttons, Text.isBlankText button.label = false := by
  unfold fault?
  split
  · next h => simp; omega
  · next h => simp; omega

end Template
end Switchboard
