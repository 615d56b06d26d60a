import Switchboard.Number.Decimal
import Switchboard.Text.Blank

/-! Comparing a value with a literal. Two numbers are compared as numbers, however they are written;
anything else is compared as text, and text has no order. -/
namespace Switchboard

inductive Comparison
  | equal | different | greater | less
deriving DecidableEq, Repr, Inhabited

namespace Comparison

def name : Comparison → String
  | equal => "==" | different => "!=" | greater => ">" | less => "<"

def ofName : String → Option Comparison
  | "==" => some equal | "!=" => some different | ">" => some greater | "<" => some less
  | _ => none

/-- The finite number that a text writes, in units, blanks around it aside. -/
def number? (text : String) : Option Int :=
  (Decimal.readChars (Text.trimChars text.toList)).bind Binary64.units?

def holdsBetween (a b : Int) : Comparison → Bool
  | equal => a == b
  | different => a != b
  | greater => b < a
  | less => a < b

def holds (comparison : Comparison) (value literal : String) : Bool :=
  match number? value, number? literal with
  | some a, some b => comparison.holdsBetween a b
  | _, _ =>
    match comparison with
    | equal => value == literal
    | different => value != literal
    | greater | less => false

end Comparison
end Switchboard
