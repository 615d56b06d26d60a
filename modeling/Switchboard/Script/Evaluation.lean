import Switchboard.Chat.Session
import Switchboard.Script.Parser
import Switchboard.Settings.Basic
import Switchboard.Text.Blank
import Switchboard.Text.CaseMap

/-! Running a script on the variables of a conversation. Every statement and every node of an
expression counts as one operation against a budget; a script that fails leaves nothing behind. -/
namespace Switchboard.Script

inductive Value
  | text (value : String)
  | number (value : Binary64)
deriving DecidableEq

inductive Fault
  | malformed (line : Nat) (misfit : Misfit)
  | unknownFunction (name : String)
  | unknownVariable (name : String)
  | arity (function : String) (expected got : Nat)
  | notANumber (text : String)
  | divisionByZero
  | budgetExhausted (operations : Nat)
  | valueTooLarge (length limit : Nat)
  | deadline
deriving DecidableEq

def Fault.message : Fault → String
  | malformed line misfit => "line " ++ toString line ++ ": " ++ misfit.message
  | unknownFunction name => "unknown function: " ++ name
  | unknownVariable name => "unknown variable: " ++ name
  | arity function expected got =>
    function ++ " expects " ++ toString expected ++ " argument(s), got " ++ toString got
  | notANumber text => "not a number: " ++ Text.quoted text
  | divisionByZero => "division by zero"
  | budgetExhausted operations =>
    "operation budget of " ++ toString operations ++ " exhausted"
  | valueTooLarge length limit =>
    "value of " ++ toString length ++ " bytes exceeds limit of " ++ toString limit
  | deadline => "deadline exceeded"

/-- Whole numbers below this size are written without a point. -/
def plainLimit : Nat := Nat.pow 10 15

def numberText (n : Binary64) : String :=
  match n with
  | .finite negative units =>
    if n.isWhole && units < plainLimit * Binary64.one then
      let whole := units / Binary64.one
      (if negative && whole != 0 then "-" else "") ++ toString whole
    else NumberStyle.plain.write n
  | _ => NumberStyle.plain.write n

namespace Value

def written : Value → String
  | text value => value
  | number value => numberText value

/-- Blank text counts as zero. -/
def asNumber : Value → Except Fault Binary64
  | number value => .ok value
  | text value =>
    let trimmed := Text.trim value
    if trimmed == "" then .ok (.finite false 0)
    else match Decimal.readFinite trimmed with
      | some n => .ok n
      | none => .error (.notANumber value)

end Value

/-- What a run may use up. Whether the deadline has passed by an operation is the clock's to say. -/
structure Bounds where
  maxOps : Nat
  maxValueLength : Nat
  late : Nat → Bool

/-- A deadline is long past or never comes. -/
def Bounds.ofLimits (limits : ScriptLimits) : Bounds :=
  ⟨limits.maxOps, limits.maxValueLength, fun _ => limits.timeoutMs == 0⟩

/-- Operations between two looks at the clock. -/
def clockPeriod : Nat := 256

abbrev Metered := StateT Nat (Except Fault)

def tick (b : Bounds) : Metered Unit := fun done =>
  if b.maxOps < done + 1 then .error (.budgetExhausted b.maxOps)
  else if (done + 1) % clockPeriod == 0 && b.late (done + 1) then .error .deadline
  else .ok ((), done + 1)

/-- Only texts have a size. -/
def bounded (b : Bounds) : Value → Except Fault Value
  | .text value =>
    if b.maxValueLength < value.utf8ByteSize then
      .error (.valueTooLarge value.utf8ByteSize b.maxValueLength)
    else .ok (.text value)
  | .number value => .ok (.number value)

def quotient (divide : Binary64 → Binary64 → Binary64) (a b : Binary64) : Except Fault Value :=
  if b.isZero then .error .divisionByZero else .ok (.number (divide a b))

/-- Two numbers are added; anything else is joined as text. -/
def sum : Value → Value → Value
  | .number a, .number b => .number (a.add b)
  | a, b => .text (a.written ++ b.written)

def Operation.apply : Operation → Value → Value → Except Fault Value
  | .add, l, r => .ok (sum l r)
  | .subtract, l, r => do return .number ((← l.asNumber).sub (← r.asNumber))
  | .multiply, l, r => do return .number ((← l.asNumber).mul (← r.asNumber))
  | .divide, l, r => do quotient .div (← l.asNumber) (← r.asNumber)
  | .remainder, l, r => do quotient .rem (← l.asNumber) (← r.asNumber)

def function? : String → Option (Value → Except Fault Value)
  | "number" => some fun v => v.asNumber.map .number
  | "string" => some fun v => .ok (.text v.written)
  | "upper" => some fun v => .ok (.text (Text.upper v.written))
  | "lower" => some fun v => .ok (.text (Text.lower v.written))
  | "trim" => some fun v => .ok (.text (Text.trim v.written))
  | "len" => some fun v => .ok (.number (.ofNat v.written.length))
  | "round" => some fun v => v.asNumber.map fun n => .number n.round
  | _ => none

/-- Function names are known in any case. -/
def call (name : String) (arguments : List Value) : Except Fault Value :=
  let key := String.ofList (name.toList.map Char.toLower)
  if key == "concat" then .ok (.text (String.join (arguments.map Value.written)))
  else match function? key with
    | none => .error (.unknownFunction name)
    | some apply =>
      match arguments with
      | [argument] => apply argument
      | arguments => .error (.arity name 1 arguments.length)

structure Scope where
  bag : Variables
  names : Dict Value

namespace Scope

/-- A name of the script hides a variable. -/
def lookup (scope : Scope) (word : String) : Except Fault Value :=
  match scope.names.get? word with
  | some value => .ok value
  | none =>
    match scope.bag.get? word with
    | some value => .ok (.text value)
    | none => .error (.unknownVariable word)

def assign (scope : Scope) (value : Value) : Target → Scope
  | .variable key => { scope with bag := scope.bag.set key value.written }
  | .name word => { scope with names := scope.names.set word value }

end Scope

mutual
def eval (b : Bounds) (scope : Scope) : Expr → Metered Value
  | .text value => do tick b; bounded b (.text value)
  | .number value => do tick b; bounded b (.number value)
  | .variable key => do tick b; bounded b (.text ((scope.bag.get? key).getD ""))
  | .name word => do tick b; bounded b (← scope.lookup word)
  | .negate operand => do
    tick b
    let value ← eval b scope operand
    bounded b (.number (← value.asNumber).neg)
  | .binary operation left right => do
    tick b
    let l ← eval b scope left
    let r ← eval b scope right
    bounded b (← operation.apply l r)
  | .call function arguments => do
    tick b
    let values ← evalAll b scope arguments
    bounded b (← call function values)

def evalAll (b : Bounds) (scope : Scope) : List Expr → Metered (List Value)
  | [] => pure []
  | e :: rest => do
    let value ← eval b scope e
    let values ← evalAll b scope rest
    return value :: values
end

def run (b : Bounds) : Program → Scope → Metered Variables
  | [], scope => pure scope.bag
  | .finish :: _, scope => do tick b; return scope.bag
  | .assign target value :: rest, scope => do
    tick b
    let value ← eval b scope value
    run b rest (scope.assign value target)

def runProgram (b : Bounds) (bag : Variables) (program : Program) :
    Except Fault Variables :=
  (run b program ⟨bag, ∅⟩ 0).map Prod.fst

def evaluate (b : Bounds) (bag : Variables) (source : String) : Except Fault Variables :=
  match Program.read source with
  | .ok program => runProgram b bag program
  | .error (line, misfit) => .error (.malformed line misfit)

end Switchboard.Script
