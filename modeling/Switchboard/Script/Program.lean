import Switchboard.Script.Token

/-! What a script says: assignments to variables of the conversation or to names of its own. -/
namespace Switchboard.Script

inductive Operation
  | add | subtract | multiply | divide | remainder
deriving DecidableEq, Repr

inductive Expr
  | text (value : String)
  | number (value : Binary64)
  /-- A variable of the conversation. -/
  | variable (key : String)
  /-- A name of the script, or else a variable. -/
  | name (word : String)
  | negate (operand : Expr)
  | binary (operation : Operation) (left right : Expr)
  | call (function : String) (arguments : List Expr)

inductive Target
  | variable (key : String)
  | name (word : String)
deriving DecidableEq, Repr

inductive Statement
  | assign (target : Target) (value : Expr)
  /-- Ends the script, whatever follows. -/
  | finish

abbrev Program := List Statement

mutual
def Expr.size : Expr → Nat
  | .text _ | .number _ | .variable _ | .name _ => 1
  | .negate operand => operand.size + 1
  | .binary _ left right => left.size + right.size + 1
  | .call _ arguments => Expr.sizes arguments + 1

def Expr.sizes : List Expr → Nat
  | [] => 0
  | e :: rest => e.size + Expr.sizes rest
end

/-- The operations that a program takes: one for every statement up to the end, and one for every
node of an assigned value. -/
def Program.cost : Program → Nat
  | [] => 0
  | .finish :: _ => 1
  | .assign _ value :: rest => 1 + value.size + Program.cost rest

end Switchboard.Script
