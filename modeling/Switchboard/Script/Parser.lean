import Switchboard.Script.Program
import Switchboard.Script.Scanner

/-! From tokens to programs. Parentheses, arguments and signs nest, so the reader of expressions is
built level by level, each from the level below it, down to a level that refuses everything; within
a level, chains of operators and arguments only ever move forward through the tokens. -/
namespace Switchboard.Script

abbrev Parser (α : Type) := List Token → Except Misfit (α × List Token)

def expect (wanted : Token) : List Token → Except Misfit (List Token)
  | [] => .error (.missing wanted)
  | found :: rest => if found = wanted then .ok rest else .error (.mismatched wanted found)

/-- What is read one level deeper. -/
structure Level where
  expr : Parser Expr
  unary : Parser Expr

def Level.beyond : Level := ⟨fun _ => .error .tooDeep, fun _ => .error .tooDeep⟩

/-- Operands joined by operators, grouped to the left. Every round uses up a token. -/
def chain (operand : Parser Expr) (operation? : Token → Option Operation) :
    Nat → Expr → Parser Expr
  | rounds + 1, left, token :: rest =>
    match operation? token with
    | some operation => do
      let (right, rest) ← operand rest
      chain operand operation? rounds (.binary operation left right) rest
    | none => .ok (left, token :: rest)
  | _, left, tokens => .ok (left, tokens)

def arguments (deeper : Level) : Nat → Parser (List Expr)
  | 0, tokens => do
    let (first, rest) ← deeper.expr tokens
    return ([first], rest)
  | rounds + 1, tokens => do
    let (first, rest) ← deeper.expr tokens
    match rest with
    | .comma :: rest =>
      let (more, rest) ← arguments deeper rounds rest
      return (first :: more, rest)
    | rest => return ([first], rest)

def argumentList (deeper : Level) : Parser (List Expr)
  | .closing :: rest => .ok ([], rest)
  | tokens => do
    let (values, rest) ← arguments deeper tokens.length tokens
    return (values, ← expect .closing rest)

def variablesWord : String := "vars"

def named (deeper : Level) (word : String) : Parser Expr
  | .opening :: rest => do
    let (values, rest) ← argumentList deeper rest
    return (.call word values, rest)
  | .dot :: rest =>
    if word = variablesWord then
      match rest with
      | .name key :: rest => .ok (.variable key, rest)
      | _ => .error .noKey
    else .ok (.name word, .dot :: rest)
  | rest => .ok (.name word, rest)

def primary (deeper : Level) : Parser Expr
  | .text value :: rest => .ok (.text value, rest)
  | .number value :: rest => .ok (.number value, rest)
  | .opening :: rest => do
    let (inner, rest) ← deeper.expr rest
    return (inner, ← expect .closing rest)
  | .name word :: rest => named deeper word rest
  | token :: _ => .error (.unexpected token)
  | [] => .error .endOfStatement

def unary (deeper : Level) : Parser Expr
  | .minus :: rest => do
    let (operand, rest) ← deeper.unary rest
    return (.negate operand, rest)
  | tokens => primary deeper tokens

def product? : Token → Option Operation
  | .star => some .multiply
  | .slash => some .divide
  | .percent => some .remainder
  | _ => none

def sum? : Token → Option Operation
  | .plus => some .add
  | .minus => some .subtract
  | _ => none

def term (deeper : Level) : Parser Expr := fun tokens => do
  let (left, rest) ← unary deeper tokens
  chain (unary deeper) product? rest.length left rest

def expr (deeper : Level) : Parser Expr := fun tokens => do
  let (left, rest) ← term deeper tokens
  chain (term deeper) sum? rest.length left rest

/-- The reader that still admits so many levels, its own included. -/
def level : Nat → Level
  | 0 => .beyond
  | depth + 1 => ⟨expr (level depth), unary (level depth)⟩

def fullExpr : Parser Expr := (level (maxNesting + 1)).expr

def target : Parser Target
  | .name word :: .dot :: rest =>
    if word = variablesWord then
      match rest with
      | .name key :: rest => .ok (.variable key, rest)
      | _ => .error .noKey
    else .ok (.name word, .dot :: rest)
  | .name word :: rest => .ok (.name word, rest)
  | _ => .error .noTarget

def isDeclarator (word : String) : Bool := word == "let" || word == "const" || word == "var"

/-- The tokens after a leading `let`, `const` or `var`, which say nothing. -/
def afterDeclarator : List Token → List Token
  | .name word :: rest => if isDeclarator word then rest else .name word :: rest
  | tokens => tokens

def finishWord : String := "return"

def assignment (tokens : List Token) : Except Misfit Statement := do
  let (target, rest) ← target (afterDeclarator tokens)
  let rest ← expect .assign rest
  let (value, rest) ← fullExpr rest
  match rest with
  | [] => return .assign target value
  | token :: _ => throw (.unexpected token)

def statement (tokens : List Token) : Except Misfit Statement :=
  if tokens.head? = some (.name finishWord) then .ok .finish else assignment tokens

def boundedStatement (tokens : List Token) : Except Misfit Statement :=
  if maxTokens < tokens.length then .error .tooLong else statement tokens

def splitStatements : List Token → List (List Token)
  | [] => [[]]
  | token :: rest =>
    if token = .semicolon then [] :: splitStatements rest
    else match splitStatements rest with
      | [] => [[token]]
      | piece :: pieces => (token :: piece) :: pieces

def readLine (line : List Char) : Except Misfit Program := do
  let tokens ← scan (stripComment line)
  ((splitStatements tokens).filter (! ·.isEmpty)).mapM boundedStatement

/-- Reads lines from the given number on, and says which one is no part of a script. -/
def readLines (number : Nat) : List (List Char) → Except (Nat × Misfit) Program
  | [] => .ok []
  | line :: rest =>
    match readLine line with
    | .error misfit => .error (number, misfit)
    | .ok statements =>
      match readLines (number + 1) rest with
      | .error fault => .error fault
      | .ok more => .ok (statements ++ more)

def Program.read (source : String) : Except (Nat × Misfit) Program :=
  readLines 1 (lines source.toList)

end Switchboard.Script
