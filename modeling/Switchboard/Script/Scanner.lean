import Switchboard.Number.Decimal
import Switchboard.Script.Token
import Switchboard.Text.Alphabetic

/-! From characters to tokens. Lines are scanned one by one, each after its comment is cut off; the
scanner is a fold over the characters, since no token needs more than the next one to know its end. -/
namespace Switchboard.Script

def isQuote (c : Char) : Bool := c == '"' || c == '\''

def dropReturn (reversed : List Char) : List Char :=
  match reversed with
  | '\x0d' :: rest => rest.reverse
  | _ => reversed.reverse

/-- The lines of a text; what follows the last line feed is a line unless it is empty. -/
def linesFrom (reversed : List Char) : List Char → List (List Char)
  | [] => if reversed.isEmpty then [] else [reversed.reverse]
  | c :: rest =>
    if c == '\n' then dropReturn reversed :: linesFrom [] rest else linesFrom (c :: reversed) rest

def lines (text : List Char) : List (List Char) := linesFrom [] text

/-- A line without its comment. Inside a text, which a quote ends unless a backslash stands before
it, nothing begins a comment. -/
def withoutComment (quote : Option Char) (previous : Char) : List Char → List Char
  | [] => []
  | c :: rest =>
    match quote with
    | some q =>
      c :: withoutComment (if c == q && previous != '\\' then none else some q) c rest
    | none =>
      if isQuote c then c :: withoutComment (some c) c rest
      else if c == '#' || (c == '/' && rest.head? == some '/') then []
      else c :: withoutComment none c rest

def stripComment (line : List Char) : List Char := withoutComment none '\x00' line

inductive Mode
  | between
  | text (quote : Char) (reversed : List Char)
  /-- In a text, after a backslash. -/
  | escape (quote : Char) (reversed : List Char)
  | number (reversed : List Char)
  | name (reversed : List Char)

structure Scanning where
  tokens : List Token
  mode : Mode

def isSpace (c : Char) : Bool := c == ' ' || c == '\t' || c == '\x0d'

def mark? : Char → Option Token
  | '.' => some .dot | ',' => some .comma | '=' => some .assign | '+' => some .plus
  | '-' => some .minus | '*' => some .star | '/' => some .slash | '%' => some .percent
  | '(' => some .opening | ')' => some .closing | ';' => some .semicolon
  | _ => none

def isNameStart (c : Char) : Bool := Text.isAlphabetic c || c == '_'

def isNameChar (c : Char) : Bool := Text.isAlphanumeric c || c == '_'

def isNumberChar (c : Char) : Bool := c.isDigit || c == '.'

def unescape : Char → Char
  | 'n' => '\n'
  | 't' => '\t'
  | c => c

namespace Scanning

def start : Scanning := ⟨[], .between⟩

def begin (tokens : List Token) (c : Char) : Except Misfit Scanning :=
  if isSpace c then .ok ⟨tokens, .between⟩
  else if isQuote c then .ok ⟨tokens, .text c []⟩
  else if c.isDigit then .ok ⟨tokens, .number [c]⟩
  else if isNameStart c then .ok ⟨tokens, .name [c]⟩
  else match mark? c with
    | some mark => .ok ⟨mark :: tokens, .between⟩
    | none => .error (.unexpectedCharacter c)

def nameToken (reversed : List Char) : Token := .name (String.ofList reversed.reverse)

def numberToken (reversed : List Char) : Except Misfit Token :=
  match Decimal.readChars reversed.reverse with
  | some value => .ok (.number value)
  | none => .error (.badNumber (String.ofList reversed.reverse))

def read (s : Scanning) (c : Char) : Except Misfit Scanning :=
  match s.mode with
  | .between => begin s.tokens c
  | .text quote reversed =>
    if c == quote then .ok ⟨.text (String.ofList reversed.reverse) :: s.tokens, .between⟩
    else if c == '\\' then .ok { s with mode := .escape quote reversed }
    else .ok { s with mode := .text quote (c :: reversed) }
  | .escape quote reversed => .ok { s with mode := .text quote (unescape c :: reversed) }
  | .number reversed =>
    if isNumberChar c then .ok { s with mode := .number (c :: reversed) }
    else match numberToken reversed with
      | .ok token => begin (token :: s.tokens) c
      | .error misfit => .error misfit
  | .name reversed =>
    if isNameChar c then .ok { s with mode := .name (c :: reversed) }
    else begin (nameToken reversed :: s.tokens) c

def finish (s : Scanning) : Except Misfit (List Token) :=
  match s.mode with
  | .between => .ok s.tokens.reverse
  | .text .. => .error .unterminatedText
  | .escape .. => .error .danglingEscape
  | .number reversed =>
    match numberToken reversed with
    | .ok token => .ok (token :: s.tokens).reverse
    | .error misfit => .error misfit
  | .name reversed => .ok (nameToken reversed :: s.tokens).reverse

end Scanning

def scanFrom (s : Scanning) : List Char → Except Misfit (List Token)
  | [] => s.finish
  | c :: rest =>
    match s.read c with
    | .ok s => scanFrom s rest
    | .error misfit => .error misfit

def scan (line : List Char) : Except Misfit (List Token) := scanFrom .start line

end Switchboard.Script
