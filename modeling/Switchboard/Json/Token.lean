import Switchboard.Json.Number

/-! Lexemes of a document. The lexer is an automaton, so reading is one fold over the characters:
a mode says what the characters since the last complete lexeme can still become. -/
namespace Switchboard.Json

inductive Token
  | openArray
  | closeArray
  | openObject
  | closeObject
  | colon
  | comma
  | value (value : Json)

/-- Characters of a text literal, last first; `none` once an escape denoted no character. -/
abbrev Spelled := Option (List Char)

inductive Mode
  | between
  /-- A number or one of the three words. -/
  | word (reversed : List Char)
  | text (spelled : Spelled)
  | escape (spelled : Spelled)
  /-- Inside `\u`, with the digits read so far. -/
  | code (spelled : Spelled) (value digits : Nat)
  /-- After the first half of a surrogate pair. -/
  | half (spelled : Spelled) (high : Nat)
  | halfEscape (spelled : Spelled) (high : Nat)
  | halfCode (spelled : Spelled) (high value digits : Nat)

def isSpace (c : Char) : Bool := c == ' ' || c == '\t' || c == '\n' || c == '\r'

def isWordChar (c : Char) : Bool := c.isAlphanum || c == '-' || c == '+' || c == '.'

def hexValue (c : Char) : Option Nat :=
  if c.isDigit then some (c.toNat - '0'.toNat)
  else if 'a' ≤ c ∧ c ≤ 'f' then some (c.toNat - 'a'.toNat + 10)
  else if 'A' ≤ c ∧ c ≤ 'F' then some (c.toNat - 'A'.toNat + 10)
  else none

def simpleEscape : Char → Option Char
  | '"' => some '"'
  | '\\' => some '\\'
  | '/' => some '/'
  | 'b' => some '\x08'
  | 'f' => some '\x0c'
  | 'n' => some '\n'
  | 'r' => some '\r'
  | 't' => some '\t'
  | _ => none

def isHigh (code : Nat) : Bool := 0xD800 ≤ code && code < 0xDC00

def isLow (code : Nat) : Bool := 0xDC00 ≤ code && code < 0xE000

def Spelled.add (spelled : Spelled) (c : Char) : Spelled := spelled.map (c :: ·)

def readLiteral : List Char → Option Json
  | ['n', 'u', 'l', 'l'] => some .null
  | ['t', 'r', 'u', 'e'] => some (.bool true)
  | ['f', 'a', 'l', 's', 'e'] => some (.bool false)
  | text => readNumber text

def startToken (c : Char) : Option (List Token × Mode) :=
  if isSpace c then some ([], .between)
  else if c == '"' then some ([], .text (some []))
  else if isWordChar c then some ([], .word [c])
  else match c with
    | '[' => some ([.openArray], .between)
    | ']' => some ([.closeArray], .between)
    | '\x7b' => some ([.openObject], .between)
    | '\x7d' => some ([.closeObject], .between)
    | ':' => some ([.colon], .between)
    | ',' => some ([.comma], .between)
    | _ => none

def stepText (spelled : Spelled) (c : Char) : Option (List Token × Mode) :=
  if c == '"' then
    some ([.value (spelled.elim .unreadable fun cs => .string (String.ofList cs.reverse))], .between)
  else if c == '\\' then some ([], .escape spelled)
  else if c.toNat < 32 then none
  else some ([], .text (spelled.add c))

def endCode (spelled : Spelled) (code : Nat) : Mode :=
  if isHigh code then .half spelled code
  else if isLow code then .text none
  else .text (spelled.add (Char.ofNat code))

def endPair (spelled : Spelled) (high low : Nat) : Mode :=
  if isLow low then
    .text (spelled.add (Char.ofNat (0x10000 + (high - 0xD800) * 0x400 + (low - 0xDC00))))
  else .text none

def step : Mode → Char → Option (List Token × Mode)
  | .between, c => startToken c
  | .word reversed, c =>
    if isWordChar c then some ([], .word (c :: reversed))
    else do
      let value ← readLiteral reversed.reverse
      let (tokens, mode) ← startToken c
      return (.value value :: tokens, mode)
  | .text spelled, c => stepText spelled c
  | .escape spelled, c =>
    if c == 'u' then some ([], .code spelled 0 0)
    else (simpleEscape c).map fun e => ([], .text (spelled.add e))
  | .code spelled value digits, c => do
    let value := 16 * value + (← hexValue c)
    return ([], if digits == 3 then endCode spelled value else .code spelled value (digits + 1))
  | .half spelled high, c =>
    if c == '\\' then some ([], .halfEscape spelled high) else stepText none c
  | .halfEscape spelled high, c =>
    if c == 'u' then some ([], .halfCode spelled high 0 0)
    else (simpleEscape c).map fun _ => ([], .text none)
  | .halfCode spelled high value digits, c => do
    let value := 16 * value + (← hexValue c)
    return ([], if digits == 3 then endPair spelled high value
      else .halfCode spelled high value (digits + 1))

def scan : Mode → List Char → Option (List Token)
  | .between, [] => some []
  | .word reversed, [] => (readLiteral reversed.reverse).map fun value => [.value value]
  | _, [] => none
  | mode, c :: rest => do
    let (tokens, mode) ← step mode c
    return tokens ++ (← scan mode rest)

def tokens (text : List Char) : Option (List Token) := scan .between text

end Switchboard.Json
