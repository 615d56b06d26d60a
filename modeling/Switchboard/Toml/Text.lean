import Switchboard.Text.Blank

/-! Keys and strings of a settings file. Readers take characters from the front and leave the rest. -/
namespace Switchboard.Toml

abbrev Parser (α : Type) := List Char → Option (α × List Char)

def isSpace (c : Char) : Bool := c == ' ' || c == '\t'

def skipSpace (text : List Char) : List Char := text.dropWhile isSpace

/-- Characters that may stand for themselves, line ends aside. -/
def isPlain (c : Char) : Bool := c == '\t' || (32 ≤ c.toNat && c.toNat != 127)

def newline? : List Char → Option (List Char)
  | '\n' :: rest => some rest
  | '\x0d' :: '\n' :: rest => some rest
  | _ => none

def endLine (text : List Char) : Option (List Char) :=
  let rest := match skipSpace text with
    | '#' :: comment => comment.dropWhile isPlain
    | rest => rest
  if rest.isEmpty then some [] else newline? rest

def skipLines (inComment : Bool) : List Char → Option (List Char)
  | [] => some []
  | c :: rest =>
    if c == '\n' then skipLines false rest
    else if c == '\x0d' then (if rest.head? == some '\n' then skipLines false rest else none)
    else if inComment then (if isPlain c then skipLines true rest else none)
    else if isSpace c then skipLines false rest
    else if c == '#' then skipLines true rest
    else some (c :: rest)

def hexValue (c : Char) : Option Nat :=
  if '0' ≤ c && c ≤ '9' then some (c.toNat - '0'.toNat)
  else if 'a' ≤ c && c ≤ 'f' then some (c.toNat - 'a'.toNat + 10)
  else if 'A' ≤ c && c ≤ 'F' then some (c.toNat - 'A'.toNat + 10)
  else none

def codeChar (digits : List Char) : Option Char := do
  let code ← digits.foldlM (fun code c => (hexValue c).map (16 * code + ·)) 0
  if code.isValidChar then some (Char.ofNat code) else none

def simpleEscape : Char → Option Char
  | 'b' => some '\x08' | 't' => some '\t' | 'n' => some '\n' | 'f' => some '\x0c'
  | 'r' => some '\x0d' | '"' => some '"' | '\\' => some '\\'
  | _ => none

def escape : Parser Char
  | 'u' :: a :: b :: c :: d :: rest => (codeChar [a, b, c, d]).map (·, rest)
  | 'U' :: a :: b :: c :: d :: e :: f :: g :: h :: rest =>
    (codeChar [a, b, c, d, e, f, g, h]).map (·, rest)
  | c :: rest => (simpleEscape c).map (·, rest)
  | [] => none

def basic : Nat → List Char → Parser String
  | rounds + 1, reversed, c :: rest =>
    if c == '"' then some (String.ofList reversed.reverse, rest)
    else if c == '\\' then do
      let (e, rest) ← escape rest
      basic rounds (e :: reversed) rest
    else if isPlain c then basic rounds (c :: reversed) rest
    else none
  | _, _, _ => none

def literal (text : List Char) : Option (String × List Char) :=
  let body := text.takeWhile fun c => isPlain c && c != '\''
  match text.drop body.length with
  | '\'' :: rest => some (String.ofList body, rest)
  | _ => none

/-- A line end directly after the opening quotes is no part of the string. -/
def afterOpening (text : List Char) : List Char := (newline? text).getD text

/-- The quotes that belong to a string of several lines, which a run of three to five quotes ends. -/
def closing (quote : Char) (text : List Char) : Option (List Char × List Char) :=
  let run := min 5 (text.takeWhile (· == quote)).length
  if run < 3 then none else some (List.replicate (run - 3) quote, text.drop run)

def skipBlankLines : List Char → List Char
  | ' ' :: rest | '\t' :: rest | '\n' :: rest | '\x0d' :: '\n' :: rest => skipBlankLines rest
  | text => text

/-- What a backslash at the end of a line skips, which is at least a line end. -/
def skipLineEnd (text : List Char) : Option (List Char) :=
  (newline? (skipSpace text)).map skipBlankLines

def multiline : Nat → List Char → Parser String
  | rounds + 1, reversed, text =>
    match closing '"' text, newline? text, text with
    | some (quotes, rest), _, _ => some (String.ofList (reversed.reverse ++ quotes), rest)
    | none, some rest, _ => multiline rounds ('\n' :: reversed) rest
    | none, none, '\\' :: rest =>
      match skipLineEnd rest with
      | some rest => multiline rounds reversed rest
      | none => do
        let (e, rest) ← escape rest
        multiline rounds (e :: reversed) rest
    | none, none, c :: rest => if isPlain c then multiline rounds (c :: reversed) rest else none
    | none, none, [] => none
  | 0, _, _ => none

def multilineLiteral : Nat → List Char → Parser String
  | rounds + 1, reversed, text =>
    match closing '\'' text, newline? text, text with
    | some (quotes, rest), _, _ => some (String.ofList (reversed.reverse ++ quotes), rest)
    | none, some rest, _ => multilineLiteral rounds ('\n' :: reversed) rest
    | none, none, c :: rest =>
      if isPlain c then multilineLiteral rounds (c :: reversed) rest else none
    | none, none, [] => none
  | 0, _, _ => none

def string : Parser String
  | '"' :: '"' :: '"' :: rest => multiline (rest.length + 1) [] (afterOpening rest)
  | '\'' :: '\'' :: '\'' :: rest => multilineLiteral (rest.length + 1) [] (afterOpening rest)
  | '"' :: rest => basic rest.length [] rest
  | '\'' :: rest => literal rest
  | _ => none

def isBare (c : Char) : Bool := c.isAlphanum || c == '_' || c == '-'

def simpleKey : Parser String
  | '"' :: rest => basic rest.length [] rest
  | '\'' :: rest => literal rest
  | text =>
    let name := text.takeWhile isBare
    if name.isEmpty then none else some (String.ofList name, text.drop name.length)

def maxParts : Nat := 79

def keyParts : Nat → Parser (List String)
  | 0, _ => none
  | parts + 1, text => do
    let (part, rest) ← simpleKey (skipSpace text)
    match skipSpace rest with
    | '.' :: rest =>
      let (more, rest) ← keyParts parts rest
      return (part :: more, rest)
    | rest => return ([part], rest)

def key : Parser (List String) := keyParts maxParts

end Switchboard.Toml
