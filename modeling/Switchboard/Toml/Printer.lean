import Switchboard.Json.Printer

/-! Writing strings of a settings file. Of the four forms a string takes the first that needs no
escapes, and escapes inside double quotes where none does. -/
namespace Switchboard.Toml

def longestRun (c : Char) (current best : Nat) : List Char → Nat
  | [] => max current best
  | d :: rest =>
    if d == c then longestRun c (current + 1) best rest else longestRun c 0 (max current best) rest

def isControl (c : Char) : Bool := (c.toNat < 32 && c != '\t' && c != '\n') || c.toNat == 127

inductive StringForm
  | basic | literal | multiline | multilineLiteral
deriving DecidableEq

namespace StringForm

def quotes : StringForm → List Char
  | basic => ['"']
  | literal => ['\'']
  | multiline => ['"', '"', '"']
  | multilineLiteral => ['\'', '\'', '\'']

def spansLines : StringForm → Bool
  | multiline | multilineLiteral => true
  | basic | literal => false

def ofText (text : List Char) : StringForm :=
  let controls := text.any isControl
  let backslash := text.contains '\\'
  let lines := text.contains '\n'
  let doubles := longestRun '"' 0 0 text
  let singles := longestRun '\'' 0 0 text
  if !controls && !backslash && doubles == 0 && !lines then basic
  else if !controls && singles == 0 && !lines then literal
  else if !controls && !backslash && doubles ≤ 2 then multiline
  else if !controls && singles ≤ 2 then multilineLiteral
  else if lines then multiline
  else basic

end StringForm

def hexCode (c : Char) : List Char :=
  ['\\', 'u'] ++ (Json.hexFour c.toNat).map Char.toUpper

def escapeChar (form : StringForm) (c : Char) : List Char :=
  if c == '\\' then ['\\', '\\']
  else if c == '\x08' then ['\\', 'b']
  else if c == '\t' then ['\\', 't']
  else if c == '\n' then (if form.spansLines then ['\n'] else ['\\', 'n'])
  else if c == '\x0c' then ['\\', 'f']
  else if c == '\x0d' then ['\\', 'r']
  else if isControl c then hexCode c
  else [c]

/-- Escapes a text; `allowed` double quotes in a row stand as they are. -/
def escaped (form : StringForm) (allowed run : Nat) : List Char → List Char
  | [] => []
  | c :: rest =>
    if c == '"' then
      if run < allowed then c :: escaped form allowed (run + 1) rest
      else '\\' :: c :: escaped form allowed 0 rest
    else escapeChar form c ++ escaped form allowed 0 rest

def quoteChars (text : List Char) : List Char :=
  let form := StringForm.ofText text
  let opening := if form.spansLines && text.contains '\n' then ['\n'] else []
  let body := match form with
    | .basic => escaped form 0 0 text
    | .multiline => escaped form 2 0 text
    | .literal | .multilineLiteral => text
  form.quotes ++ opening ++ body ++ form.quotes

def quote (text : String) : String := String.ofList (quoteChars text.toList)

end Switchboard.Toml
