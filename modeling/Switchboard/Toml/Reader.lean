import Switchboard.Toml.Scalar
import Switchboard.Toml.Text
import Switchboard.Toml.Tree

/-! Reading a settings file: keys with values, under headers that name the table they belong to. Lists
and inline tables nest, so the reader of values is built level by level. -/
namespace Switchboard.Toml

def maxNesting : Nat := 79

/-- The items of a list after the first bracket or comma, up to the last bracket. Each round uses up
a comma. -/
def items (value : Parser Json) : Nat → Parser (List Json)
  | 0, _ => none
  | rounds + 1, text => do
    match ← skipLines false text with
    | ']' :: rest => return ([], rest)
    | text =>
      let (first, rest) ← value text
      match ← skipLines false rest with
      | ',' :: rest =>
        let (more, rest) ← items value rounds rest
        return (first :: more, rest)
      | ']' :: rest => return ([first], rest)
      | _ => none

def keyValue (value : Parser Json) : Parser (List String × Json) := fun text => do
  let (path, rest) ← key text
  let (v, rest) ← value (skipSpace (← mark? '=' rest))
  return ((path, v), rest)

def inlineEntries (value : Parser Json) : Nat → Entries → Parser Entries
  | 0, _, _ => none
  | rounds + 1, entries, text => do
    let ((path, v), rest) ← keyValue value text
    let entries ← assign path v entries
    match skipSpace rest with
    | ',' :: rest => inlineEntries value rounds entries rest
    | '\x7d' :: rest => return (entries, rest)
    | _ => none

def inlineTable (value : Parser Json) (text : List Char) : Option (Json × List Char) :=
  match skipSpace text with
  | '\x7d' :: rest => some (.object [], rest)
  | text => (inlineEntries value (text.length + 1) [] text).map fun (entries, rest) =>
    (.object (membersOf entries), rest)

def value : Nat → Parser Json
  | depth, text =>
    match text with
    | '"' :: _ | '\'' :: _ => (string text).map fun (s, rest) => (.string s, rest)
    | '[' :: rest =>
      match depth with
      | 0 => none
      | depth + 1 => (items (value depth) (rest.length + 1) rest).map fun (vs, rest) => (.array vs, rest)
    | '\x7b' :: rest =>
      match depth with
      | 0 => none
      | depth + 1 => inlineTable (value depth) rest
    | text => scalar text

structure Reading where
  root : Entries
  header : List String

def line (r : Reading) (text : List Char) : Option (Reading × List Char) :=
  match text with
  | '[' :: '[' :: rest => do
    let (path, rest) ← key rest
    let rest ← endLine (← mark? ']' (← mark? ']' rest))
    return (⟨← openElement path r.root, path⟩, rest)
  | '[' :: rest => do
    let (path, rest) ← key rest
    let rest ← endLine (← mark? ']' rest)
    return (⟨← openTable path r.root, path⟩, rest)
  | text => do
    let ((path, v), rest) ← keyValue (value maxNesting) text
    let rest ← endLine rest
    return (⟨← within r.header (assign path v) r.root, r.header⟩, rest)

/-- All lines. Each round uses up a character. -/
def document : Nat → Reading → List Char → Option Entries
  | 0, _, _ => none
  | rounds + 1, r, text => do
    match ← skipLines false text with
    | [] => return r.root
    | text =>
      let (r, rest) ← line r text
      document rounds r rest

/-- A mark of the byte order may come first. -/
def dropMark : List Char → List Char
  | '\ufeff' :: rest => rest
  | text => text

def read (text : String) : Option Json :=
  let text := dropMark text.toList
  (document (text.length + 1) ⟨[], []⟩ text).map fun root => .object (membersOf root)

end Switchboard.Toml
