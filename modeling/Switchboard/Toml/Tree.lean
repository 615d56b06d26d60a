import Switchboard.Json.Value

/-! The tables of a settings file while it is read. A table that only a longer name has mentioned is
implicit, and may still be written out once; one that a dotted key has made belongs to that key's
table and can only grow by further dotted keys. -/
namespace Switchboard.Toml

inductive Item
  | value (value : Json)
  | table (isImplicit byKey : Bool) (entries : List (String × Item))
  /-- A list of tables, of which the last is open. -/
  | tables (earlier : List (List (String × Item))) (last : List (String × Item))

abbrev Entries := List (String × Item)

def put (key : String) (item : Item) : Entries → Entries
  | [] => [(key, item)]
  | entry :: rest =>
    if entry.1 = key then (key, item) :: rest else entry :: put key item rest

/-- Changes the table at the end of a path and makes the tables on the way there. The change is told
whether a dotted key has made its table. -/
def descend (byKey : Bool) (change : Bool → Entries → Option Entries) :
    List String → Bool → Entries → Option Entries
  | [], madeByKey, entries => change madeByKey entries
  | key :: path, _, entries =>
    match entries.lookup key with
    | none =>
      (descend byKey change path byKey []).map fun child =>
        entries ++ [(key, .table true byKey child)]
    | some (.value _) => none
    | some (.tables earlier last) =>
      (descend byKey change path false last).map fun last => put key (.tables earlier last) entries
    | some (.table isImplicit madeByKey child) =>
      if byKey && !isImplicit then none
      else (descend byKey change path madeByKey child).map fun child =>
        put key (.table isImplicit madeByKey child) entries

def assign (path : List String) (value : Json) (entries : Entries) : Option Entries :=
  match path.getLast? with
  | none => none
  | some key =>
    let parents := path.dropLast
    let add (byKey : Bool) (entries : Entries) : Option Entries :=
      if byKey == parents.isEmpty || (entries.lookup key).isSome then none
      else some (entries ++ [(key, .value value)])
    descend true add parents false entries

def within (path : List String) (change : Entries → Option Entries) (entries : Entries) :
    Option Entries :=
  descend false (fun _ => change) path false entries

def openTable (path : List String) (root : Entries) : Option Entries :=
  match path.getLast? with
  | none => none
  | some key =>
    let header (entries : Entries) : Option Entries :=
      match entries.lookup key with
      | none => some (entries ++ [(key, .table false false [])])
      | some (.table true false child) => some (put key (.table false false child) entries)
      | some _ => none
    within path.dropLast header root

def openElement (path : List String) (root : Entries) : Option Entries :=
  match path.getLast? with
  | none => none
  | some key =>
    let header (entries : Entries) : Option Entries :=
      match entries.lookup key with
      | none => some (entries ++ [(key, .tables [] [])])
      | some (.tables earlier last) => some (put key (.tables (earlier ++ [last]) []) entries)
      | some _ => none
    within path.dropLast header root

mutual
def Item.toJson : Item → Json
  | .value value => value
  | .table _ _ entries => .object (membersOf entries)
  | .tables earlier last => .array (objectsOf earlier ++ [.object (membersOf last)])

def membersOf : List (String × Item) → List (String × Json)
  | [] => []
  | (key, item) :: rest => (key, item.toJson) :: membersOf rest

def objectsOf : List (List (String × Item)) → List Json
  | [] => []
  | entries :: rest => .object (membersOf entries) :: objectsOf rest
end

end Switchboard.Toml
