/-!
Values of a settings file, and tables while they are read. A table that a header made may be
reopened once; dotted keys extend only what dotted keys have made.
-/

set_option autoImplicit false

namespace Wiring.Toml

/-- A value. A number with a fraction is kept as its decimal text. -/
inductive Value where
  | text (content : String)
  | int (value : Int)
  | float (text : String)
  | bool (value : Bool)
  | array (elements : List Value)
  | table (entries : List (String × Value))

def dateKey : String :=
  "$__toml_private_datetime"

def Value.date (text : String) : Value :=
  .table [(dateKey, .text text)]

inductive Item where
  | value (content : Value)
  /-- A table. It is implicit until a header names it, and dotted if a dotted key made it. -/
  | table (isImplicit isDotted : Bool) (entries : List (String × Item))
  | tables (elements : List (List (String × Item)))

abbrev Entries := List (String × Item)

def item? (key : String) (entries : Entries) : Option Item :=
  (entries.find? fun entry => entry.1 == key).map (·.2)

/-- Gives a key an item, in its place if it has one already. -/
def putItem (key : String) (item : Item) : Entries → Entries
  | [] => [(key, item)]
  | (other, old) :: rest =>
      if other == key then (key, item) :: rest else (other, old) :: putItem key item rest

def changeLast (change : Entries → Option Entries) : List Entries → Option (List Entries)
  | [] => none
  | [last] => (change last).map fun changed => [changed]
  | first :: rest => (changeLast change rest).map (first :: ·)

/-- The entries changed at the end of a path. A change is told whether its table was made by a
dotted key. Tables that are lacking on the way are made; of tables under one header the way leads
through the last one. -/
def changeAt (byDots : Bool) (change : Bool → Entries → Option Entries) :
    List String → Bool → Entries → Option Entries
  | [], isDotted, entries => change isDotted entries
  | key :: rest, _, entries =>
      match item? key entries with
      | none => do
          let made ← changeAt byDots change rest byDots []
          return putItem key (.table true byDots made) entries
      | some (.table isImplicit isDotted inner) =>
          if byDots && !isImplicit then none
          else do
            let changed ← changeAt byDots change rest isDotted inner
            return putItem key (.table isImplicit isDotted changed) entries
      | some (.tables elements) => do
          let changed ← changeLast (changeAt byDots change rest false) elements
          return putItem key (.tables changed) entries
      | some (.value _) => none

/-- Adds a value under a path of keys: its table is one that keys without dots may extend exactly
if the path is a single key. -/
def addValue (path : List String) (value : Value) (entries : Entries) : Option Entries :=
  match path.getLast? with
  | none => none
  | some key =>
      changeAt true (fun isDotted found =>
        if isDotted == path.dropLast.isEmpty then none
        else if (item? key found).isSome then none
        else some (found ++ [(key, .value value)])) path.dropLast false entries

/-- Opens the table of a header. One that is there already must have been made by the headers of
its own tables. -/
def openTable (path : List String) (entries : Entries) : Option Entries :=
  match path.getLast? with
  | none => none
  | some key =>
      changeAt false (fun _ found =>
        match item? key found with
        | none => some (found ++ [(key, .table false false [])])
        | some (.table true false inner) => some (putItem key (.table false false inner) found)
        | some _ => none) path.dropLast false entries

def openElement (path : List String) (entries : Entries) : Option Entries :=
  match path.getLast? with
  | none => none
  | some key =>
      changeAt false (fun _ found =>
        match item? key found with
        | none => some (found ++ [(key, .tables [[]])])
        | some (.tables elements) => some (putItem key (.tables (elements ++ [[]])) found)
        | some _ => none) path.dropLast false entries

mutual

def Item.toValue : Item → Value
  | .value content => content
  | .table _ _ entries => .table (entryValues entries)
  | .tables elements => .array (elementValues elements)

def entryValues : Entries → List (String × Value)
  | [] => []
  | (key, item) :: rest => (key, item.toValue) :: entryValues rest

def elementValues : List Entries → List Value
  | [] => []
  | entries :: rest => .table (entryValues entries) :: elementValues rest

end

end Wiring.Toml
