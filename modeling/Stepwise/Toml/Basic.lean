import Stepwise.Text.Basic

/-!
# TOML documents

A TOML document is a table whose entries are given by keys with values, by headers of tables, and by
headers of arrays of tables. A table may be extended in some ways and not in others, depending on
how it came about:

- a table with a header of its own is defined there once and for all,
- a table that only occurs in the path of other headers is *implicit* and may get its own header
  later,
- a table that occurs in a dotted key is extended by dotted keys in the same section only,
- an inline table is complete as it stands.
-/

namespace Stepwise

/-- What an entry of a TOML table is. -/
inductive Toml where
  | string (text : Text)
  | integer (n : Int)
  | float (numeral : Text)
  | boolean (b : Bool)
  | dateTime (text : Text)
  | array (items : List Toml)
  | inlineTable (entries : List (Text × Toml))
  /-- A table without a header of its own is implicit. -/
  | table (isImplicit isDotted : Bool) (entries : List (Text × Toml))
  /-- An array of tables, each with a header. -/
  | tables (items : List Toml)

namespace Toml

/-- The entries of a table, in order. -/
abbrev Entries := List (Text × Toml)

namespace Entries

/-- The entry of a key. -/
def get? (entries : Entries) (key : Text) : Option Toml :=
  (List.find? (fun (k, _) => k == key) entries).map Prod.snd

/-- The table with a new value for a key that it has. -/
def replace (entries : Entries) (key : Text) (item : Toml) : Entries :=
  entries.map fun (k, old) => if k == key then (k, item) else (k, old)

/-- Changes the table at the end of a path; `change` is told whether that table is dotted. Tables
that are missing on the way are made, implicit and dotted as the path is. A path leads to the last
table of an array of tables; it does not lead into values, and a dotted one not into tables with a
header of their own. -/
def changeAt (dotted : Bool) (change : Bool → Entries → Option Entries) :
    (path : List Text) → (isDotted : Bool) → Entries → Option Entries
  | [], isDotted, entries => change isDotted entries
  | key :: path, _, entries =>
    match get? entries key with
    | none => do
      let inner ← changeAt dotted change path dotted []
      return entries ++ [(key, table true dotted inner)]
    | some (table isImplicit isDotted inner) =>
      if dotted && !isImplicit then none
      else do
        let inner ← changeAt dotted change path isDotted inner
        return replace entries key (table isImplicit isDotted inner)
    | some (tables items) =>
      match items.getLast? with
      | some (table isImplicit isDotted inner) => do
        let inner ← changeAt dotted change path isDotted inner
        return replace entries key (tables (items.dropLast ++ [table isImplicit isDotted inner]))
      | _ => none
    | some _ => none

/-- Adds a key with a value to a table without a header path of its own; the key must be new. -/
def insert? (entries : Entries) (path : List Text) (key : Text) (value : Toml) : Option Entries :=
  changeAt true (fun isDotted entries =>
    if isDotted == path.isEmpty || (get? entries key).isSome then none
    else some (entries ++ [(key, value)])) path false entries

/-- Adds a key with a value to the table of a header. -/
def insertUnder? (entries : Entries) (header path : List Text) (key : Text) (value : Toml) :
    Option Entries :=
  changeAt false (fun _ entries => insert? entries path key value) header false entries

/-- Adds the header of a table. -/
def openTable? (entries : Entries) (path : List Text) (key : Text) : Option Entries :=
  changeAt false (fun _ entries =>
    match get? entries key with
    | none => some (entries ++ [(key, table false false [])])
    | some (table true false inner) => some (replace entries key (table false false inner))
    | some _ => none) path false entries

/-- Adds the header of a table in an array of tables. -/
def openItem? (entries : Entries) (path : List Text) (key : Text) : Option Entries :=
  changeAt false (fun _ entries =>
    match get? entries key with
    | none => some (entries ++ [(key, tables [table false false []])])
    | some (tables items) => some (replace entries key (tables (items ++ [table false false []])))
    | some _ => none) path false entries

end Entries
end Toml
end Stepwise
