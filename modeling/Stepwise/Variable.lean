import Stepwise.Value

/-!
# Variables

All variables of a run live in one table, in the order in which they were first assigned. Parameters
of calls are bound in the same table. The table has an index, in which names are looked up.

- `VariableTable.assign` stores a value and keeps the index in step with the entries,
- `VariableTable.change` tells what an assignment does to the table,
- `Changes` collects what one step changed,
- `VariableTable.view` is what a snapshot shows of the table.
-/

namespace Stepwise

/-- What an assignment does to the table. -/
inductive Change where
  /-- The name had no value. -/
  | created
  /-- The name had another value. -/
  | modified
  /-- The name had an equal value. -/
  | unchanged
deriving DecidableEq, Repr

/-- The names that one step created and modified. -/
structure Changes where
  created : List Text
  modified : List Text
deriving DecidableEq, Repr

namespace Changes

/-- No changes. -/
def none : Changes := ⟨[], []⟩

/-- Whether the step created the name. -/
def isNew (changes : Changes) (name : Text) : Bool := changes.created.contains name

/-- Whether the step modified the name. -/
def isModified (changes : Changes) (name : Text) : Bool := changes.modified.contains name

/-- Adds one change. A name is listed as modified once, and not when the step created it. -/
def record (changes : Changes) (name : Text) : Change → Changes
  | .created => { changes with created := changes.created ++ [name] }
  | .modified =>
    if changes.isNew name || changes.isModified name then changes
    else { changes with modified := changes.modified ++ [name] }
  | .unchanged => changes

end Changes

/-- What a snapshot shows of a variable. -/
structure Variable where
  name : Text
  value : Value
  kind : Kind
  /-- The function whose call is the latest one, or the global scope. -/
  scope : Text
  isNew : Bool
  isModified : Bool
deriving DecidableEq, BEq

/-- The variable of a name and a value after a step with the given changes. -/
def Variable.ofChanges (name : Text) (value : Value) (scope : Text) (changes : Changes) :
    Variable :=
  ⟨name, value, value.kind, scope, changes.isNew name, changes.isModified name⟩

/-- The values of all variables, in the order of their first assignments. -/
structure VariableTable where
  entries : List (Text × Value)
  /-- The position of each name among the entries. -/
  index : List (Text × Nat)
  index_eq : index = (entries.map Prod.fst).zipIdx
deriving DecidableEq

namespace VariableTable

/-- The table without variables. -/
def empty : VariableTable := ⟨[], [], rfl⟩

/-- The number of variables. -/
def size (table : VariableTable) : Nat := table.entries.length

/-- The names of the variables. -/
def names (table : VariableTable) : List Text := table.entries.map Prod.fst

/-- The position of a name, as the index has it. -/
def position? (table : VariableTable) (name : Text) : Option Nat := table.index.lookup name

/-- The value of a name: that of the entry to which the index points. -/
def get? (table : VariableTable) (name : Text) : Option Value := do
  let i ← table.position? name
  let entry ← table.entries[i]?
  return entry.2

/-- Whether the name has a value. -/
def contains (table : VariableTable) (name : Text) : Bool := (table.position? name).isSome

/-- A new value at some position leaves the names as they are. -/
theorem map_fst_modify (entries : List (Text × Value)) (i : Nat) (value : Value) :
    (entries.modify i fun entry => (entry.1, value)).map Prod.fst = entries.map Prod.fst := by
  induction entries generalizing i with
  | nil => cases i <;> rfl
  | cons entry rest ih =>
    cases i with
    | zero => rfl
    | succ i => rw [List.modify_succ_cons, List.map_cons, ih i, List.map_cons]

/-- The table after an assignment. A name that the index has keeps its entry, which gets the new
value; any other name gets a new entry at the end, and a place in the index. -/
def assign (table : VariableTable) (name : Text) (value : Value) : VariableTable :=
  match table.position? name with
  | some i => {
      entries := table.entries.modify i fun entry => (entry.1, value)
      index := table.index
      index_eq := by rw [map_fst_modify, table.index_eq] }
  | none => {
      entries := table.entries ++ [(name, value)]
      index := table.index ++ [(name, table.entries.length)]
      index_eq := by simp [table.index_eq, List.zipIdx_append] }

/-- What an assignment does to the table. -/
def change (table : VariableTable) (name : Text) (value : Value) : Change :=
  match table.get? name with
  | none => .created
  | some old => if old == value then .unchanged else .modified

/-- The table that results from assignments in order. -/
def ofPairs (pairs : List (Text × Value)) : VariableTable :=
  pairs.foldl (fun table (name, value) => table.assign name value) empty

/-- The variables as a snapshot shows them after a step with the given changes. -/
def view (table : VariableTable) (scope : Text) (changes : Changes) : List Variable :=
  table.entries.map fun (name, value) => .ofChanges name value scope changes

end VariableTable
end Stepwise
