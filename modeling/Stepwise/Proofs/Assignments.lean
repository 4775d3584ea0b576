import Mathlib.Data.List.Induction
import Stepwise.Proofs.Changes

/-!
# Tables of assignments

A table that is built by assignments is a map with an order: it has the last value of every name
that was assigned, and its names stand in the order of their first assignments.

- `Reflects` says this of a table and a list of assignments,
- `reflects_empty`, `Reflects.assign`: the empty table reflects no assignments, and one assignment
  more is reflected,
- `reflects_ofPairs`: so every list of assignments gives a table that reflects it,
- `Distinct.lookup_index_iff`: the index points to the entries of all names and nowhere else.
-/

namespace Stepwise
namespace VariableTable

variable {table : VariableTable} {name : Text} {value : Value}

/-! ### Index and outcomes -/

/-- With distinct names, the index has the position of every entry under its name, and nothing
    else. -/
theorem Distinct.lookup_index_iff (h : table.Distinct) (name : Text) (i : Nat) :
    table.index.lookup name = some i ↔ ∃ value, table.entries[i]? = some (name, value) := by
  have hposition : table.index.lookup name = table.names.findIdx? (· == name) := by
    rw [table.index_eq, lookup_zipIdx]
    simp [names]
  have hentry : (∃ value, table.entries[i]? = some (name, value)) ↔
      table.names[i]? = some name := by
    rw [names, List.getElem?_map, Option.map_eq_some_iff]
    constructor
    · rintro ⟨value, hi⟩
      exact ⟨(name, value), hi, rfl⟩
    · rintro ⟨⟨name', value⟩, hi, rfl⟩
      exact ⟨value, hi⟩
  rw [hposition, hentry, List.findIdx?_eq_some_iff_getElem, List.getElem?_eq_some_iff]
  constructor
  · rintro ⟨hi, heq, _⟩
    exact ⟨hi, eq_of_beq heq⟩
  · rintro ⟨hi, heq⟩
    refine ⟨hi, beq_iff_eq.mpr heq, ?_⟩
    -- The name stands nowhere before its own entry.
    intro j hji hbeq
    have hne := List.pairwise_iff_getElem.mp h j i (Nat.lt_trans hji hi) hi hji
    exact hne ((eq_of_beq hbeq).trans heq.symm)

theorem contains_iff : table.contains name = true ↔ name ∈ table.names := by
  rw [contains, ← not_iff_not, ← position?_eq_none_iff, Bool.not_eq_true,
    Option.isSome_eq_false_iff, Option.isNone_iff_eq_none]

/-! ### Assignments in order -/

/-- The table is what the assignments leave, made in order from an empty table on. -/
structure Reflects (table : VariableTable) (pairs : List (Text × Value)) : Prop where
  distinct : table.Distinct
  /-- Every name stands where it was assigned first. -/
  names : table.names = (pairs.map Prod.fst).eraseDups
  /-- Every name has its last value. -/
  value : ∀ name, table.get? name = pairs.reverse.lookup name

/-- Without duplicates, another element at the end is a new one or none. -/
theorem eraseDups_concat (xs : List Text) (x : Text) :
    (xs ++ [x]).eraseDups = if x ∈ xs then xs.eraseDups else xs.eraseDups ++ [x] := by
  rw [List.eraseDups_append]
  by_cases h : x ∈ xs
  · simp [List.removeAll, h]
  · simp [List.removeAll, List.eraseDups_cons, h]

/-- No assignments. -/
theorem reflects_empty : Reflects empty [] := ⟨List.nodup_nil, rfl, fun _ => rfl⟩

/-- One assignment more. -/
theorem Reflects.assign {pairs : List (Text × Value)} (h : table.Reflects pairs) (name : Text)
    (value : Value) :
    (table.assign name value).Reflects (pairs ++ [(name, value)]) where
  distinct := h.distinct.assign
  names := by
    rw [List.map_append, List.map_cons, List.map_nil, eraseDups_concat, ← h.names]
    have hmem : name ∈ pairs.map Prod.fst ↔ name ∈ table.names := by
      rw [h.names, List.mem_eraseDups]
    by_cases hname : name ∈ table.names
    · rw [if_pos (hmem.mpr hname), names_assign_of_mem hname]
    · rw [if_neg (fun hpairs => hname (hmem.mp hpairs)), names_assign_of_not_mem hname]
  value other := by
    rw [get?_assign, h.value, List.reverse_append, List.reverse_singleton, List.singleton_append,
      List.lookup_cons]
    by_cases heq : name = other
    · simp [heq]
    · have hne : (other == name) = false := beq_eq_false_iff_ne.mpr fun h => heq h.symm
      simp [heq, hne]

/-- All assignments. -/
theorem reflects_ofPairs (pairs : List (Text × Value)) : (ofPairs pairs).Reflects pairs := by
  induction pairs using List.reverseRecOn with
  | nil => exact reflects_empty
  | append_singleton pairs pair ih =>
    have hlast : ofPairs (pairs ++ [pair]) = (ofPairs pairs).assign pair.1 pair.2 := by
      unfold ofPairs
      rw [List.foldl_append]
      rfl
    rw [hlast]
    exact ih.assign pair.1 pair.2

/-- A name has no value as long as it was not assigned. -/
theorem Reflects.get?_eq_none_iff {pairs : List (Text × Value)} (h : table.Reflects pairs)
    (name : Text) :
    table.get? name = none ↔ name ∉ pairs.map Prod.fst := by
  rw [VariableTable.get?_eq_none_iff, h.names, List.mem_eraseDups]

/-- After any assignments, made in order to an empty table, the table is a map with an order.

    - Its names are distinct and stand in the order of their first assignments.
    - The index has exactly these names, with their positions among the entries.
    - Every name has the value that was assigned to it last, and names that were never assigned have
      none.
    - The next assignment creates a name that was not assigned before; otherwise it leaves the name
      unchanged when the value is equal to the last one, and modifies it when not. In each case the
      name has the new value afterwards.
    - Assigning what a snapshot shows of the table gives the table again. -/
theorem assignments_make_ordered_map (pairs : List (Text × Value)) :
    let table := ofPairs pairs
    let assigned := pairs.map Prod.fst
    (table.names.Nodup ∧ table.names = assigned.eraseDups) ∧
    (∀ name i, table.index.lookup name = some i ↔ ∃ value, table.entries[i]? = some (name, value)) ∧
    (∀ name, table.get? name = pairs.reverse.lookup name ∧
      (table.contains name = true ↔ name ∈ assigned)) ∧
    table.size = assigned.eraseDups.length ∧
    (∀ name value,
      (table.change name value = .created ↔ name ∉ assigned) ∧
      (table.change name value = .unchanged ↔
        ∃ old, pairs.reverse.lookup name = some old ∧ (old == value) = true) ∧
      (table.change name value = .modified ↔
        ∃ old, pairs.reverse.lookup name = some old ∧ (old == value) = false) ∧
      (table.assign name value).get? name = some value) ∧
    ∀ scope changes, ofPairs ((table.view scope changes).map fun v => (v.name, v.value)) =
      table := by
  intro table assigned
  have h : table.Reflects pairs := reflects_ofPairs pairs
  refine ⟨⟨h.distinct, h.names⟩, h.distinct.lookup_index_iff, ?_, ?_, ?_, ofPairs_view h.distinct⟩
  · intro name
    refine ⟨h.value name, ?_⟩
    rw [contains_iff, h.names, List.mem_eraseDups]
  · show table.entries.length = _
    rw [← h.names, names, List.length_map]
  · intro name value
    refine ⟨?_, ?_, ?_, ?_⟩
    · rw [change_eq_created_iff, h.get?_eq_none_iff]
    · rw [change_eq_unchanged_iff, h.value]
    · rw [change_eq_modified_iff, h.value]
    · rw [get?_assign, if_pos rfl]

/-- A zero of the other sign is equal, and is stored. -/
example : (ofPairs [("x", .number (.zero false))]).change "x" (.number (.zero true)) = .unchanged ∧
    (ofPairs [("x", .number (.zero false)), ("x", .number (.zero true))]).get? "x" =
      some (.number (.zero true)) := by decide +kernel

end VariableTable
end Stepwise
