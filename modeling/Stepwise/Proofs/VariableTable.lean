import Stepwise.Variable

/-!
# Laws of variable tables

A table that is built by assignments holds every name once, in the order of the first assignments.
So the entries of a table are enough to build it again:

- `ofEntries` makes the index of given entries, and there is no other: entries determine their
  table,
- `Distinct` says that no name occurs twice; `assign` keeps it, and keeps the names that are there
  in place,
- `get?_assign`: an assignment changes the value of its own name only,
- `ofPairs_entries`: assigning the entries of such a table in order to the empty table gives the
  table back,
- `view_pairs` and `view_unflagged`: a view shows all entries, and the views of one table in one
  scope differ in their flags only,
- `get?_of_mem_view` and `exists_mem_view`: a view shows the value of every name that has one, and
  no other.
-/

namespace Stepwise

/-- The variable with both flags taken away. -/
def Variable.unflagged (v : Variable) : Variable := { v with isNew := false, isModified := false }

namespace VariableTable

variable {table : VariableTable} {name : Text} {value : Value}

/-- No name has two entries. -/
def Distinct (table : VariableTable) : Prop := table.names.Nodup

/-- The table with the given entries. -/
def ofEntries (entries : List (Text × Value)) : VariableTable :=
  ⟨entries, (entries.map Prod.fst).zipIdx, rfl⟩

@[simp] theorem entries_ofEntries (entries : List (Text × Value)) :
    (ofEntries entries).entries = entries := rfl

/-- Entries determine their table. -/
theorem eq_ofEntries (table : VariableTable) : table = ofEntries table.entries := by
  obtain ⟨entries, index, rfl⟩ := table
  rfl

/-- Two tables with the same entries are the same. -/
@[ext] theorem ext_entries {other : VariableTable} (h : table.entries = other.entries) :
    table = other := by
  rw [eq_ofEntries table, eq_ofEntries other, h]

/-! ### Positions -/

/-- A list of names with their places has the first place of every name. -/
theorem lookup_zipIdx (names : List Text) (start : Nat) (name : Text) :
    (names.zipIdx start).lookup name = (names.findIdx? (· == name)).map (· + start) := by
  induction names generalizing start with
  | nil => rfl
  | cons first rest ih =>
    rw [List.zipIdx_cons, List.lookup_cons, List.findIdx?_cons, ih]
    by_cases h : first = name
    · simp [h]
    · have hne : (name == first) = false := beq_eq_false_iff_ne.mpr fun heq => h heq.symm
      have hne' : (first == name) = false := beq_eq_false_iff_ne.mpr h
      simp only [hne, hne', Bool.false_eq_true, if_false, Option.map_map]
      congr 1
      funext i
      show i + (start + 1) = i + 1 + start
      omega

/-- The index points to the first entry of a name. -/
theorem position?_eq (table : VariableTable) (name : Text) :
    table.position? name = table.entries.findIdx? fun entry => entry.1 == name := by
  rw [position?, table.index_eq, lookup_zipIdx, List.findIdx?_map]
  simp [Function.comp_def]

/-- A name without a position is not in the table. -/
theorem position?_eq_none_iff : table.position? name = none ↔ name ∉ table.names := by
  simp only [position?_eq, List.findIdx?_eq_none_iff, names, List.mem_map, not_exists, not_and]
  constructor
  · intro h entry hmem heq
    have := h entry hmem
    rw [heq] at this
    simp at this
  · intro h entry hmem
    have := h entry hmem
    simpa using this

/-- The entry at the position of a name has that name. -/
theorem names_position? {i : Nat} (h : table.position? name = some i) :
    table.names[i]? = some name := by
  rw [position?_eq] at h
  obtain ⟨hi, heq, _⟩ := List.findIdx?_eq_some_iff_getElem.mp h
  simp only [names, List.getElem?_map, List.getElem?_eq_getElem hi, Option.map_some]
  simpa using heq

/-! ### Assignments -/

/-- The entry to which the index points gets the value. -/
theorem entries_assign_of_some {i : Nat} (h : table.position? name = some i) :
    (table.assign name value).entries = table.entries.modify i fun entry => (entry.1, value) := by
  simp only [assign, h]

/-- A name that the index does not have comes last. -/
theorem entries_assign_of_none (h : table.position? name = none) :
    (table.assign name value).entries = table.entries ++ [(name, value)] := by
  simp only [assign, h]

/-- A name that is in the table keeps its place. -/
theorem names_assign_of_mem (h : name ∈ table.names) :
    (table.assign name value).names = table.names := by
  cases hpos : table.position? name with
  | none => exact absurd h (position?_eq_none_iff.mp hpos)
  | some i =>
    rw [names, entries_assign_of_some hpos]
    exact map_fst_modify table.entries i value

/-- A new name comes last. -/
theorem assign_of_not_mem (h : name ∉ table.names) :
    table.assign name value = ofEntries (table.entries ++ [(name, value)]) := by
  apply ext_entries
  rw [entries_assign_of_none (position?_eq_none_iff.mpr h), entries_ofEntries]

theorem names_assign_of_not_mem (h : name ∉ table.names) :
    (table.assign name value).names = table.names ++ [name] := by
  rw [assign_of_not_mem h]
  simp [names]

/-- An assignment keeps all names in their places. -/
theorem names_prefix_assign : table.names <+: (table.assign name value).names := by
  by_cases h : name ∈ table.names
  · exact names_assign_of_mem h ▸ List.prefix_refl _
  · rw [names_assign_of_not_mem h]
    exact List.prefix_append _ _

/-- An assignment brings in its own entry and no other. -/
theorem mem_entries_assign {entry : Text × Value} (h : entry ∈ (table.assign name value).entries) :
    entry ∈ table.entries ∨ entry = (name, value) := by
  cases hpos : table.position? name with
  | none =>
    rw [entries_assign_of_none hpos] at h
    simpa using h
  | some i =>
    have hname := names_position? hpos
    rw [entries_assign_of_some hpos] at h
    obtain ⟨j, hj⟩ := List.mem_iff_getElem?.mp h
    rw [List.getElem?_modify] at hj
    split at hj
    · -- the entry at the position of the name has that name
      rename_i hij
      subst hij
      rw [names, List.getElem?_map] at hname
      obtain ⟨old, hold, rfl⟩ := Option.map_eq_some_iff.mp hname
      rw [hold] at hj
      exact Or.inr (Option.some.inj hj).symm
    · rw [id_map'] at hj
      exact Or.inl (List.mem_of_getElem? hj)

/-- An assignment gives no name a second entry. -/
theorem Distinct.assign (h : table.Distinct) : (table.assign name value).Distinct := by
  unfold Distinct at h ⊢
  by_cases hmem : name ∈ table.names
  · rw [names_assign_of_mem hmem]
    exact h
  · rw [names_assign_of_not_mem hmem, List.nodup_append]
    refine ⟨h, by simp, ?_⟩
    intro a ha b hb heq
    rw [List.mem_singleton.mp hb] at heq
    exact hmem (heq ▸ ha)

/-! ### Values -/

/-- Names are looked up from the first entry on. -/
theorem get?_eq_lookup (table : VariableTable) (name : Text) :
    table.get? name = table.entries.lookup name := by
  simp only [get?, position?_eq]
  induction table.entries with
  | nil => rfl
  | cons entry rest ih =>
    obtain ⟨name', value'⟩ := entry
    rw [List.findIdx?_cons, List.lookup_cons]
    by_cases h : name' = name
    · simp [h]
    · have hne : (name == name') = false := by simpa using Ne.symm h
      have hne' : (name' == name) = false := by simpa using h
      simp only [hne, hne', ← ih]
      cases List.findIdx? _ rest <;> simp

/-- The names of the table are those that have values. -/
theorem get?_eq_none_iff : table.get? name = none ↔ name ∉ table.names := by
  rw [get?_eq_lookup, List.lookup_eq_none_iff, names, List.mem_map]
  constructor
  · rintro h ⟨entry, hmem, rfl⟩
    have hne := h entry hmem
    simp at hne
  · intro h entry hmem
    have hne : name ≠ entry.1 := fun heq => h ⟨entry, hmem, heq.symm⟩
    simpa using hne

/-- In a table with distinct names, every entry tells the value of its name. -/
theorem get?_eq_some_iff (h : table.Distinct) :
    table.get? name = some value ↔ (name, value) ∈ table.entries := by
  rw [get?_eq_lookup, List.lookup_eq_some_iff]
  constructor
  · rintro ⟨before, after, heq, _⟩
    rw [heq]
    exact List.mem_append_right _ List.mem_cons_self
  · intro hmem
    obtain ⟨before, after, heq⟩ := List.append_of_mem hmem
    refine ⟨before, after, heq, ?_⟩
    intro entry hentry
    -- an earlier entry of the name would be a second one
    rw [Distinct, names, heq, List.map_append, List.nodup_append] at h
    have hne := h.2.2 entry.1 (List.mem_map_of_mem hentry) name (by simp)
    simpa using hne.symm

/-- An assignment is made at the first entry of its name, or after the last entry. -/
theorem assign_cons (name' : Text) (value' : Value) (rest : List (Text × Value)) :
    (ofEntries ((name', value') :: rest)).assign name value =
      if name' = name then ofEntries ((name, value) :: rest)
      else ofEntries ((name', value') :: ((ofEntries rest).assign name value).entries) := by
  apply ext_entries
  have hposition : (ofEntries ((name', value') :: rest)).position? name =
      if name' = name then some 0 else ((ofEntries rest).position? name).map (· + 1) := by
    simp only [position?_eq, entries_ofEntries, List.findIdx?_cons, beq_iff_eq]
  by_cases h : name' = name
  · rw [if_pos h] at hposition ⊢
    rw [entries_assign_of_some hposition, h]
    rfl
  · rw [if_neg h] at hposition ⊢
    cases hrest : (ofEntries rest).position? name with
    | none =>
      rw [hrest] at hposition
      simp [entries_assign_of_none hposition, entries_assign_of_none hrest]
    | some i =>
      rw [hrest] at hposition
      simp [entries_assign_of_some hposition, entries_assign_of_some hrest]

/-- After an assignment the name has the value, and all other names have the values that they
    had. -/
theorem get?_assign (table : VariableTable) (name other : Text) (value : Value) :
    (table.assign name value).get? other = if name =
      other then some value else table.get? other := by
  rw [eq_ofEntries table]
  induction table.entries with
  | nil =>
    rw [assign_of_not_mem (by simp [names])]
    by_cases h : name = other
    · simp [get?_eq_lookup, h]
    · have hne : (other == name) = false := by simpa using Ne.symm h
      simp [get?_eq_lookup, List.lookup_cons, h, hne]
  | cons entry rest ih =>
    obtain ⟨name', value'⟩ := entry
    simp only [get?_eq_lookup] at ih ⊢
    rw [assign_cons]
    by_cases h : name' = name
    · -- the first entry is the one that is written
      subst h
      by_cases ho : name' = other
      · simp [ho]
      · have hne : (other == name') = false := by simpa using Ne.symm ho
        simp [List.lookup_cons, ho, hne]
    · rw [if_neg h, entries_ofEntries, entries_ofEntries, List.lookup_cons, List.lookup_cons, ih,
        entries_ofEntries]
      by_cases ho : name = other
      · have hne : (other == name') = false := by simpa [← ho] using Ne.symm h
        simp [ho, hne]
      · simp [ho]

/-! ### Building a table again -/

/-- Assigning pairs of new and distinct names appends the pairs. -/
theorem foldl_assign (pairs : List (Text × Value)) (table : VariableTable)
    (hd : ((table.entries ++ pairs).map Prod.fst).Nodup) :
    pairs.foldl (fun table (name, value) => table.assign name value) table =
      ofEntries (table.entries ++ pairs) := by
  induction pairs generalizing table with
  | nil =>
    rw [List.append_nil]
    exact eq_ofEntries table
  | cons pair pairs ih =>
    obtain ⟨name, value⟩ := pair
    have hnew : name ∉ table.names := by
      intro hmem
      rw [List.map_append, List.nodup_append] at hd
      exact hd.2.2 name hmem name (by simp) rfl
    show pairs.foldl _ (table.assign name value) = _
    rw [assign_of_not_mem hnew, ih]
    · simp
    · simpa using hd

/-- The entries of a table, assigned in order, give the table back. -/
theorem ofPairs_entries (h : table.Distinct) : ofPairs table.entries = table := by
  have hd : ((empty.entries ++ table.entries).map Prod.fst).Nodup := by
    simpa [empty, Distinct, names] using h
  unfold ofPairs
  rw [foldl_assign table.entries empty hd]
  exact (eq_ofEntries table).symm

/-! ### Views -/

/-- A view shows the entries of the table. -/
theorem view_pairs (scope : Text) (changes : Changes) :
    ((table.view scope changes).map fun v => (v.name, v.value)) = table.entries := by
  simp [view, Variable.ofChanges, Function.comp_def]

theorem view_names (scope : Text) (changes : Changes) :
    (table.view scope changes).map Variable.name = table.names := by
  simp [view, names, Variable.ofChanges, Function.comp_def]

/-- Without its flags, a view is the view after a step that changed nothing. -/
theorem view_unflagged (scope : Text) (changes : Changes) :
    (table.view scope changes).map Variable.unflagged = table.view scope .none := by
  simp [view, Variable.ofChanges, Variable.unflagged, Changes.none, Changes.isNew,
    Changes.isModified, Function.comp_def]

section views
variable {scope : Text} {changes : Changes}

/-- The flags of a variable in a view are those of its name. -/
theorem flags_of_mem_view {v : Variable} (h : v ∈ table.view scope changes) :
    v.isNew = changes.isNew v.name ∧ v.isModified = changes.isModified v.name := by
  obtain ⟨entry, _, rfl⟩ := List.mem_map.mp h
  exact ⟨rfl, rfl⟩

/-- A variable in a view has the value of its name. -/
theorem get?_of_mem_view (hd : table.Distinct) {v : Variable} (h : v ∈ table.view scope changes) :
    table.get? v.name = some v.value := by
  obtain ⟨entry, hentry, rfl⟩ := List.mem_map.mp h
  exact (get?_eq_some_iff hd).mpr hentry

/-- Every name with a value is in a view. -/
theorem exists_mem_view (hd : table.Distinct) (scope : Text) (changes : Changes)
    (h : table.get? name = some value) :
    ∃ u ∈ table.view scope changes, u.name = name ∧ u.value = value :=
  ⟨.ofChanges name value scope changes, List.mem_map.mpr ⟨_, (get?_eq_some_iff hd).mp h, rfl⟩, rfl,
    rfl⟩

end views

/-- A table can be built again from any of its views. -/
theorem ofPairs_view (h : table.Distinct) (scope : Text) (changes : Changes) :
    ofPairs ((table.view scope changes).map fun v => (v.name, v.value)) = table := by
  rw [view_pairs, ofPairs_entries h]

end VariableTable
end Stepwise
