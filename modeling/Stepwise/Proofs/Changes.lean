import Stepwise.Proofs.Execution

/-!
# What a step changes

The changes of a step are put together from the outcomes of its single writes, each of which is
compared with the value just before it; and a call may write the same name several times. `Tracks`
says what all the outcomes amount to:

- a name is listed as new when it had no value before the step and was written,
- a name is listed as modified when it had a value before the step and one of the values that were
  written to it, which need not be the last one, is another value.

`Tracks.write` is what a single write keeps of this, and `tracks_assignAll` is what follows for all
writes of a step. Equal values need not be the same: the two zeros are equal, and `nan` is not equal
to itself.
-/

namespace Stepwise

/-! ### Equal values -/

/-- Numbers are equal when they have the same place on the number line. -/
theorem Number.beq_iff {a b : Number} :
    (a == b) = true ↔ ∃ place, a.place? = some place ∧ b.place? = some place := by
  show Number.equal a b = true ↔ _
  unfold Number.equal Number.compare?
  cases a.place? with
  | none => simp
  | some x =>
    cases b.place? with
    | none => simp
    | some y =>
      have hcompare : compare x y = .eq ↔ y = x := by
        rw [Std.compare_eq_iff_eq]
        exact eq_comm
      simpa using hcompare

namespace Value

/-- Values are equal when they are equal numbers, or the same value of another kind. -/
theorem beq_iff {a b : Value} :
    (a == b) = true ↔
      (∃ m n, a = .number m ∧ b = .number n ∧ (m == n) = true) ∨ (a = b ∧ ∀ n, a ≠ .number n) := by
  show equal a b = true ↔ _
  cases a <;> cases b <;> simp [equal]

instance : PartialEquivBEq Value where
  symm {a b} h := by
    rw [beq_iff] at h ⊢
    rcases h with ⟨m, n, rfl, rfl, hmn⟩ | ⟨rfl, hkind⟩
    · obtain ⟨place, hm, hn⟩ := Number.beq_iff.mp hmn
      exact .inl ⟨n, m, rfl, rfl, Number.beq_iff.mpr ⟨place, hn, hm⟩⟩
    · exact .inr ⟨rfl, hkind⟩
  trans {a b c} h h' := by
    rw [beq_iff] at h h' ⊢
    rcases h with ⟨l, m, rfl, rfl, hlm⟩ | ⟨rfl, hkind⟩
    · rcases h' with ⟨m', n, hm', rfl, hmn⟩ | ⟨_, hkind⟩
      · cases hm'
        obtain ⟨place, hl, hm⟩ := Number.beq_iff.mp hlm
        obtain ⟨place', hm', hn⟩ := Number.beq_iff.mp hmn
        obtain rfl : place = place' := Option.some.inj (hm.symm.trans hm')
        exact .inl ⟨l, n, rfl, rfl, Number.beq_iff.mpr ⟨place, hl, hn⟩⟩
      · exact absurd rfl (hkind m)
    · rcases h' with ⟨m, n, rfl, _, _⟩ | ⟨rfl, _⟩
      · exact absurd rfl (hkind m)
      · exact .inr ⟨rfl, hkind⟩

/-- Only `nan` is not equal to itself. -/
theorem beq_self_iff {a : Value} : (a == a) = true ↔ a ≠ .number .nan := by
  rw [beq_iff]
  cases a with
  | number n =>
    cases n with
    | nan => simp [Number.beq_iff, Number.place?]
    | ranked negative rank h => simp [Number.beq_iff, Number.place?]
  | _ => simp

/-- Nothing is equal to `nan`. -/
theorem nan_beq (a : Value) : ((.number .nan : Value) == a) = false := by
  cases a with
  | number n => rfl
  | _ => rfl

/-- The same value, or equal values: text and truth values that are the same, equal numbers, and
    `nan` twice. -/
def Same (a b : Value) : Prop := a = b ∨ (a == b) = true

instance (a b : Value) : Decidable (Same a b) := inferInstanceAs (Decidable (_ ∨ _))

/-- Values are the same when they are equal, or both are `nan`. -/
theorem same_iff {a b : Value} :
    a.Same b ↔ (a == b) = true ∨ (a = .number .nan ∧ b = .number .nan) := by
  constructor
  · rintro (rfl | heq)
    · by_cases hnan : a = .number .nan
      · exact .inr ⟨hnan, hnan⟩
      · exact .inl (beq_self_iff.mpr hnan)
    · exact .inl heq
  · rintro (heq | ⟨rfl, rfl⟩)
    · exact .inr heq
    · exact .inl rfl

end Value

/-! ### Single outcomes -/

namespace VariableTable

variable {table : VariableTable} {name : Text} {value : Value}

theorem change_eq_created_iff : table.change name value = .created ↔ table.get? name = none := by
  unfold change
  cases table.get? name with
  | none => simp
  | some old => by_cases h : (old == value) = true <;> simp [h]

theorem change_eq_modified_iff :
    table.change name value = .modified ↔ ∃ old, table.get? name = some old ∧
      (old == value) = false := by
  unfold change
  cases table.get? name with
  | none => simp
  | some old => by_cases h : (old == value) = true <;> simp [h]

theorem change_eq_unchanged_iff :
    table.change name value = .unchanged ↔ ∃ old, table.get? name = some old ∧
      (old == value) = true := by
  unfold change
  cases table.get? name with
  | none => simp
  | some old => by_cases h : (old == value) = true <;> simp [h]

end VariableTable

namespace Changes

theorem isNew_record (changes : Changes) (name other : Text) (change : Change) :
    (changes.record name change).isNew other = true ↔
      changes.isNew other = true ∨ (change = .created ∧ other = name) := by
  cases change with
  | created => simp [record, isNew]
  | modified =>
    simp only [record]
    split <;> simp [isNew]
  | unchanged => simp [record]

/-- A name is listed as modified at the first such outcome, unless the step has made it. -/
theorem isModified_record (changes : Changes) (name other : Text) (change : Change) :
    (changes.record name change).isModified other = true ↔
      changes.isModified other = true ∨
        (change = .modified ∧ other = name ∧ changes.isNew other = false) := by
  cases change with
  | created => simp [record, isModified]
  | modified =>
    simp only [record]
    by_cases hlisted : (changes.isNew name || changes.isModified name) = true
    · rw [if_pos hlisted]
      constructor
      · exact .inl
      · rintro (hmodified | ⟨_, rfl, hnew⟩)
        · exact hmodified
        · simpa [hnew] using hlisted
    · rw [if_neg hlisted]
      have hnew : changes.isNew name = false := by
        simp only [Bool.or_eq_true, not_or, Bool.not_eq_true] at hlisted
        exact hlisted.1
      constructor
      · intro hmodified
        have hmem : changes.isModified other = true ∨ other = name := by
          simpa [isModified] using hmodified
        rcases hmem with hmodified | rfl
        · exact .inl hmodified
        · exact .inr ⟨trivial, rfl, hnew⟩
      · rintro (hmodified | ⟨_, rfl, _⟩)
        · simp only [isModified, List.contains_iff_mem] at hmodified ⊢
          exact List.mem_append_left _ hmodified
        · simp [isModified]
  | unchanged => simp [record]

end Changes

/-! ### All outcomes of a step -/

/-- The table `after` and the listed changes are those after the writes to the table `before`. -/
structure Tracks (before : VariableTable) (writes : List (Text × Value)) (after : VariableTable)
    (changes : Changes) : Prop where
  /-- The value that was written last counts. -/
  value : ∀ name, after.get? name = (writes.reverse.lookup name).or (before.get? name)
  isNew : ∀ name, changes.isNew name = true ↔
    before.get? name = none ∧ ∃ value, (name, value) ∈ writes
  isModified : ∀ name, changes.isModified name = true ↔
    ∃ old, before.get? name = some old ∧ ∃ value, (name, value) ∈ writes ∧ (old == value) = false

namespace Tracks

variable {before after : VariableTable} {writes : List (Text × Value)}
  {changes : Changes} {name : Text}
  {old : Value}

/-- Without a write nothing changes. -/
theorem nil (table : VariableTable) : Tracks table [] table .none where
  value _ := rfl
  isNew name := by simp [Changes.none, Changes.isNew]
  isModified name := by simp [Changes.none, Changes.isModified]

theorem mem_of_lookup {value : Value} (h : writes.reverse.lookup name = some value) :
    (name, value) ∈ writes := by
  obtain ⟨_, _, heq, _⟩ := List.lookup_eq_some_iff.mp h
  rw [← List.mem_reverse, heq]
  exact List.mem_append_right _ List.mem_cons_self

/-- Until it is listed as modified, a variable is equal to the same values as before: the last
    write, if there was one, did not change that. -/
theorem beq_of_not_modified (h : Tracks before writes after changes)
    (hmodified : changes.isModified name = false) (hold : before.get? name = some old) :
    ∃ current, after.get? name = some current ∧ ∀ value, (current == value) = (old == value) := by
  rw [h.value, hold]
  cases hlookup : writes.reverse.lookup name with
  | none => exact ⟨old, rfl, fun _ => rfl⟩
  | some current =>
    have heq : (old == current) = true := by
      by_cases heq : (old == current) = true
      · exact heq
      · have hlisted := (h.isModified name).mpr
          ⟨old, hold, current, mem_of_lookup hlookup, by simpa using heq⟩
        rw [hmodified] at hlisted
        cases hlisted
    exact ⟨current, rfl, fun value => (BEq.congr_left heq).symm⟩

/-- A variable that is there and was not made by the step was there before it. -/
theorem old_of_not_new (h : Tracks before writes after changes) (hnew : changes.isNew name = false)
    {current : Value} (hcurrent : after.get? name = some current) :
    ∃ old, before.get? name = some old := by
  cases hold : before.get? name with
  | some old => exact ⟨old, rfl⟩
  | none =>
    rw [h.value, hold, Option.or_none] at hcurrent
    have hlisted := (h.isNew name).mpr ⟨hold, current, mem_of_lookup hcurrent⟩
    rw [hnew] at hlisted
    cases hlisted

/-- A variable that was there before the step is not new. -/
theorem not_new (h : Tracks before writes after changes) (hold : before.get? name = some old) :
    changes.isNew name = false := by
  by_cases hnew : changes.isNew name = true
  · have hnone := ((h.isNew name).mp hnew).1
    rw [hold] at hnone
    cases hnone
  · simpa using hnew

/-- What one more write keeps. -/
theorem write (h : Tracks before writes after changes) (name : Text) (value : Value) :
    Tracks before (writes ++ [(name, value)]) (after.assign name value)
      (changes.record name (after.change name value)) where
  value other := by
    rw [VariableTable.get?_assign, h.value, List.reverse_append, List.lookup_append]
    by_cases heq : name = other
    · simp [heq]
    · have hne : (other == name) = false := by simpa using Ne.symm heq
      simp [heq, List.lookup_cons, hne]
  isNew other := by
    rw [Changes.isNew_record, h.isNew, VariableTable.change_eq_created_iff]
    constructor
    · rintro (⟨hnone, value', hmem⟩ | ⟨hnone, rfl⟩)
      · exact ⟨hnone, value', List.mem_append_left _ hmem⟩
      · rw [h.value, Option.or_eq_none_iff] at hnone
        exact ⟨hnone.2, value, by simp⟩
    · rintro ⟨hnone, value', hmem⟩
      rcases List.mem_append.mp hmem with hmem | hmem
      · exact .inl ⟨hnone, value', hmem⟩
      · obtain ⟨rfl, rfl⟩ := Prod.mk.inj (List.mem_singleton.mp hmem)
        -- the name is new now, unless an earlier write of the step has made it
        cases hlookup : writes.reverse.lookup other with
        | none => exact .inr ⟨by rw [h.value, hlookup, hnone]; rfl, rfl⟩
        | some value' => exact .inl ⟨hnone, value', mem_of_lookup hlookup⟩
  isModified other := by
    rw [Changes.isModified_record, VariableTable.change_eq_modified_iff]
    by_cases hmodified : changes.isModified other = true
    · -- listed before, and so it stays
      obtain ⟨old, hold, value', hmem, hdiffers⟩ := (h.isModified other).mp hmodified
      exact ⟨fun _ => ⟨old, hold, value', List.mem_append_left _ hmem, hdiffers⟩,
        fun _ => .inl hmodified⟩
    · have hnot : changes.isModified other = false := by simpa using hmodified
      constructor
      · rintro (hlisted | ⟨⟨current, hcurrent, hdiffers⟩, rfl, hnew⟩)
        · exact absurd hlisted hmodified
        · obtain ⟨old, hold⟩ := h.old_of_not_new hnew hcurrent
          obtain ⟨current', hcurrent', hsame⟩ := h.beq_of_not_modified hnot hold
          obtain rfl : current = current' := Option.some.inj (hcurrent.symm.trans hcurrent')
          exact ⟨old, hold, value, by simp, hsame value ▸ hdiffers⟩
      · rintro ⟨old, hold, value', hmem, hdiffers⟩
        rcases List.mem_append.mp hmem with hmem | hmem
        · exact absurd ((h.isModified other).mpr ⟨old, hold, value', hmem, hdiffers⟩) hmodified
        · obtain ⟨rfl, rfl⟩ := Prod.mk.inj (List.mem_singleton.mp hmem)
          obtain ⟨current, hcurrent, hsame⟩ := h.beq_of_not_modified hnot hold
          exact .inr ⟨⟨current, hcurrent, (hsame _).trans hdiffers⟩, rfl, h.not_new hold⟩

/-- What all writes of a list keep. -/
theorem writeAll (h : Tracks before writes after changes) (more : List (Text × Value)) :
    Tracks before (writes ++ more) (assignAll after changes more).1
      (assignAll after changes more).2 := by
  induction more generalizing writes after changes with
  | nil =>
    rw [List.append_nil]
    exact h
  | cons pair rest ih =>
    obtain ⟨name, value⟩ := pair
    have hrest := ih (h.write name value)
    rw [List.append_assoc] at hrest
    exact hrest

end Tracks

/-- The changes of a step tell how its writes changed the table. -/
theorem tracks_assignAll (table : VariableTable) (writes : List (Text × Value)) :
    Tracks table writes (assignAll table .none writes).1 (assignAll table .none writes).2 :=
  (Tracks.nil table).writeAll writes

end Stepwise
