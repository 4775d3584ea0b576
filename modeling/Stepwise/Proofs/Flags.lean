import Stepwise.Proofs.Changes
import Stepwise.Proofs.Accumulation

/-!
# Change flags

The flags of a variable in a snapshot compare it with the snapshot before. A variable is new when it
was not there before, which happens once in a run; and a variable without flags has kept its value.

- `WrittenBy` relates two snapshots by the writes between them, and `writtenBy_succ` shows that
  every step of every run is of this form, steps that fail included,
- `FlagsTell` is what the flags tell about the two snapshots,
- `showsNew_once`: every variable is new in one snapshot of a run and in no other.

The flag for modified variables tells less than it seems to. It is set when one of the values that
the step writes differs from the value before the step (`WrittenBy.isModified_iff`), and a call that
writes a parameter twice may put the old value back.
-/

namespace Stepwise

namespace Snapshot

/-- Snapshot `after` shows the table of snapshot `before` after some writes, with the changes that
    they make. -/
def WrittenBy (before after : Snapshot) (writes : List (Text × Value)) : Prop :=
  ∃ (table table' : VariableTable) (scope scope' : Text) (changes changes' : Changes),
    before.bindings = table.view scope changes ∧ table.Distinct ∧
    after.bindings = table'.view scope' changes' ∧ table'.Distinct ∧
    Tracks table writes table' changes'

namespace WrittenBy

variable {before after : Snapshot} {writes : List (Text × Value)} {v : Variable}

/-- A variable is new when there was none of its name. -/
theorem isNew_iff (h : WrittenBy before after writes) (hv : v ∈ after.bindings) :
    v.isNew = true ↔ ∀ u ∈ before.bindings, u.name ≠ v.name := by
  obtain ⟨table, table', scope, scope', changes, changes', hbefore, hd, hafter, hd', htracks⟩ := h
  rw [hafter] at hv
  rw [hbefore, (VariableTable.flags_of_mem_view hv).1]
  constructor
  · intro hnew u hu hname
    have hnone := ((htracks.isNew v.name).mp hnew).1
    rw [← hname, VariableTable.get?_of_mem_view hd hu] at hnone
    cases hnone
  · intro hnone
    by_cases hnew : changes'.isNew v.name = true
    · exact hnew
    · obtain ⟨old, hold⟩ := htracks.old_of_not_new (by simpa using hnew)
        (VariableTable.get?_of_mem_view hd' hv)
      obtain ⟨u, hu, hname, _⟩ := VariableTable.exists_mem_view hd scope changes hold
      exact absurd hname (hnone u hu)

/-- A variable that is not new was there. -/
theorem exists_old (h : WrittenBy before after writes) (hv : v ∈ after.bindings)
    (hnew : v.isNew = false) :
    ∃ u ∈ before.bindings, u.name = v.name := by
  by_cases hold : ∃ u ∈ before.bindings, u.name = v.name
  · exact hold
  · have hlisted := (h.isNew_iff hv).mpr fun u hu hname => hold ⟨u, hu, hname⟩
    rw [hnew] at hlisted
    cases hlisted

/-- A variable is modified when a value that was written to it, be it the last one or not, is not
    equal to the value that it had. -/
theorem isModified_iff (h : WrittenBy before after writes) (hv : v ∈ after.bindings) :
    v.isModified = true ↔ ∃ u ∈ before.bindings, u.name = v.name ∧
      ∃ value, (v.name, value) ∈ writes ∧ (u.value == value) = false := by
  obtain ⟨table, table', scope, scope', changes, changes', hbefore, hd, hafter, hd', htracks⟩ := h
  rw [hafter] at hv
  rw [hbefore, (VariableTable.flags_of_mem_view hv).2, htracks.isModified]
  constructor
  · rintro ⟨old, hold, value, hmem, hdiffers⟩
    obtain ⟨u, hu, hname, rfl⟩ := VariableTable.exists_mem_view hd scope changes hold
    exact ⟨u, hu, hname, value, hmem, hdiffers⟩
  · rintro ⟨u, hu, hname, value, hmem, hdiffers⟩
    have hold := VariableTable.get?_of_mem_view hd hu
    rw [hname] at hold
    exact ⟨u.value, hold, value, hmem, hdiffers⟩

/-- A variable that was there has the value that was written last, or the one that it had. -/
theorem value_cases (h : WrittenBy before after writes) (hv : v ∈ after.bindings) {u : Variable}
    (hu : u ∈ before.bindings) (hname : u.name = v.name) :
    (v.name, v.value) ∈ writes ∨ u.value = v.value := by
  obtain ⟨table, table', scope, scope', changes, changes', hbefore, hd, hafter, hd', htracks⟩ := h
  rw [hafter] at hv
  rw [hbefore] at hu
  have hvalue := VariableTable.get?_of_mem_view hd' hv
  rw [htracks.value, ← hname, VariableTable.get?_of_mem_view hd hu, hname] at hvalue
  cases hlookup : writes.reverse.lookup v.name with
  | none =>
    rw [hlookup] at hvalue
    exact .inr (Option.some.inj hvalue)
  | some value =>
    rw [hlookup] at hvalue
    obtain rfl : value = v.value := Option.some.inj hvalue
    exact .inl (Tracks.mem_of_lookup hlookup)

/-- Only variables that were written have flags. -/
theorem exists_write (h : WrittenBy before after writes) (hv : v ∈ after.bindings)
    (hflag : v.isNew = true ∨ v.isModified = true) : ∃ value, (v.name, value) ∈ writes := by
  rcases hflag with hnew | hmodified
  · obtain ⟨table, table', scope, scope', changes, changes', _, _, hafter, _, htracks⟩ := h
    rw [hafter] at hv
    rw [(VariableTable.flags_of_mem_view hv).1] at hnew
    exact ((htracks.isNew v.name).mp hnew).2
  · obtain ⟨u, _, _, value, hmem, _⟩ := (h.isModified_iff hv).mp hmodified
    exact ⟨value, hmem⟩

end WrittenBy
end Snapshot

/-- The snapshot has a variable of the name that is flagged as new. -/
def Snapshot.ShowsNew (s : Snapshot) (name : Text) : Prop :=
  ∃ v ∈ s.bindings, v.name = name ∧ v.isNew = true

/-! ### What flags tell -/

/-- The flags of the second snapshot tell how its variables differ from those of the first;
    `targets` are the names that the step between them may write. -/
structure FlagsTell (before after : Snapshot) (targets : List Text) : Prop where
  /-- The new variables are those that were not there. -/
  isNew : ∀ v ∈ after.bindings, v.isNew = true ↔ ∀ u ∈ before.bindings, u.name ≠ v.name
  /-- No variable has both flags. -/
  exclusive : ∀ v ∈ after.bindings, ¬ (v.isNew = true ∧ v.isModified = true)
  /-- A variable without flags was there with the same value or an equal one. -/
  unflagged : ∀ v ∈ after.bindings, v.isNew = false → v.isModified = false →
    ∃ u ∈ before.bindings, u.name = v.name ∧ (u.value = v.value ∨ (u.value == v.value) = true)
  /-- Only names that the step writes have flags. -/
  written : ∀ v ∈ after.bindings, v.isNew = true ∨ v.isModified = true → v.name ∈ targets

/-- The flags are right whatever the step writes, one name several times included. -/
theorem Snapshot.WrittenBy.flagsTell {before after : Snapshot} {writes : List (Text × Value)}
    (h : WrittenBy before after writes) {targets : List Text}
    (htargets : ∀ name value, (name, value) ∈ writes → name ∈ targets) :
    FlagsTell before after targets where
  isNew v hv := h.isNew_iff hv
  exclusive v hv := by
    rintro ⟨hnew, hmodified⟩
    obtain ⟨u, hu, hname, _⟩ := (h.isModified_iff hv).mp hmodified
    exact (h.isNew_iff hv).mp hnew u hu hname
  unflagged v hv hnew hmodified := by
    obtain ⟨u, hu, hname⟩ := h.exists_old hv hnew
    have hlisted : ¬ ∃ u ∈ before.bindings, u.name = v.name ∧
        ∃ value, (v.name, value) ∈ writes ∧ (u.value == value) = false := by
      rw [← h.isModified_iff hv, hmodified]
      exact Bool.false_ne_true
    refine ⟨u, hu, hname, ?_⟩
    rcases h.value_cases hv hu hname with hmem | hvalue
    · -- the last write was to an equal value, since no write was to another one
      refine .inr ?_
      by_cases heq : (u.value == v.value) = true
      · exact heq
      · exact absurd ⟨u, hu, hname, v.value, hmem, by simpa using heq⟩ hlisted
    · exact .inl hvalue
  written v hv hflag := by
    obtain ⟨value, hmem⟩ := h.exists_write hv hflag
    exact htargets v.name value hmem

/-! ### Steps -/

/-- The table after a step and the flags of its snapshot are those of the writes of its
    statement. -/
theorem Runner.step_tracks (r : Runner) (state : RunState) (n line : Nat) (isLast : Bool)
    (statement : Statement) :
    ∃ scope changes, (r.step state n isLast line statement).snapshot.bindings =
        (r.step state n isLast line statement).state.bindings.view scope changes ∧
      Tracks state.bindings (statement.writes r.table state.bindings line)
        (r.step state n isLast line statement).state.bindings changes := by
  rcases r.step_cases state n line isLast statement with ⟨effect, hexec, heq⟩ | ⟨name, hexec, heq⟩
  · obtain ⟨calls, hfollows⟩ := execute_follows hexec
    refine ⟨effect.state.stack.scope, effect.changes, by rw [heq]; rfl, ?_⟩
    rw [heq, hfollows.changes]
    show Tracks _ _ effect.state.bindings _
    rw [hfollows.bindings]
    exact tracks_assignAll _ _
  · refine ⟨state.stack.scope, .none, by rw [heq]; rfl, ?_⟩
    rw [heq, writes_of_error hexec]
    exact .nil _

namespace Recording

variable {settings : Settings} {clock : Nat → Instant} {source : Text} {table : DeclarationTable}

/-- The line that step `k + 1` executes, with its number and the declarations of the script; none if
    the script is rejected or has no such line. -/
def lineAt? (source : Text) (k : Nat) : Option (DeclarationTable × Nat × Statement) :=
  match DeclarationTable.ofListing (.ofText source) with
  | .ok table => ((Runner.executable table (.ofText source))[k]?).map fun line => (table, line)
  | .error _ => none

/-- The names that step `k + 1` may write: the assigned name, or the parameters of the called
    function. -/
def targetsAt (source : Text) (k : Nat) : List Text :=
  match lineAt? source k with
  | some (table, _, statement) => statement.targets table
  | none => []

/-- The names that step `k + 1` writes, with their values and in order. -/
def writesAt (settings : Settings) (clock : Nat → Instant) (source : Text) (k : Nat) :
    List (Text × Value) :=
  match lineAt? source k with
  | some (table, line, statement) =>
    statement.writes table (RunState.ofSnapshot ((historyOf settings clock source).get k)).bindings
      line
  | none => []

theorem mem_targetsAt {k : Nat} {name : Text} {value : Value}
    (h : (name, value) ∈ writesAt settings clock source k) : name ∈ targetsAt source k := by
  unfold writesAt at h
  unfold targetsAt
  cases hline : lineAt? source k with
  | none =>
    rw [hline] at h
    cases h
  | some line =>
    obtain ⟨table, number, statement⟩ := line
    rw [hline] at h
    exact mem_targets_of_writes h

/-- Every step writes what its line says, or nothing if it fails. -/
theorem writtenBy_succ {k : Nat} (hk : k < (historyOf settings clock source).totalSteps) :
    ((historyOf settings clock source).get k).WrittenBy
      ((historyOf settings clock source).get (k + 1 : Nat))
      (writesAt settings clock source k) := by
  unfold writesAt lineAt?
  cases hbuild : DeclarationTable.ofListing (.ofText source) with
  | error fault =>
    -- a rejected script has no variables
    obtain ⟨rfl, hget⟩ := get_of_rejected hbuild hk
    rw [hget]
    exact ⟨.empty, .empty, [], [], .none, .none, rfl, List.nodup_nil, rfl, List.nodup_nil, .nil _⟩
  | ok table =>
    obtain ⟨s, line, statement, hs, hline, hstep, hget⟩ := step_at hbuild hk
    obtain ⟨hshows, hd⟩ : _ ∧ VariableTable.Distinct _ := shows_get hbuild (Nat.le_of_lt hk)
    obtain ⟨changes, hbindings⟩ := hshows.bindings
    have hd' : s.state.bindings.Distinct := by
      rw [hstep]
      exact Runner.step_distinct _ _ _ _ _ _ hd
    obtain ⟨scope, changes', hview, htracks⟩ := (runner settings clock table).step_tracks
      (.ofSnapshot ((historyOf settings clock source).get k)) (k + 1) line
      (k + 1 == (Runner.executable table (.ofText source)).length) statement
    rw [← hstep] at hview htracks
    rw [hget]
    simp only [hline, Option.map_some]
    exact ⟨_, _, _, scope, changes, changes', hbindings, hd, hview, hd', htracks⟩

/-! ### New variables -/

/-- The variables that are new in a snapshot are those that the one before it does not have. -/
theorem showsNew_succ_iff {k : Nat} (hk : k < (historyOf settings clock source).totalSteps)
    (name : Text) :
    ((historyOf settings clock source).get (k + 1 : Nat)).ShowsNew name ↔
      name ∈ ((historyOf settings clock source).get (k + 1 : Nat)).bindings.map Variable.name ∧
      name ∉ ((historyOf settings clock source).get k).bindings.map Variable.name := by
  have hwritten : Snapshot.WrittenBy _ _ (writesAt settings clock source k) := writtenBy_succ hk
  constructor
  · rintro ⟨v, hv, rfl, hnew⟩
    refine ⟨List.mem_map_of_mem hv, ?_⟩
    intro hmem
    obtain ⟨u, hu, hname⟩ := List.mem_map.mp hmem
    exact (hwritten.isNew_iff hv).mp hnew u hu hname
  · rintro ⟨hmem, hnot⟩
    obtain ⟨v, hv, rfl⟩ := List.mem_map.mp hmem
    refine ⟨v, hv, rfl, (hwritten.isNew_iff hv).mpr ?_⟩
    intro u hu hname
    exact hnot (List.mem_map.mpr ⟨u, hu, hname⟩)

/-- A variable of a snapshot was new at some step before. -/
theorem exists_showsNew {n : Nat} (hn : n ≤ (historyOf settings clock source).totalSteps)
    {name : Text}
    (hmem : name ∈ ((historyOf settings clock source).get n).bindings.map Variable.name) :
    ∃ k : Nat, k < n ∧ ((historyOf settings clock source).get (k + 1 : Nat)).ShowsNew name := by
  induction n with
  | zero =>
    rw [Int.natCast_zero, History.get_zero] at hmem
    cases hmem
  | succ n ih =>
    by_cases hold : name ∈ ((historyOf settings clock source).get n).bindings.map Variable.name
    · obtain ⟨k, hk, hnew⟩ := ih (by omega) hold
      exact ⟨k, by omega, hnew⟩
    · exact ⟨n, by omega, (showsNew_succ_iff hn name).mpr ⟨hmem, hold⟩⟩

/-- A variable that is new at a step is new at no later one, since no name is ever lost. -/
theorem not_showsNew_later {j k : Nat} (hjk : j < k)
    (hk : k < (historyOf settings clock source).totalSteps) {name : Text}
    (hj : ((historyOf settings clock source).get (j + 1 : Nat)).ShowsNew name) :
    ¬ ((historyOf settings clock source).get (k + 1 : Nat)).ShowsNew name := by
  intro hnew
  have hmem := ((showsNew_succ_iff (by omega) name).mp hj).1
  have hextends : Snapshot.Extends _ ((historyOf settings clock source).get k) :=
    extends_get (show j + 1 ≤ k by omega) (Nat.le_of_lt hk)
  exact ((showsNew_succ_iff hk name).mp hnew).2 (hextends.names.subset hmem)

/-- Every variable of a run is new in one snapshot and in no other. -/
theorem showsNew_once {name : Text}
    (hmem : name ∈ (historyOf settings clock source).last.bindings.map Variable.name) :
    ∃ k : Nat, k ≤ (historyOf settings clock source).totalSteps ∧
      ((historyOf settings clock source).get k).ShowsNew name ∧
      ∀ j : Nat, j ≤ (historyOf settings clock source).totalSteps →
        ((historyOf settings clock source).get j).ShowsNew name → j = k := by
  obtain ⟨k, hk, hnew⟩ := exists_showsNew (Nat.le_refl _) hmem
  refine ⟨k + 1, hk, hnew, ?_⟩
  intro j hj hnew'
  cases j with
  | zero =>
    -- the initial snapshot has no variables
    obtain ⟨v, hv, _⟩ := hnew'
    cases hv
  | succ j =>
    rcases Nat.lt_trichotomy j k with hlt | rfl | hgt
    · exact absurd hnew (not_showsNew_later hlt hk hnew')
    · rfl
    · exact absurd hnew' (not_showsNew_later hgt hj hnew)

/-- The flags of every snapshot tell how its variables differ from those of the snapshot before it,
    also when the step fails, and every variable of a run is new in exactly one snapshot. -/
theorem flags_tell_changes (settings : Settings) (clock : Nat → Instant) (source : Text) :
    let history := (ofSource settings clock source).history
    (∀ k : Nat, k < history.totalSteps →
      FlagsTell (history.get k) (history.get (k + 1 : Nat)) (targetsAt source k)) ∧
    (∀ name ∈ history.last.bindings.map Variable.name,
      ∃ k : Nat, k ≤ history.totalSteps ∧ (history.get k).ShowsNew name ∧
        ∀ j : Nat, j ≤ history.totalSteps → (history.get j).ShowsNew name → j = k) := by
  intro history
  refine ⟨?_, ?_⟩
  · intro k hk
    exact (writtenBy_succ hk).flagsTell fun _ _ => mem_targetsAt
  · intro name hmem
    exact showsNew_once hmem

/-! ### Modified variables -/

/-- When the flag for modified variables is set. The variable was there before the step, and its
    value is another one now; or it was and is `nan`, and was written; or a write of the step gave
    it another value, but the last one put a value back that is equal to the old one. Only the first
    is a change that can be seen in the two snapshots. -/
theorem modified_flag_iff (settings : Settings) (clock : Nat → Instant) (source : Text) {k : Nat}
    (hk : k < (historyOf settings clock source).totalSteps) {v : Variable}
    (hv : v ∈ ((historyOf settings clock source).get (k + 1 : Nat)).bindings) :
    let writes := writesAt settings clock source k
    v.isModified = true ↔
      ∃ u ∈ ((historyOf settings clock source).get k).bindings, u.name = v.name ∧
      (¬ u.value.Same v.value ∨
        (u.value = .number .nan ∧ v.value = .number .nan ∧ ∃ value, (v.name, value) ∈ writes) ∨
        ((u.value == v.value) = true ∧ ∃ value, (v.name, value) ∈ writes ∧
          (u.value == value) = false)) := by
  intro writes
  have hwritten : Snapshot.WrittenBy _ _ writes := writtenBy_succ hk
  rw [hwritten.isModified_iff hv]
  constructor
  · rintro ⟨u, hu, hname, value, hmem, hdiffers⟩
    refine ⟨u, hu, hname, ?_⟩
    by_cases hsame : u.value.Same v.value
    · rcases Value.same_iff.mp hsame with heq | ⟨hnan, hnan'⟩
      · exact .inr (.inr ⟨heq, value, hmem, hdiffers⟩)
      · exact .inr (.inl ⟨hnan, hnan', value, hmem⟩)
    · exact .inl hsame
  · rintro ⟨u, hu, hname, hcase⟩
    refine ⟨u, hu, hname, ?_⟩
    rcases hcase with hdiffers | ⟨hnan, _, value, hmem⟩ | ⟨_, value, hmem, hdiffers⟩
    · -- another value can only come from a write
      rcases hwritten.value_cases hv hu hname with hmem | hvalue
      · refine ⟨v.value, hmem, ?_⟩
        simpa using fun heq => hdiffers (.inr heq)
      · exact absurd (.inl hvalue) hdiffers
    · exact ⟨value, hmem, by rw [hnan]; exact Value.nan_beq value⟩
    · exact ⟨value, hmem, hdiffers⟩

/-- The call writes the variable twice and puts the old value back. -/
theorem modified_flag_iff_value_put_back :
    let source : Text := "function f(a, a) \x7b\n\x7d\na = true\nf(false, true)"
    let history := (ofSource .default (fun _ => .epoch) source).history
    let v : Variable := ⟨"a", .boolean true, .boolean, "f", false, true⟩
    let writes := writesAt .default (fun _ => .epoch) source 1
    1 < history.totalSteps ∧ v ∈ (history.get 2).bindings ∧
      writes = [("a".toList, .boolean false), ("a".toList, .boolean true)] ∧
      ∃ u ∈ (history.get 1).bindings, u.name = v.name ∧
        (¬ u.value.Same v.value ∨
          (u.value = .number .nan ∧ v.value = .number .nan ∧ ∃ value, (v.name, value) ∈ writes) ∨
          ((u.value == v.value) = true ∧
            ∃ value, (v.name, value) ∈ writes ∧ (u.value == value) = false)) := by
  intro source history v writes
  have hk : 1 < history.totalSteps := by decide +kernel
  have hbindings : (history.get 2).bindings = [v] := by decide +kernel
  have hv : v ∈ (history.get 2).bindings := by
    rw [hbindings]
    exact List.mem_singleton_self v
  exact ⟨hk, hv, by decide +kernel,
    (modified_flag_iff .default (fun _ => .epoch) source hk hv).mp rfl⟩

/-- A call that gives a parameter another value and then the old one again sets the flag, although
    the two snapshots show the same value. -/
theorem modified_flag_without_change :
    let source : Text := "function f(a, a) \x7b\n\x7d\na = 1\nf(2, 1)"
    let history := (ofSource .default (fun _ => .epoch) source).history
    ¬ ∀ v ∈ (history.get 2).bindings, v.isModified = true →
      ∃ u ∈ (history.get 1).bindings, u.name = v.name ∧ ¬ u.value.Same v.value := by
  decide +kernel

-- nor does `nan` change when it is written again
example :
    let history := (ofSource .default (fun _ => .epoch) "x = 0 / 0\nx = 0 / 0").history
    (history.get 1).bindings.map Variable.value = [.number .nan] ∧
      (history.get 2).bindings.map Variable.value = [.number .nan] ∧
      (history.get 2).bindings.map Variable.isModified = [true] := by
  decide +kernel

end Recording
end Stepwise
