import Stepwise.Proofs.Ending
import Stepwise.Proofs.Atomicity

/-!
# Growth of snapshots

From one snapshot to the next, the log, the output, the calls and the names of the variables only
grow at their ends. The log grows by one entry with each step that does not fail, so entry `i` of
any later log is the one that step `i` wrote, and tells what snapshot `i` shows.

- `extends_get`: every snapshot extends all earlier ones,
- `logged_get`: the entries of a log and the snapshots before it tell the same,
- `lastEntry?_of_failed`: a step that fails has no entry.
-/

namespace Stepwise

/-! ### Growth -/

/-- The second snapshot has all of the first one at the beginnings of its lists. -/
structure Snapshot.Extends (before after : Snapshot) : Prop where
  log : before.log <+: after.log
  output : before.output <+: after.output
  callStack : before.callStack <+: after.callStack
  names : before.bindings.map Variable.name <+: after.bindings.map Variable.name

theorem Snapshot.Extends.refl (s : Snapshot) : s.Extends s :=
  ⟨List.prefix_refl _, List.prefix_refl _, List.prefix_refl _, List.prefix_refl _⟩

theorem Snapshot.Extends.trans {s₁ s₂ s₃ : Snapshot} (h₁ : s₁.Extends s₂) (h₂ : s₂.Extends s₃) :
    s₁.Extends s₃ :=
  ⟨h₁.log.trans h₂.log, h₁.output.trans h₂.output, h₁.callStack.trans h₂.callStack,
    h₁.names.trans h₂.names⟩

/-- A snapshot that shows a state has the names of the state. -/
theorem Snapshot.Shows.names {s : Snapshot} {state : RunState} (h : s.Shows state) :
    s.bindings.map Variable.name = state.bindings.names := by
  obtain ⟨changes, hbindings⟩ := h.bindings
  rw [hbindings, VariableTable.view_names]

/-- To keep everything is to extend it by nothing. -/
theorem Untouched.extends {before after : Snapshot} (h : Untouched before after) :
    before.Extends after := by
  constructor
  · exact h.log ▸ List.prefix_refl _
  · exact h.output ▸ List.prefix_refl _
  · exact h.callStack ▸ List.prefix_refl _
  · rw [h.bindings, List.map_map]
    exact List.prefix_refl _

/-- Every step extends the snapshot before it, also one that fails. -/
theorem Runner.step_extends (r : Runner) {before : Snapshot} {state : RunState}
    (h : before.Shows state) (n line : Nat) (isLast : Bool) (statement : Statement) :
    before.Extends (r.step state n isLast line statement).snapshot := by
  rcases r.step_cases state n line isLast statement with ⟨effect, hexec, heq⟩ | ⟨name, _, heq⟩
  · obtain ⟨writes, calls, hfollows⟩ := execute_ok hexec
    rw [heq]
    constructor
    · rw [h.log, ← hfollows.log]
      exact List.prefix_append _ _
    · rw [h.output]
      exact ⟨_, hfollows.output.symm⟩
    · rw [h.callStack]
      exact ⟨_, hfollows.stack.symm⟩
    · rw [h.names, (succeed_shows r n line isLast effect).names]
      show _ <+: effect.state.bindings.names
      rw [hfollows.bindings]
      exact names_prefix_assignAll writes _ _
  · rw [heq]
    exact (fail_untouched h n line _).extends

/-! ### Log entries -/

/-- The entry tells what the snapshot shows. -/
structure Entry.Describes (e : Entry) (s : Snapshot) : Prop where
  step : e.step = s.step
  line : e.line = s.line
  callStack : e.callStack = s.callStack
  bindings : e.bindings = s.bindings

/-- The step did not fail: it has no fault, or only used up the budget. -/
def Snapshot.Succeeded (s : Snapshot) : Prop :=
  s.fault = none ∨ ∃ limit, s.fault = some (.budgetExceeded limit)

/-- A step that does not fail adds the entry that describes its snapshot. -/
theorem Runner.step_log (r : Runner) (state : RunState) (n line : Nat) (isLast : Bool)
    (statement : Statement)
    (h : (r.step state n isLast line statement).snapshot.Succeeded) :
    ∃ e, (r.step state n isLast line statement).snapshot.log = state.log ++ [e] ∧
      e.Describes (r.step state n isLast line statement).snapshot := by
  rcases r.step_cases state n line isLast statement with ⟨effect, hexec, heq⟩ | ⟨name, _, heq⟩
  · obtain ⟨writes, calls, hfollows⟩ := execute_ok hexec
    rw [heq]
    refine ⟨r.entry n line effect, ?_, rfl, rfl, rfl, rfl⟩
    rw [← hfollows.log]
    rfl
  · rw [heq] at h
    rcases h with h | ⟨limit, h⟩
    · cases h
    · cases h

/-- A step that fails leaves the log as it is. -/
theorem Runner.step_log_of_failed (r : Runner) (state : RunState) (n line : Nat) (isLast : Bool)
    (statement : Statement)
    (h : ¬ (r.step state n isLast line statement).snapshot.Succeeded) :
    (r.step state n isLast line statement).snapshot.log = state.log := by
  rcases r.step_cases state n line isLast statement with ⟨effect, _, heq⟩ | ⟨name, _, heq⟩
  · -- without a failure there is at most the budget to report
    refine absurd ?_ h
    rw [heq, Snapshot.Succeeded, succeed_fault]
    split
    · exact .inr ⟨r.budget, rfl⟩
    · exact .inl rfl
  · rw [heq]
    rfl

/-- A log without an entry of the snapshot's step has no last entry for it. -/
theorem Snapshot.lastEntry?_eq_none {s : Snapshot} (h : ∀ e ∈ s.log, e.step ≠ s.step) :
    s.lastEntry? = none := by
  unfold lastEntry?
  cases hlast : s.log.getLast? with
  | none => rfl
  | some e =>
    have hne := h e (List.mem_of_getLast? hlast)
    simp [hne]

/-- The log of snapshot `k` has the entries of steps `1` to `k`, each of which describes the
    snapshot of its step. -/
structure Logged (history : History) (k : Nat) : Prop where
  length : (history.get k).log.length = k
  /-- Counted from zero, entry `i` is that of step `i + 1`. -/
  entry : ∀ i < k, ∃ e, (history.get k).log[i]? = some e ∧ e.step = i + 1 ∧
    e.Describes (history.get (i + 1 : Nat))

/-- All steps of a log were taken by then. -/
theorem Logged.step_le {history : History} {k : Nat} (h : Logged history k) :
    ∀ e ∈ (history.get k).log, e.step ≤ k := by
  intro e he
  obtain ⟨i, hi⟩ := List.mem_iff_getElem?.mp he
  have hlt : i < k := by
    rw [← h.length]
    exact (List.getElem?_eq_some_iff.mp hi).1
  obtain ⟨e', he', hstep, _⟩ := h.entry i hlt
  obtain rfl := Option.some.inj (hi.symm.trans he')
  omega

namespace Recording

variable {settings : Settings} {clock : Nat → Instant} {source : Text}

/-! ### Histories -/

/-- Each snapshot extends the one before it. -/
theorem extends_succ {k : Nat} (hk : k < (historyOf settings clock source).totalSteps) :
    ((historyOf settings clock source).get k).Extends
      ((historyOf settings clock source).get (k + 1 : Nat)) := by
  cases hbuild : DeclarationTable.ofListing (.ofText source) with
  | error fault =>
    obtain ⟨rfl, _⟩ := get_of_rejected hbuild hk
    rw [Int.natCast_zero, History.get_zero]
    exact ⟨List.nil_prefix, List.nil_prefix, List.nil_prefix, List.nil_prefix⟩
  | ok table =>
    obtain ⟨_, line, statement, _, _, rfl, hget⟩ := step_at hbuild hk
    rw [hget]
    exact Runner.step_extends _ (shows_get hbuild (Nat.le_of_lt hk)).1 _ _ _ _

/-- Every snapshot extends all earlier ones. -/
theorem extends_get {j k : Nat} (hjk : j ≤ k)
    (hk : k ≤ (historyOf settings clock source).totalSteps) :
    ((historyOf settings clock source).get j).Extends
      ((historyOf settings clock source).get k) := by
  induction k with
  | zero =>
    obtain rfl : j = 0 := by omega
    exact .refl _
  | succ k ih =>
    rcases Nat.lt_or_ge j (k + 1) with hlt | hge
    · exact (ih (by omega) (by omega)).trans (extends_succ hk)
    · obtain rfl : j = k + 1 := by omega
      exact .refl _

/-- The snapshots before the last one did not fail. -/
theorem succeeded_get {k : Nat} (hk : k < (historyOf settings clock source).totalSteps) :
    ((historyOf settings clock source).get k).Succeeded := .inl (get_open hk).2

/-- The log of a step that did not fail has the entries of all steps up to it. -/
theorem logged_get {k : Nat} (hk : k ≤ (historyOf settings clock source).totalSteps)
    (h : ((historyOf settings clock source).get k).Succeeded) :
    Logged (historyOf settings clock source) k := by
  induction k with
  | zero =>
    refine ⟨rfl, ?_⟩
    intro i hi
    omega
  | succ k ih =>
    cases hbuild : DeclarationTable.ofListing (.ofText source) with
    | error fault =>
      rw [(get_of_rejected hbuild hk).2] at h
      rcases h with h | ⟨limit, h⟩
      · cases h
      · cases h
    | ok table =>
      have hlogged := ih (by omega) (succeeded_get hk)
      obtain ⟨_, line, statement, _, _, rfl, hget⟩ := step_at hbuild hk
      rw [hget] at h
      obtain ⟨e, hlog, hdescribes⟩ := Runner.step_log _ _ _ _ _ _ h
      rw [← hget] at hlog hdescribes
      have hlog' : _ = ((historyOf settings clock source).get k).log ++ [e] := hlog
      constructor
      · rw [hlog', List.length_append, hlogged.length, List.length_singleton]
      · intro i hi
        rw [hlog']
        rcases Nat.lt_or_ge i k with hlt | hge
        · have hold : i < ((historyOf settings clock source).get k).log.length := by
            rw [hlogged.length]
            exact hlt
          rw [List.getElem?_append_left hold]
          exact hlogged.entry i hlt
        · -- the new entry
          obtain rfl : i = k := by omega
          refine ⟨e, ?_, ?_, hdescribes⟩
          · rw [List.getElem?_append_right (Nat.le_of_eq hlogged.length), hlogged.length]
            simp
          · rw [hdescribes.step, step_get hk]

/-- The last entry of such a log is that of the snapshot's own step. -/
theorem lastEntry?_of_succeeded {k : Nat} (hpos : 1 ≤ k)
    (hk : k ≤ (historyOf settings clock source).totalSteps)
    (h : ((historyOf settings clock source).get k).Succeeded) :
    ∃ e, ((historyOf settings clock source).get k).log[k - 1]? = some e ∧
      Snapshot.lastEntry? ((historyOf settings clock source).get k) = some e := by
  have hlogged : Logged (historyOf settings clock source) k := logged_get hk h
  obtain ⟨e, he, hstep, _⟩ := hlogged.entry (k - 1) (by omega)
  have hlast : ((historyOf settings clock source).get k).log.getLast? = some e := by
    rw [List.getLast?_eq_getElem?, hlogged.length, he]
  have hown : e.step = ((historyOf settings clock source).get k).step := by
    rw [step_get hk]
    omega
  refine ⟨e, he, ?_⟩
  unfold Snapshot.lastEntry?
  rw [hlast]
  simp [hown]

/-- A step that fails has no entry: its log is the one before it, or is empty. -/
theorem lastEntry?_of_failed {k : Nat} (hk : k ≤ (historyOf settings clock source).totalSteps)
    (h : ¬ ((historyOf settings clock source).get k).Succeeded) :
    Snapshot.lastEntry? ((historyOf settings clock source).get k) = none := by
  cases k with
  | zero => exact absurd (.inl rfl) h
  | succ k =>
    cases hbuild : DeclarationTable.ofListing (.ofText source) with
    | error fault =>
      rw [(get_of_rejected hbuild hk).2]
      rfl
    | ok table =>
      have hlogged : Logged (historyOf settings clock source) k :=
        logged_get (Nat.le_of_lt hk) (succeeded_get hk)
      obtain ⟨_, line, statement, _, _, rfl, hget⟩ := step_at hbuild hk
      have hlog := (runner settings clock table).step_log_of_failed _ _ _ _ _ (hget ▸ h)
      apply Snapshot.lastEntry?_eq_none
      intro e he
      rw [hget, hlog] at he
      have hle := hlogged.step_le e he
      rw [step_get hk]
      omega

/-- Histories accumulate. Every snapshot has the log, the output, the calls and the names of each
    earlier one at the beginning of its own. After a step that did not fail, be it cut off by the
    budget, the log has one entry for each step so far, which tells what the snapshot of that step
    shows, and the last entry is that of the step itself; a step that failed and a script that was
    rejected have no entry of their own. -/
theorem history_accumulates (settings : Settings) (clock : Nat → Instant) (source : Text) :
    let history := (ofSource settings clock source).history
    (∀ j k : Nat, j ≤ k → k ≤ history.totalSteps → (history.get j).Extends (history.get k)) ∧
    (∀ k : Nat, 1 ≤ k → k ≤ history.totalSteps → (history.get k).Succeeded →
      Logged history k ∧
      ∃ e, (history.get k).log[k - 1]? = some e ∧ Snapshot.lastEntry? (history.get k) = some e) ∧
    (∀ k : Nat, k ≤ history.totalSteps → ¬ (history.get k).Succeeded →
      Snapshot.lastEntry? (history.get k) = none) := by
  intro history
  refine ⟨?_, ?_, ?_⟩
  · intro j k hjk hk
    exact extends_get hjk hk
  · intro k hpos hk hsucceeded
    exact ⟨logged_get hk hsucceeded, lastEntry?_of_succeeded hpos hk hsucceeded⟩
  · intro k hk hfailed
    exact lastEntry?_of_failed hk hfailed

-- the step that uses up the budget has its entry, the step that fails has none
example :
    let cut := (ofSource { Settings.default with maxSteps := 1 } (fun _ => .epoch)
      "x = true\ny = x").history
    let failed := (ofSource .default (fun _ => .epoch) "x = true\ny = z").history
    cut.last.fault = some (.budgetExceeded 1) ∧ cut.last.log.map Entry.step = [1] ∧
      cut.last.lastEntry?.isSome ∧
    failed.last.fault = some (.undefinedVariable "z" 2) ∧ failed.last.log.map Entry.step = [1] ∧
      failed.last.lastEntry?.isNone := by
  decide +kernel

end Recording
end Stepwise
