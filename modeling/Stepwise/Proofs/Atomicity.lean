import Stepwise.Proofs.Output

/-!
# Steps that fail

A line fails when a name that it reads has no value. All reading comes before the first write, so
that a line that fails has done nothing: its snapshot is the one before it without the flags, and no
text is passed on.

- `Untouched` is what a snapshot keeps of the one before it,
- `untouched_of_fault` and `silent_of_fault` are the two halves of the result about runs.
-/

namespace Stepwise

/-- The second snapshot has all of the first, and its variables carry no flags. -/
structure Untouched (before after : Snapshot) : Prop where
  callStack : after.callStack = before.callStack
  output : after.output = before.output
  log : after.log = before.log
  bindings : after.bindings = before.bindings.map Variable.unflagged

namespace Runner

/-- A step that fails leaves everything as the snapshot before it shows it. -/
theorem fail_untouched {before : Snapshot} {state : RunState} (h : before.Shows state)
    (n line : Nat) (fault : Fault) : Untouched before (fail state n line fault).snapshot where
  callStack := h.callStack.symm
  output := h.output.symm
  log := h.log.symm
  bindings := by
    obtain ⟨changes, hbindings⟩ := h.bindings
    rw [hbindings, VariableTable.view_unflagged]
    rfl

/-- Only a line that fails reports a name without a value. -/
theorem step_eq_fail {r : Runner} {state : RunState} {n line line' : Nat} {isLast : Bool}
    {statement : Statement} {name : Text}
    (h : (r.step state n isLast line statement).snapshot.fault =
      some (.undefinedVariable name line')) :
    r.step state n isLast line statement = fail state n line (.undefinedVariable name line') := by
  rcases r.step_cases state n line isLast statement with ⟨effect, _, heq⟩ | ⟨name', _, heq⟩
  · -- a step that does not fail can only exceed the budget
    rw [heq, succeed_fault] at h
    split at h
    · cases h
    · cases h
  · rw [heq] at h ⊢
    rw [Option.some.inj h]

end Runner

namespace Recording

/-- From step `k + 1` on a run passes nothing on: what is left of it has no effects, and in the
    whole run the sink is given the output of snapshot `k` and nothing else. -/
structure SilentAfter (settings : Settings) (clock : Nat → Instant) (table : DeclarationTable)
    (source : Text) (k : Nat) : Prop where
  rest : ∀ {m : Type → Type} [Monad m] [LawfulMonad m] (sink : Text → m Unit),
    (runner settings clock table).stepsWith sink (k + 1)
      ((Runner.executable table (.ofText source)).drop k)
      (.ofSnapshot ((historyOf settings clock source).get k)) =
    pure ((stepsOf settings clock table source).drop k)
  whole : ∀ {m : Type → Type} [Monad m] [LawfulMonad m] (sink : Text → m Unit),
    ofSourceWith sink settings clock source = (do
      ((historyOf settings clock source).get k).output.forM sink
      pure (ofSource settings clock source))

variable {settings : Settings} {clock : Nat → Instant} {source : Text} {table : DeclarationTable}

/-- A snapshot with a fault is the last one. -/
theorem succ_eq_totalSteps {k : Nat} (hk : k < (historyOf settings clock source).totalSteps)
    {fault : Fault}
    (hfault : ((historyOf settings clock source).get (k + 1 : Nat)).fault = some fault) :
    k + 1 = (historyOf settings clock source).totalSteps := by
  rcases Nat.lt_or_ge (k + 1) (historyOf settings clock source).totalSteps with hlt | hge
  · rw [(get_open hlt).2] at hfault
    cases hfault
  · omega

/-- A script with a faulty declaration reports that and no name without a value. -/
theorem build_of_fault {k line : Nat} {name : Text}
    (hk : k < (historyOf settings clock source).totalSteps)
    (hfault : ((historyOf settings clock source).get (k + 1 : Nat)).fault =
      some (.undefinedVariable name line)) :
    ∃ table, DeclarationTable.ofListing (.ofText source) = .ok table := by
  cases hbuild : DeclarationTable.ofListing (.ofText source) with
  | ok table => exact ⟨table, rfl⟩
  | error fault =>
    rw [(get_of_rejected hbuild hk).2] at hfault
    cases hfault

section accepted
variable (hbuild : DeclarationTable.ofListing (.ofText source) = .ok table)
  {k : Nat} (hk : k < (historyOf settings clock source).totalSteps)
include hbuild hk

section failing
variable {name : Text} {line : Nat}
  (hfault : ((historyOf settings clock source).get (k + 1 : Nat)).fault =
    some (.undefinedVariable name line))
include hfault

/-- The snapshot of a line that fails is the one before it without the flags. -/
theorem untouched_of_fault :
    Untouched ((historyOf settings clock source).get k)
      ((historyOf settings clock source).get (k + 1 : Nat)) := by
  obtain ⟨_, line', statement, _, _, rfl, hget⟩ := step_at hbuild hk
  rw [hget] at hfault ⊢
  rw [Runner.step_eq_fail hfault]
  exact Runner.fail_untouched (shows_get hbuild (Nat.le_of_lt hk)).1 _ _ _

/-- A line that fails prints nothing, and no step follows it. -/
theorem printed_of_fault :
    ((stepsOf settings clock table source).drop k).filterMap Step.printed = [] := by
  obtain ⟨s, line', statement, hs, _, hstep, hget⟩ := step_at hbuild hk
  have hlen : (stepsOf settings clock table source).length = k + 1 := by
    rw [← totalSteps_eq_length hbuild]
    exact (succ_eq_totalSteps hk hfault).symm
  have hprinted : s.printed = none := by
    rw [hget, hstep] at hfault
    rw [hstep, Runner.step_eq_fail hfault]
    rfl
  obtain ⟨hlt, hs⟩ := List.getElem?_eq_some_iff.mp hs
  rw [List.drop_eq_getElem_cons hlt, hs, List.drop_eq_nil_of_le (Nat.le_of_eq hlen)]
  simp [hprinted]

/-- While a line fails, the sink is given nothing. -/
theorem silent_of_fault :
    SilentAfter settings clock table source k where
  rest sink := by
    rw [Runner.stepsWith_eq, ← (run_from hbuild hk).eq_steps, printed_of_fault hbuild hk hfault]
    simp
  whole sink := by
    have hall : (stepsOf settings clock table source).filterMap Step.printed =
        ((historyOf settings clock source).get k).output := by
      calc (stepsOf settings clock table source).filterMap Step.printed
        _ = ((stepsOf settings clock table source).take k).filterMap Step.printed ++
              ((stepsOf settings clock table source).drop k).filterMap Step.printed := by
            rw [← List.filterMap_append, List.take_append_drop]
        _ = ((historyOf settings clock source).get k).output := by
            rw [printed_of_fault hbuild hk hfault, List.append_nil,
              output_get hbuild (Nat.le_of_lt hk)]
    rw [ofSourceWith_eq hbuild, hall]

end failing

/-- A call fails when one of its arguments does. -/
theorem fault_of_argument {line : Nat} {name argument : Text} {arguments : List Text}
    {fault : Fault}
    (hline : (Runner.executable table (.ofText source))[k]? = some (line, .call name arguments))
    (hmem : argument ∈ arguments) (hargument : Expression.evaluate
      (RunState.ofSnapshot ((historyOf settings clock source).get k)).bindings line argument =
        .error fault) :
    ∃ missing, ((historyOf settings clock source).get (k + 1 : Nat)).fault =
      some (.undefinedVariable missing line) := by
  obtain ⟨_, line', statement, _, hline', rfl, hget⟩ := step_at hbuild hk
  cases Option.some.inj (hline.symm.trans hline')
  obtain ⟨fault', hexec⟩ := execute_call_error hmem hargument
  obtain ⟨missing, _, rfl⟩ := execute_error hexec
  refine ⟨missing.trim, ?_⟩
  rw [hget, Runner.step, show (runner settings clock table).table = table from rfl, hexec]
  rfl

end accepted

/-- Lines that fail do nothing. When step `k + 1` reports a name without a value, it is the last
    step, it leaves calls, output, log and variables as they are and clears the flags, and the sink
    is given nothing. A call is such a line as soon as one of its arguments fails, wherever it
    stands and whether or not there is a parameter for it: no parameter is bound and no call is
    added. -/
theorem failed_step_does_nothing (settings : Settings) (clock : Nat → Instant)
    (source : Text) {k : Nat} (hk : k < (historyOf settings clock source).totalSteps) :
    let before := (historyOf settings clock source).get k
    let after := (historyOf settings clock source).get (k + 1 : Nat)
    (∀ name line, after.fault = some (.undefinedVariable name line) →
      k + 1 = (historyOf settings clock source).totalSteps ∧ Untouched before after ∧
      ∃ table, DeclarationTable.ofListing (.ofText source) = .ok table ∧
        SilentAfter settings clock table source k) ∧
    (∀ table, DeclarationTable.ofListing (.ofText source) = .ok table →
      ∀ line name arguments,
        (Runner.executable table (.ofText source))[k]? = some (line, .call name arguments) →
      ∀ argument ∈ arguments, ∀ fault,
        Expression.evaluate (RunState.ofSnapshot before).bindings line argument = .error fault →
      (∃ missing, after.fault = some (.undefinedVariable missing line)) ∧
      Untouched before after) := by
  intro before after
  constructor
  · intro name line hfault
    obtain ⟨table, hbuild⟩ := build_of_fault hk hfault
    exact ⟨succ_eq_totalSteps hk hfault, untouched_of_fault hbuild hk hfault, table, hbuild,
      silent_of_fault hbuild hk hfault⟩
  · intro table hbuild line name arguments hline argument hmem fault hargument
    obtain ⟨missing, hfault⟩ := fault_of_argument hbuild hk hline hmem hargument
    exact ⟨⟨missing, hfault⟩, untouched_of_fault hbuild hk hfault⟩

/-- The second argument of the call fails, for which there is no parameter. -/
theorem failed_step_does_nothing_surplus_argument :
    let source : Text := "function f(a) \x7b\n\x7d\nx = true\nconsole.log(x)\nf(x, missing)"
    let table : DeclarationTable := ⟨[⟨"f", ["a"], [], 1⟩], [1]⟩
    let history := (ofSource .default (fun _ => .epoch) source).history
    2 < history.totalSteps ∧
      (Runner.executable table (.ofText source))[2]? = some (5, .call "f" ["x", "missing"]) ∧
      (history.get 3).fault = some (.undefinedVariable "missing" 5) ∧
      (history.get 2).output = ["true".toList] ∧ Untouched (history.get 2) (history.get 3) ∧
      (∃ missing, (history.get 3).fault = some (.undefinedVariable missing 5)) ∧
      ∃ table, DeclarationTable.ofListing (.ofText source) = .ok table ∧
        SilentAfter .default (fun _ => .epoch) table source 2 := by
  intro source table history
  have hbuild : DeclarationTable.ofListing (.ofText source) = .ok table := rfl
  have hk : 2 < history.totalSteps := by decide +kernel
  have hline : (Runner.executable table (.ofText source))[2]? =
      some (5, .call "f" ["x", "missing"]) := by decide +kernel
  have hfault : (history.get 3).fault = some (.undefinedVariable "missing" 5) := by decide +kernel
  have hargument : Expression.evaluate (RunState.ofSnapshot (history.get 2)).bindings 5
      "missing" = .error (.undefinedVariable "missing" 5) := rfl
  obtain ⟨hfailed, hcall⟩ := failed_step_does_nothing .default (fun _ => .epoch) source hk
  obtain ⟨_, huntouched, hsilent⟩ := hfailed "missing" 5 hfault
  obtain ⟨hmissing, _⟩ :=
    hcall table hbuild 5 "f" ["x", "missing"] hline "missing" (by simp) _ hargument
  exact ⟨hk, hline, hfault, by decide +kernel, huntouched, hmissing, hsilent⟩

end Recording
end Stepwise
