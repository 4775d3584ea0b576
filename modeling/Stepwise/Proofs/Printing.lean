import Mathlib.Data.List.Forall2
import Stepwise.Proofs.Interchange
import Stepwise.Proofs.StructuralLines

/-!
# Printed texts

A line of output leaves its value in three places: the printed text is passed on to the sink, it is
added to the output of the snapshots, and the log tells the value with quotes around text. The three
are written at different moments of a step, and a run may end between any two steps.

- `execute_prints`: a statement prints exactly when its log entry is one of output, and both tell
  the same value,
- `RecordsPrint` is what a log entry of output and a printed text have to do with each other;
  `recordsPrint_succ` is one step of a run, `recordsPrints_get` the whole run,
- `printed_eq_output`: the texts that are passed on are the output of the last snapshot,
- `output_reaches_sink_and_log` puts these together.
-/

namespace Stepwise

/-! ### Single statements -/

/-- The effect is that of printing a value. -/
structure Effect.Prints (effect : Effect) (value : Value) : Prop where
  action : effect.action = .consoleOutput
  printed : effect.printed = some value.display
  details : effect.details = "console.log(".toList ++ value.literal ++ [')']

/-- A statement prints when it is one of output, and then it prints the value of its expression. -/
theorem execute_prints {table : DeclarationTable} {state : RunState} {line : Nat}
    {statement : Statement} {effect : Effect}
    (h : execute table state line statement = .ok effect) :
    (effect.action ≠ .consoleOutput ∧ effect.printed = none) ∨
    ∃ expression value, statement = .output expression ∧
      Expression.evaluate state.bindings line expression = .ok value ∧ effect.Prints value := by
  cases statement with
  | output expression =>
    obtain ⟨value, hvalue, h⟩ := bind_ok h
    cases h
    exact .inr ⟨expression, value, rfl, hvalue, rfl, rfl, rfl⟩
  | assignment name expression =>
    obtain ⟨value, _, h⟩ := bind_ok h
    cases h
    exact .inl ⟨Action.noConfusion, rfl⟩
  | call name arguments =>
    obtain ⟨values, _, h⟩ := bind_ok h
    cases h
    exact .inl ⟨Action.noConfusion, rfl⟩
  | condition expression =>
    obtain ⟨value, _, h⟩ := bind_ok h
    cases h
    exact .inl ⟨Action.noConfusion, rfl⟩
  | loop clause =>
    cases h
    exact .inl ⟨Action.noConfusion, rfl⟩
  | expression text =>
    cases h
    exact .inl ⟨Action.noConfusion, rfl⟩

/-! ### Output in snapshots -/

/-- The log entry and the printed text are those of one value: the one that the expression of the
    entry's line has in the variables before the entry's step. -/
structure RecordsPrint (source : Text) (table : DeclarationTable) (history : History) (e : Entry)
    (text : Text) :
    Prop where
  /-- The entry is that of a step of the history. -/
  step_le : 1 ≤ e.step ∧ e.step ≤ history.totalSteps
  entry : Snapshot.lastEntry? (history.get e.step) = some e
  value : ∃ line expression value, (Listing.ofText source).get? e.line = some line ∧
    Statement.ofLine table line = .output expression ∧
    Expression.evaluate (RunState.ofSnapshot (history.get (e.step - 1 : Nat))).bindings
      e.line expression =
      .ok value ∧
    text = value.display ∧ e.details = "console.log(".toList ++ value.literal ++ [')']

namespace Recording

variable {settings : Settings} {clock : Nat → Instant} {source : Text} {table : DeclarationTable}

section accepted
variable (hbuild : DeclarationTable.ofListing (.ofText source) = .ok table)
include hbuild

/-- One step adds an entry of output to the log and the text of its value to the output, or
    neither. -/
theorem recordsPrint_succ {k : Nat} (hk : k < (historyOf settings clock source).totalSteps) :
    let before := (historyOf settings clock source).get k
    let after := (historyOf settings clock source).get (k + 1 : Nat)
    (after.output = before.output ∧
      after.log.filter (·.action = .consoleOutput) =
        before.log.filter (·.action = .consoleOutput)) ∨
    ∃ e text, after.output = before.output ++ [text] ∧
      after.log.filter (·.action = .consoleOutput) =
        before.log.filter (·.action = .consoleOutput) ++ [e] ∧
      RecordsPrint source table (historyOf settings clock source) e text := by
  intro before after
  rcases executes_or_fails hbuild hk with ⟨number, line, effect, hexec⟩ | ⟨number, fault, hafter⟩
  · let e := (runner settings clock table).entry (k + 1) number effect
    obtain ⟨_, hfollows⟩ := execute_follows hexec.executed
    have houtput : after.output = before.output ++ effect.printed.toList :=
      hexec.shows.output.trans hfollows.output
    have haction : e.action = effect.action := rfl
    rw [show after.log = before.log ++ [e] from hexec.log, houtput, List.filter_append]
    rcases execute_prints hexec.executed with ⟨hother, hsilent⟩ |
      ⟨expression, value, hstatement, hvalue, hprints⟩
    · rw [List.filter_singleton, haction, decide_eq_false hother, hsilent]
      exact .inl ⟨List.append_nil _, List.append_nil _⟩
    · rw [List.filter_singleton, haction, decide_eq_true hprints.action, hprints.printed]
      exact .inr ⟨e, value.display, rfl, rfl, ⟨Nat.succ_pos k, hk⟩, hexec.lastEntry, line,
        expression, value, hexec.line, hstatement, hvalue, rfl, hprints.details⟩
  · -- a step that fails adds nothing
    refine .inl ?_
    rw [show after = _ from hafter]
    exact ⟨rfl, rfl⟩

/-- The texts of a snapshot are those of the entries of output in its log, in order. -/
theorem recordsPrints_get {k : Nat} (hk : k ≤ (historyOf settings clock source).totalSteps) :
    List.Forall₂ (RecordsPrint source table (historyOf settings clock source))
      (((historyOf settings clock source).get k).log.filter (·.action = .consoleOutput))
      ((historyOf settings clock source).get k).output := by
  induction k with
  | zero =>
    rw [Int.natCast_zero, History.get_zero]
    exact .nil
  | succ k ih =>
    rcases recordsPrint_succ hbuild hk with ⟨houtput, hlog⟩ | ⟨e, text, houtput, hlog, hrecords⟩
    · rw [houtput, hlog]
      exact ih (Nat.le_of_lt hk)
    · rw [houtput, hlog]
      exact List.rel_append (ih (Nat.le_of_lt hk)) (.cons hrecords .nil)

/-- What is passed on to a sink is the output of the last snapshot. -/
theorem printed_eq_output : (stepsOf settings clock table source).filterMap Step.printed =
    (historyOf settings clock source).last.output := by
  rw [History.last_eq, output_get hbuild (Nat.le_refl _), totalSteps_eq_length hbuild,
    List.take_length]

end accepted

/-- Times aside, the last snapshot does not depend on the clock. -/
theorem last_untimed (settings : Settings) (clock clock' : Nat → Instant) (source : Text) :
    (historyOf settings clock' source).last.untimed =
      (historyOf settings clock source).last.untimed := by
  have hlater := later_untimed settings clock clock' source
  have htotal : (historyOf settings clock' source).totalSteps =
      (historyOf settings clock source).totalSteps := by
    have hlength := congrArg List.length hlater
    rwa [List.length_map, List.length_map] at hlength
  have hbegins : (historyOf settings clock source).later.map Snapshot.untimed <+:
      (historyOf settings clock' source).later.map Snapshot.untimed := hlater ▸ List.prefix_refl _
  rw [History.last_eq, History.last_eq, htotal]
  exact History.get_eq_of_prefix_map Snapshot.untimed hbegins (Nat.le_refl _)

/-- A run with a sink passes on the output of the last snapshot and then gives the record of the run
    without one; a script that is rejected passes on nothing. -/
theorem ofSourceWith_eq_output {m : Type → Type} [Monad m] [LawfulMonad m] (sink : Text → m Unit)
    (settings : Settings) (clock : Nat → Instant) (source : Text) :
    ofSourceWith sink settings clock source = (do
      (ofSource settings clock source).history.last.output.forM sink
      pure (ofSource settings clock source)) := by
  cases hbuild : DeclarationTable.ofListing (.ofText source) with
  | error fault =>
    have hrejected : ofSource settings clock source = rejected settings source fault := by
      simp only [ofSource, hbuild]
    have houtput : (rejected settings source fault).history.last.output = [] := rfl
    simp [ofSourceWith, hbuild, hrejected, houtput]
  | ok table =>
    rw [ofSourceWith_eq hbuild, printed_eq_output hbuild]

/-- Output reaches the sink and the log. A run with a sink passes on the output of the last snapshot
    of the run without one, text by text and in order, and has the same snapshots, times aside. In
    every snapshot there is one text of output for each entry of output in the log, in the same
    order: the text is the printed form and the entry has the literal form of the one value that the
    line's expression had at that step. -/
theorem output_reaches_sink_and_log (settings : Settings) (clock clock' : Nat → Instant)
    (source : Text) (m : Type → Type) [Monad m] [LawfulMonad m] (sink : Text → m Unit) :
    let history := (ofSource settings clock source).history
    ((fun r => r.history.snapshots.map Snapshot.untimed) <$>
        ofSourceWith sink settings clock' source = do
      history.last.output.forM sink
      pure (history.snapshots.map Snapshot.untimed)) ∧
    ∀ table, DeclarationTable.ofListing (.ofText source) = .ok table →
      ∀ k : Nat, k ≤ history.totalSteps →
      List.Forall₂ (RecordsPrint source table history)
        ((history.get k).log.filter (·.action = .consoleOutput)) (history.get k).output := by
  intro history
  constructor
  · -- the two clocks differ in the times of the log only
    have hlater := later_untimed settings clock clock' source
    have hsnapshots : (ofSource settings clock' source).history.snapshots.map Snapshot.untimed =
        history.snapshots.map Snapshot.untimed := congrArg (Snapshot.initial.untimed :: ·) hlater
    have houtput : (ofSource settings clock' source).history.last.output = history.last.output := by
      have hsame := congrArg Snapshot.output (last_untimed settings clock clock' source)
      exact hsame
    rw [ofSourceWith_eq_output, map_bind, houtput]
    simp only [map_pure, hsnapshots]
  · intro table hbuild k hk
    exact recordsPrints_get hbuild hk

/-- Two texts are printed before the run fails; the sink is given both, and the log has the second
    one in quotes. -/
theorem output_reaches_sink_and_log_before_failure :
    let source : Text := "x = 'a'\nconsole.log(true)\nconsole(log(x + true))\nconsole.log(y)"
    let sink : Text → StateM (List Text) Unit := fun text => modify (· ++ [text])
    let history := (ofSource .default (fun _ => .epoch) source).history
    let table := DeclarationTable.empty
    history.last.fault = some (.undefinedVariable "y" 4) ∧
      history.last.output = ["true".toList, "atrue".toList] ∧
      (history.last.log.map Entry.details).drop 1 =
        ["console.log(true)".toList, "console.log(\"atrue\")".toList] ∧
      ((ofSourceWith sink .default (fun _ => .epoch) source).run []).2 = history.last.output ∧
      (fun r => r.history.snapshots.map Snapshot.untimed) <$>
          ofSourceWith sink .default (fun _ => .epoch) source = (do
        history.last.output.forM sink
        pure (history.snapshots.map Snapshot.untimed)) ∧
      DeclarationTable.ofListing (.ofText source) = .ok table ∧ 4 ≤ history.totalSteps ∧
      List.Forall₂ (RecordsPrint source table history)
        ((history.get 4).log.filter (·.action = .consoleOutput)) (history.get 4).output := by
  intro source sink history table
  have hbuild : DeclarationTable.ofListing (.ofText source) = .ok table := by decide +kernel
  have hk : 4 ≤ history.totalSteps := by decide +kernel
  obtain ⟨hsink, hlog⟩ :=
    output_reaches_sink_and_log .default (fun _ => .epoch) (fun _ => .epoch) source
    (StateM (List Text)) sink
  exact ⟨by decide +kernel, by decide +kernel, by decide +kernel, by decide +kernel,
    hsink, hbuild, hk, hlog table hbuild 4 hk⟩

end Recording
end Stepwise
