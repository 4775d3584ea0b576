import Stepwise.Proofs.Run

/-!
# Resuming a run

A snapshot holds all that a run needs to go on: the state of the run can be built again from it, and
the lines that are left then give the snapshots that followed.

A run that is resumed is recorded at other times. `untimed` takes the times out of a log, and
`steps_untimed` shows that they are all that changes with the clock.
-/

namespace Stepwise

/-! ### Times -/

/-- The entry without its time. -/
def Entry.untimed (e : Entry) : Entry := { e with recordedAt := .epoch }

/-- The snapshot without the times in its log. -/
def Snapshot.untimed (s : Snapshot) : Snapshot := { s with log := s.log.map Entry.untimed }

/-- The state without the times in its log. -/
def RunState.untimed (state : RunState) : RunState := state.withLog (state.log.map Entry.untimed)

/-- The step without the times in its logs. -/
def Step.untimed (s : Step) : Step :=
  { s with state := s.state.untimed, snapshot := s.snapshot.untimed }

/-- States that differ in times only have the same memory. -/
theorem RunState.eq_withLog_of_untimed {state state' : RunState}
    (h : state'.untimed = state.untimed) :
    state' = state.withLog state'.log ∧
      state'.log.map Entry.untimed = state.log.map Entry.untimed := by
  obtain ⟨bindings, stack, output, log⟩ := state
  obtain ⟨bindings', stack', output', log'⟩ := state'
  simp only [RunState.untimed, RunState.withLog, RunState.mk.injEq] at h ⊢
  obtain ⟨rfl, rfl, rfl, hlog⟩ := h
  exact ⟨⟨rfl, rfl, rfl, trivial⟩, hlog⟩

namespace Runner

variable (r : Runner) {state state' : RunState}

/-- The same runner with another clock. -/
def withClock (r : Runner) (clock : Nat → Instant) : Runner := { r with clock }

theorem succeed_untimed (clock : Nat → Instant) (n line : Nat) (isLast : Bool) {effect : Effect}
    {log : List Entry} (hlog : log.map Entry.untimed = effect.state.log.map Entry.untimed) :
    ((r.withClock clock).succeed n line isLast (effect.withLog log)).untimed =
      (r.succeed n line isLast effect).untimed := by
  simp only [succeed, Effect.withLog, Step.untimed, Snapshot.untimed, RunState.untimed,
    RunState.withLog, List.map_append, hlog]
  rfl

theorem fail_untimed (h : state'.untimed = state.untimed) (n line : Nat) (fault : Fault) :
    (fail state' n line fault).untimed = (fail state n line fault).untimed := by
  obtain ⟨hstate, hlog⟩ := RunState.eq_withLog_of_untimed h
  rw [hstate] at h ⊢
  simp only [fail, Step.untimed, h]
  simp [Snapshot.untimed, RunState.withLog, hlog]

/-- Times aside, a step does not depend on the clock. -/
theorem step_untimed (clock : Nat → Instant) (h : state'.untimed = state.untimed) (n : Nat)
    (isLast : Bool) (line : Nat) (statement : Statement) :
    ((r.withClock clock).step state' n isLast line statement).untimed =
      (r.step state n isLast line statement).untimed := by
  obtain ⟨hstate, hlog⟩ := RunState.eq_withLog_of_untimed h
  have hexec' : execute (r.withClock clock).table state' line statement =
      (execute r.table state line statement).map (·.withLog state'.log) := by
    rw [hstate]
    exact execute_withLog _
  unfold step
  rw [hexec']
  cases hexec : execute r.table state line statement with
  | error fault => exact fail_untimed h n line fault
  | ok effect =>
    obtain ⟨_, _, hfollows⟩ := execute_ok hexec
    rw [← hfollows.log] at hlog
    exact r.succeed_untimed clock n line isLast hlog

/-- Times aside, a run does not depend on the clock. -/
theorem steps_untimed (clock : Nat → Instant) (h : state'.untimed = state.untimed) (n : Nat)
    (lines : List (Nat × Statement)) :
    ((r.withClock clock).steps n lines state').map Step.untimed =
      (r.steps n lines state).map Step.untimed := by
  induction lines generalizing n state state' with
  | nil => rfl
  | cons pair rest ih =>
    obtain ⟨line, statement⟩ := pair
    have hstep := r.step_untimed clock h n rest.isEmpty line statement
    have hstate : RunState.untimed _ = RunState.untimed _ := congrArg Step.state hstep
    have hcomplete :
        ((r.withClock clock).step state' n rest.isEmpty line statement).snapshot.isComplete =
        (r.step state n rest.isEmpty line statement).snapshot.isComplete :=
      congrArg (fun s => s.snapshot.isComplete) hstep
    simp only [steps, hcomplete]
    split
    · simp only [List.map_cons, List.map_nil, hstep]
    · simp only [List.map_cons, hstep, ih hstate]

end Runner
/-! ### Snapshots are complete -/

namespace Recording

/-- From the state that is built from snapshot `k` alone, the next line takes the step to snapshot
    `k + 1`, and the lines that are left give the rest of the history; under another clock they give
    it with other times. -/
theorem resume_gives_rest (settings : Settings) (clock clock' : Nat → Instant) (source : Text)
    (table : DeclarationTable) (k : Nat)
    (hbuild : DeclarationTable.ofListing (.ofText source) = .ok table)
    (hk : k < (ofSource settings clock source).history.totalSteps) :
    let history := (ofSource settings clock source).history
    let lines := ((Listing.ofText source).nonStructural table).map fun (line, number) =>
      (number, Statement.ofLine table line)
    let rebuilt := RunState.ofSnapshot (history.get k)
    (∃ line statement, lines[k]? = some (line, statement) ∧
      ((runner settings clock table).step rebuilt (k + 1) (k + 1 == lines.length) line
        statement).snapshot = history.get (k + 1 : Nat) ∧
      ((runner settings clock' table).step rebuilt (k + 1) (k + 1 == lines.length) line
        statement).snapshot.untimed = (history.get (k + 1 : Nat)).untimed) ∧
    ((runner settings clock table).steps (k + 1) (lines.drop k) rebuilt).map Step.snapshot =
      history.later.drop k ∧
    ((runner settings clock' table).steps (k + 1) (lines.drop k) rebuilt).map
      (fun s => s.snapshot.untimed) = (history.later.drop k).map Snapshot.untimed := by
  intro history lines rebuilt
  have hlines : lines = Runner.executable table (.ofText source) := (Runner.executable_eq _ _).symm
  have hrest : ((runner settings clock table).steps (k + 1) (lines.drop k) rebuilt).map
      Step.snapshot = history.later.drop k := by
    rw [hlines, ← (run_from hbuild hk).eq_steps, List.map_drop, ← later_eq_map hbuild]
  have hsame : rebuilt.untimed = rebuilt.untimed := rfl
  refine ⟨?_, hrest, ?_⟩
  · obtain ⟨_, line, statement, _, hline, rfl, hget⟩ := step_at hbuild hk
    rw [← hlines] at hline hget
    refine ⟨line, statement, hline, hget.symm, ?_⟩
    rw [hget]
    exact congrArg Step.snapshot ((runner settings clock table).step_untimed clock' hsame _ _ _ _)
  · rw [← hrest, List.map_map]
    have huntimed := (runner settings clock table).steps_untimed clock' hsame (k + 1) (lines.drop k)
    have hsnapshots := congrArg (List.map Step.snapshot) huntimed
    rw [List.map_map, List.map_map] at hsnapshots
    exact hsnapshots

/-- A run that is resumed after a call. -/
theorem resume_gives_rest_after_call :
    let source : Text := "function f(a) \x7b\n\x7d\nx = true\nf(x)\nconsole.log(a)"
    let table : DeclarationTable := ⟨[⟨"f", ["a"], [], 1⟩], [1]⟩
    let history := (ofSource .default (fun _ => .epoch) source).history
    DeclarationTable.ofListing (.ofText source) = .ok table ∧ 2 < history.totalSteps ∧
      ((runner .default (fun _ => .epoch) table).steps 3
        [(5, .output "a")] (.ofSnapshot (history.get 2))).map Step.snapshot = [history.get 3] := by
  intro source table history
  have hbuild : DeclarationTable.ofListing (.ofText source) = .ok table := rfl
  have hk : 2 < history.totalSteps := by decide +kernel
  refine ⟨hbuild, hk, ?_⟩
  exact (resume_gives_rest .default (fun _ => .epoch) (fun _ => .epoch) source table 2
    hbuild hk).2.1

end Recording
end Stepwise
