import Stepwise.Proofs.Run

/-!
# What runs print

Each step prints at most one text. A snapshot shows the texts that were printed up to its step, and
a sink is given each of them once, in order, at the step that prints it:

- `output_get` is the output of a snapshot,
- `ofSourceWith_eq` reduces a run with a sink to a run without one.
-/

namespace Stepwise

namespace Runner

/-- A step adds what it prints to the output. -/
theorem step_output (r : Runner) (state : RunState) (n line : Nat) (isLast : Bool)
    (statement : Statement) :
    (r.step state n isLast line statement).snapshot.output =
      state.output ++ (r.step state n isLast line statement).printed.toList := by
  rcases r.step_cases state n line isLast statement with ⟨effect, hexec, heq⟩ | ⟨name, _, heq⟩
  · obtain ⟨writes, calls, hfollows⟩ := execute_ok hexec
    rw [heq]
    exact hfollows.output
  · rw [heq]
    exact (List.append_nil _).symm

/-- A run with a sink takes the same steps, and passes on what they print in order. -/
theorem stepsWith_eq {m : Type → Type} [Monad m] [LawfulMonad m] (sink : Text → m Unit) (r : Runner)
    (n : Nat) (lines : List (Nat × Statement)) (state : RunState) :
    r.stepsWith sink n lines state = (do
      ((r.steps n lines state).filterMap Step.printed).forM sink
      pure (r.steps n lines state)) := by
  induction lines generalizing n state with
  | nil => simp [stepsWith, steps]
  | cons pair rest ih =>
    obtain ⟨line, statement⟩ := pair
    simp only [stepsWith, steps]
    generalize r.step state n rest.isEmpty line statement = s
    cases hcomplete : s.snapshot.isComplete <;> cases hprinted : s.printed <;>
      simp [hprinted, ih]

end Runner

namespace Recording

variable {settings : Settings} {clock : Nat → Instant} {source : Text} {table : DeclarationTable}

section accepted
variable (hbuild : DeclarationTable.ofListing (.ofText source) = .ok table)
include hbuild

/-- The output of a snapshot is what the steps up to it printed. -/
theorem output_get {k : Nat} (hk : k ≤ (historyOf settings clock source).totalSteps) :
    ((historyOf settings clock source).get k).output =
      ((stepsOf settings clock table source).take k).filterMap Step.printed := by
  induction k with
  | zero => rfl
  | succ k ih =>
    obtain ⟨s, line, statement, hs, _, hstep, hget⟩ := step_at hbuild hk
    have houtput : s.snapshot.output =
        ((historyOf settings clock source).get k).output ++ s.printed.toList := by
      rw [hstep]
      exact Runner.step_output _ _ _ _ _ _
    rw [hget, houtput, ih (by omega), List.take_add_one, hs, List.filterMap_append]
    cases hprinted : s.printed <;> simp [hprinted]

/-- A run with a sink gives the same record, and passes on what its steps print in order. -/
theorem ofSourceWith_eq {m : Type → Type} [Monad m] [LawfulMonad m] (sink : Text → m Unit) :
    ofSourceWith sink settings clock source = (do
      ((stepsOf settings clock table source).filterMap Step.printed).forM sink
      pure (ofSource settings clock source)) := by
  simp only [ofSourceWith, ofSource, hbuild, Runner.stepsWith_eq, bind_assoc, pure_bind]
  rfl

end accepted
end Recording
end Stepwise
