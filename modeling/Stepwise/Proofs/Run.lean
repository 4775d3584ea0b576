import Stepwise.Proofs.Execution
import Stepwise.Proofs.History

/-!
# Rules of runs

`Runner.Run` says by rules how a run goes: it stops with a line that fails, with the last line, and
when lines are left after the step that uses up the budget; otherwise it goes on with the next line.
`run_iff` shows that `Runner.steps` computes the one run that the rules allow, so that every
statement about runs is an induction over the rules.

The rest of a run is again a run, from the state that the snapshot before it shows (`Run.drop`).
-/

namespace Stepwise

/-! ### Snapshots and states -/

/-- The snapshot shows the state: all variables under the current scope, with some flags, and copies
    of everything else. -/
structure Snapshot.Shows (s : Snapshot) (state : RunState) : Prop where
  bindings : ∃ changes, s.bindings = state.bindings.view state.stack.scope changes
  callStack : s.callStack = state.stack
  log : s.log = state.log
  output : s.output = state.output

/-- The state can be told from a snapshot that shows it. -/
theorem Snapshot.Shows.ofSnapshot_eq {s : Snapshot} {state : RunState} (h : s.Shows state)
    (hd : state.bindings.Distinct) : RunState.ofSnapshot s = state := by
  obtain ⟨changes, hbindings⟩ := h.bindings
  unfold RunState.ofSnapshot
  rw [hbindings, VariableTable.ofPairs_view hd, h.callStack, h.output, h.log]

theorem RunState.distinct_start : RunState.start.bindings.Distinct := List.nodup_nil

namespace Runner

/-! ### Single steps -/

section steps
variable (r : Runner) (state : RunState) (n line : Nat) (isLast : Bool) (effect : Effect)
  (fault : Fault)

/-- The log entry of a step that did not fail. -/
def entry : Entry where
  step := n
  line := line
  action := effect.action
  details := effect.details
  recordedAt := r.clock n
  callStack := effect.state.stack
  bindings := effect.state.bindings.view effect.state.stack.scope effect.changes

/-- A step adds its own entry to the log. -/
theorem succeed_state : (r.succeed n line isLast effect).state =
    effect.state.withLog (effect.state.log ++ [r.entry n line effect]) := rfl

/-- A step ends the run when it is the last one or uses up the budget. -/
theorem succeed_isComplete : (r.succeed n line isLast effect).snapshot.isComplete =
    (isLast || decide (r.budget ≤ n)) := by
  cases isLast <;> simp [succeed]

/-- Only a step after which lines are left can exceed the budget. -/
theorem succeed_fault : (r.succeed n line isLast effect).snapshot.fault =
    if r.budget ≤ n ∧ isLast = false then some (.budgetExceeded r.budget) else none := by
  cases isLast <;> simp [succeed]

theorem succeed_shows : (r.succeed n line isLast effect).snapshot.Shows
    (r.succeed n line isLast effect).state := ⟨⟨effect.changes, rfl⟩, rfl, rfl, rfl⟩

theorem fail_shows : (fail state n line fault).snapshot.Shows (fail state n line fault).state :=
  ⟨⟨.none, rfl⟩, rfl, rfl, rfl⟩

/-- A step records the effect of its statement, or that a name has no value. -/
theorem step_cases (statement : Statement) :
    (∃ effect, execute r.table state line statement = .ok effect ∧
      r.step state n isLast line statement = r.succeed n line isLast effect) ∨
    (∃ name, execute r.table state line statement = .error (.undefinedVariable name line) ∧
      r.step state n isLast line statement = fail state n line (.undefinedVariable name line)) := by
  cases hexec : execute r.table state line statement with
  | ok effect => exact .inl ⟨effect, rfl, by simp [step, hexec]⟩
  | error fault =>
    obtain ⟨text, _, rfl⟩ := execute_error hexec
    exact .inr ⟨text.trim, rfl, by simp [step, hexec]⟩

/-- Whether it fails or not, a step has a snapshot of its own number and line that shows its
    state. -/
theorem step_snapshot (statement : Statement) :
    (r.step state n isLast line statement).snapshot.step = n ∧
    (r.step state n isLast line statement).snapshot.line = line ∧
    (r.step state n isLast line statement).snapshot.Shows
      (r.step state n isLast line statement).state := by
  rcases r.step_cases state n line isLast statement with ⟨effect, _, heq⟩ | ⟨name, _, heq⟩
  · rw [heq]
    exact ⟨rfl, rfl, succeed_shows r n line isLast effect⟩
  · rw [heq]
    exact ⟨rfl, rfl, fail_shows state n line _⟩

/-- Names stay distinct. -/
theorem step_distinct (statement : Statement) (hd : state.bindings.Distinct) :
    (r.step state n isLast line statement).state.bindings.Distinct := by
  rcases r.step_cases state n line isLast statement with ⟨effect, hexec, heq⟩ | ⟨name, _, heq⟩
  · rw [heq]
    exact distinct_execute hexec hd
  · rw [heq]
    exact hd

end steps

/-! ### The rules -/

/-- The run of `lines` in `state` from step number `n` on takes the given steps. -/
inductive Run (r : Runner) : (n : Nat) → (lines : List (Nat × Statement)) → (state : RunState) →
    List Step → Prop where
  /-- No line is left. -/
  | nothing {n : Nat} {state : RunState} : Run r n [] state []
  /-- The line fails. -/
  | failed {n line : Nat} {statement : Statement} {rest : List (Nat × Statement)} {state : RunState}
      {fault : Fault} (h : execute r.table state line statement = .error fault) :
      Run r n ((line, statement) :: rest) state [fail state n line fault]
  /-- The line is the last one. -/
  | ended {n line : Nat} {statement : Statement} {state : RunState} {effect : Effect}
      (h : execute r.table state line statement = .ok effect) :
      Run r n [(line, statement)] state [r.succeed n line true effect]
  /-- Lines are left, but the budget is used up. -/
  | cut {n line : Nat} {statement : Statement} {rest : List (Nat × Statement)} {state : RunState}
      {effect : Effect} (h : execute r.table state line statement = .ok effect) (hrest : rest ≠ [])
      (hn : r.budget ≤ n) :
      Run r n ((line, statement) :: rest) state [r.succeed n line false effect]
  /-- Lines are left and may be run. -/
  | next {n line : Nat} {statement : Statement} {rest : List (Nat × Statement)} {state : RunState}
      {effect : Effect} {later : List Step} (h : execute r.table state line statement = .ok effect)
      (hrest : rest ≠ []) (hn : n < r.budget)
      (hlater : Run r (n + 1) rest (r.succeed n line false effect).state later) :
      Run r n ((line, statement) :: rest) state (r.succeed n line false effect :: later)

variable {r : Runner} {n : Nat} {lines : List (Nat × Statement)} {state : RunState}
  {steps : List Step}

/-- The steps of a run obey the rules. -/
theorem run_steps (r : Runner) (n : Nat) (lines : List (Nat × Statement)) (state : RunState) :
    r.Run n lines state (r.steps n lines state) := by
  induction lines generalizing n state with
  | nil => exact .nothing
  | cons pair rest ih =>
    obtain ⟨line, statement⟩ := pair
    unfold Runner.steps Runner.step
    cases hexec : execute r.table state line statement with
    | error fault => exact .failed hexec
    | ok effect =>
      simp only [succeed_isComplete]
      cases hrest : rest with
      | nil => exact .ended hexec
      | cons pair' rest' =>
        rw [hrest] at ih
        by_cases hn : r.budget ≤ n
        · simp only [List.isEmpty_cons, hn, decide_true, Bool.or_true, if_true]
          exact .cut hexec (by simp) hn
        · simp only [List.isEmpty_cons, hn, decide_false, Bool.or_self,
            Bool.false_eq_true, if_false]
          exact .next hexec (by simp) (by omega) (ih _ _)

/-- The rules allow no other steps. -/
theorem Run.eq_steps (h : r.Run n lines state steps) : steps = r.steps n lines state := by
  induction h with
  | nothing => rfl
  | failed hexec => simp [Runner.steps, Runner.step, hexec, fail]
  | ended hexec => simp [Runner.steps, Runner.step, hexec, succeed_isComplete]
  | cut hexec hrest hn =>
    have hempty : List.isEmpty _ = false := List.isEmpty_eq_false_iff.mpr hrest
    simp [Runner.steps, Runner.step, hexec, succeed_isComplete, hempty, hn]
  | next hexec hrest hn _ ih =>
    have hempty : List.isEmpty _ = false := List.isEmpty_eq_false_iff.mpr hrest
    have hlt : ¬ r.budget ≤ _ := Nat.not_le.mpr hn
    simp [Runner.steps, Runner.step, hexec, succeed_isComplete, hempty, hlt, ← ih]

theorem run_iff : r.Run n lines state steps ↔ steps = r.steps n lines state := by
  constructor
  · exact Run.eq_steps
  · rintro rfl
    exact run_steps r n lines state

/-! ### Consequences of the rules -/

/-- A run of lines takes a step. -/
theorem Run.ne_nil (h : r.Run n lines state steps) (hlines : lines ≠ []) : steps ≠ [] := by
  cases h with
  | nothing => exact absurd rfl hlines
  | failed _ => exact List.cons_ne_nil _ _
  | ended _ => exact List.cons_ne_nil _ _
  | cut _ _ _ => exact List.cons_ne_nil _ _
  | next _ _ _ _ => exact List.cons_ne_nil _ _

/-- No step before the last one ends the run or has a fault. -/
theorem Run.open_before_last (h : r.Run n lines state steps) :
    ∀ s ∈ steps.dropLast, s.snapshot.isComplete = false ∧ s.snapshot.fault = none := by
  induction h with
  | nothing => simp
  | failed _ => simp
  | ended _ => simp
  | cut _ _ _ => simp
  | next hexec hrest hn hlater ih =>
    intro s hs
    rw [List.dropLast_cons_of_ne_nil (hlater.ne_nil hrest)] at hs
    rcases List.mem_cons.mp hs with rfl | hs
    · have hlt : ¬ r.budget ≤ _ := Nat.not_le.mpr hn
      rw [succeed_isComplete, succeed_fault]
      simp [hlt]
    · exact ih s hs

/-- The first step of a run is the step of its first line, and the others are again a run. -/
theorem Run.head {s : Step} {later : List Step} (h : r.Run n lines state (s :: later)) :
    ∃ line statement rest, lines = (line, statement) :: rest ∧
      s = r.step state n rest.isEmpty line statement ∧
      (later ≠ [] → r.Run (n + 1) rest s.state later) := by
  cases h with
  | failed hexec => exact ⟨_, _, _, rfl, by simp [Runner.step, hexec], by simp⟩
  | ended hexec => exact ⟨_, _, _, rfl, by simp [Runner.step, hexec], by simp⟩
  | cut hexec hrest hn =>
    have hempty : List.isEmpty _ = false := List.isEmpty_eq_false_iff.mpr hrest
    exact ⟨_, _, _, rfl, by simp [Runner.step, hexec, hempty], by simp⟩
  | next hexec hrest hn hlater =>
    have hempty : List.isEmpty _ = false := List.isEmpty_eq_false_iff.mpr hrest
    exact ⟨_, _, _, rfl, by simp [Runner.step, hexec, hempty], fun _ => hlater⟩

/-- Every snapshot of a run shows the state after its step, in which names are distinct. -/
theorem Run.shows (h : r.Run n lines state steps) (hd : state.bindings.Distinct) :
    ∀ s ∈ steps, s.snapshot.Shows s.state ∧ s.state.bindings.Distinct := by
  induction steps generalizing n lines state with
  | nil => simp
  | cons s later ih =>
    obtain ⟨line, statement, rest, _, hs, hlater⟩ := h.head
    have hshows : s.snapshot.Shows s.state := by
      rw [hs]
      exact (r.step_snapshot state n line _ statement).2.2
    have hd' : s.state.bindings.Distinct := by
      rw [hs]
      exact r.step_distinct state n line _ statement hd
    intro t ht
    rcases List.mem_cons.mp ht with rfl | ht
    · exact ⟨hshows, hd'⟩
    · exact ih (hlater (List.ne_nil_of_mem ht)) hd' t ht

/-- What is left of a run after some steps is a run of the other lines, from the state that the last
    snapshot before it shows; `s₀` is the snapshot before the first step. -/
theorem Run.drop (s₀ : Snapshot) (h : r.Run n lines state steps) (hd : state.bindings.Distinct)
    (h₀ : RunState.ofSnapshot s₀ = state) {k : Nat} (hk : k < steps.length) :
    ∃ s, (s₀ :: steps.map Step.snapshot)[k]? = some s ∧
      r.Run (n + k) (lines.drop k) (.ofSnapshot s) (steps.drop k) := by
  induction k generalizing n lines state steps s₀ with
  | zero =>
    refine ⟨s₀, rfl, ?_⟩
    rw [h₀]
    exact h
  | succ k ih =>
    cases steps with
    | nil => simp at hk
    | cons s later =>
      obtain ⟨hshows, hd'⟩ := h.shows hd s List.mem_cons_self
      obtain ⟨line, statement, rest, rfl, _, hlater⟩ := h.head
      have hk' : k < later.length := by simpa using hk
      have hne : later ≠ [] := List.ne_nil_of_length_pos (by omega)
      obtain ⟨s', hs', hrun⟩ := ih s.snapshot (hlater hne) hd' (hshows.ofSnapshot_eq hd') hk'
      refine ⟨s', hs', ?_⟩
      rw [show n + (k + 1) = n + 1 + k from by omega]
      exact hrun

end Runner

/-! ### Whole runs -/

/-- The lines that are not structural, with their numbers. -/
def Listing.nonStructural (listing : Listing) (table : DeclarationTable) : List (Text × Nat) :=
  listing.numbered.filter fun (line, number) => !table.isStructural number line

/-- The lines that are executed are those that are not structural. -/
theorem Runner.executable_eq (table : DeclarationTable) (listing : Listing) :
    executable table listing =
      (listing.nonStructural table).map fun (line, number) => (number, .ofLine table line) := by
  unfold executable Listing.nonStructural
  induction listing.numbered with
  | nil => rfl
  | cons pair rest ih =>
    obtain ⟨line, number⟩ := pair
    cases h : table.isStructural number line with
    | true => simpa [Statement.classify?, h] using ih
    | false => simpa [Statement.classify?, h] using ih

namespace Recording

/-- The history of the run of a script. -/
abbrev historyOf (settings : Settings) (clock : Nat → Instant) (source : Text) : History :=
  (ofSource settings clock source).history

/-- The steps of a run of `source`, whose declarations are those of `table`. -/
def stepsOf (settings : Settings) (clock : Nat → Instant) (table : DeclarationTable)
    (source : Text) :
    List Step :=
  (runner settings clock table).steps 1 (Runner.executable table (.ofText source)) .start

/-- The snapshots that a run of `source` makes, in order. -/
def recorded (settings : Settings) (clock : Nat → Instant) (source : Text) : List Snapshot :=
  match DeclarationTable.ofListing (.ofText source) with
  | .error fault => [.rejected fault]
  | .ok table => (stepsOf settings clock table source).map Step.snapshot

variable {settings : Settings} {clock : Nat → Instant} {source : Text} {table : DeclarationTable}

/-- The history of a run is made by pushing its snapshots one by one. -/
theorem history_eq : historyOf settings clock source =
    .ofSnapshots (recorded settings clock source) := by
  simp only [historyOf, ofSource, recorded]
  cases DeclarationTable.ofListing (.ofText source) with
  | error fault => rfl
  | ok table => rfl

theorem run_stepsOf : (runner settings clock table).Run 1
    (Runner.executable table (.ofText source)) .start (stepsOf settings clock table source) :=
  Runner.run_steps _ _ _ _

/-- No snapshot before the last one is complete or has a fault. -/
theorem recorded_open : ∀ s ∈ (recorded settings clock source).dropLast,
    s.isComplete = false ∧ s.fault = none := by
  unfold recorded
  cases DeclarationTable.ofListing (.ofText source) with
  | error fault => simp
  | ok table =>
    intro s hs
    rw [← List.map_dropLast] at hs
    obtain ⟨step, hstep, rfl⟩ := List.mem_map.mp hs
    exact run_stepsOf.open_before_last step hstep

/-- All snapshots of a run are kept. -/
theorem later_eq : (historyOf settings clock source).later = recorded settings clock source := by
  rw [history_eq]
  exact History.later_ofSnapshots fun s hs => (recorded_open s hs).1

/-- No snapshot but the last one ends the run or has a fault. -/
theorem get_open {k : Nat} (hk : k < (historyOf settings clock source).totalSteps) :
    ((historyOf settings clock source).get k).isComplete = false ∧
      ((historyOf settings clock source).get k).fault = none := by
  cases k with
  | zero => exact ⟨rfl, rfl⟩
  | succ k =>
    have hlt : k < (historyOf settings clock source).totalSteps := by omega
    have hget := History.getElem?_later _ hlt
    rw [later_eq] at hget
    rw [History.totalSteps_eq, later_eq] at hk
    have hopen : k < (recorded settings clock source).length - 1 := by omega
    have hmem : (recorded settings clock source).dropLast[k]? =
        some ((historyOf settings clock source).get (k + 1 : Nat)) := by
      rw [List.getElem?_dropLast, if_pos hopen]
      exact hget
    exact recorded_open _ (List.mem_of_getElem? hmem)

/-- A script that is rejected has one step, which reports the faulty declaration. -/
theorem get_of_rejected {fault : DeclarationFault}
    (hbuild : DeclarationTable.ofListing (.ofText source) = .error fault) {k : Nat}
    (hk : k < (historyOf settings clock source).totalSteps) :
    k = 0 ∧ (historyOf settings clock source).get (k + 1 : Nat) = .rejected fault := by
  have hget := History.getElem?_later _ hk
  rw [later_eq, recorded, hbuild] at hget
  obtain ⟨hlt, heq⟩ := List.getElem?_eq_some_iff.mp hget
  obtain rfl : k = 0 := by simpa using hlt
  exact ⟨rfl, heq.symm⟩

section accepted
variable (hbuild : DeclarationTable.ofListing (.ofText source) = .ok table)
include hbuild

theorem later_eq_map : (historyOf settings clock source).later =
    (stepsOf settings clock table source).map Step.snapshot := by
  rw [later_eq, recorded, hbuild]

theorem totalSteps_eq_length : (historyOf settings clock source).totalSteps =
    (stepsOf settings clock table source).length := by
  rw [History.totalSteps_eq, later_eq_map hbuild, List.length_map]

/-- The steps after step `k` are a run from the state that snapshot `k` shows. -/
theorem run_from {k : Nat} (hk : k < (historyOf settings clock source).totalSteps) :
    (runner settings clock table).Run (k + 1) ((Runner.executable table (.ofText source)).drop k)
      (.ofSnapshot ((historyOf settings clock source).get k))
      ((stepsOf settings clock table source).drop k) := by
  have hlen : k < (stepsOf settings clock table source).length := by
    rw [← totalSteps_eq_length hbuild]
    exact hk
  obtain ⟨s, hs, hrun⟩ := run_stepsOf.drop .initial RunState.distinct_start rfl hlen
  rw [← later_eq_map hbuild] at hs
  have hget := (historyOf settings clock source).getElem?_snapshots (Nat.le_of_lt hk)
  obtain rfl : s = _ := Option.some.inj (hs.symm.trans hget)
  rw [Nat.add_comm k 1]
  exact hrun

/-- The snapshots after the initial one are those of the steps. -/
theorem get_succ_snapshot {k : Nat} (hk : k < (historyOf settings clock source).totalSteps) :
    ∃ s, (stepsOf settings clock table source)[k]? = some s ∧
      (historyOf settings clock source).get (k + 1 : Nat) = s.snapshot := by
  have hget := History.getElem?_later _ hk
  rw [later_eq_map hbuild, List.getElem?_map, Option.map_eq_some_iff] at hget
  obtain ⟨s, hs, heq⟩ := hget
  exact ⟨s, hs, heq.symm⟩

/-- Step `k + 1` is the step that the line at position `k` makes in the state that snapshot `k`
    shows, and snapshot `k + 1` is its snapshot. -/
theorem step_at {k : Nat} (hk : k < (historyOf settings clock source).totalSteps) :
    ∃ s line statement, (stepsOf settings clock table source)[k]? = some s ∧
      (Runner.executable table (.ofText source))[k]? = some (line, statement) ∧
      s = (runner settings clock table).step
        (.ofSnapshot ((historyOf settings clock source).get k)) (k + 1)
        (k + 1 == (Runner.executable table (.ofText source)).length) line statement ∧
      (historyOf settings clock source).get (k + 1 : Nat) = s.snapshot := by
  obtain ⟨s, hs, hsnapshot⟩ := get_succ_snapshot hbuild hk
  obtain ⟨hlen, hget⟩ := List.getElem?_eq_some_iff.mp hs
  have hrun := run_from hbuild hk
  rw [List.drop_eq_getElem_cons hlen, hget] at hrun
  obtain ⟨line, statement, rest, hlines, hstep, _⟩ := hrun.head
  have hline : (Runner.executable table (.ofText source))[k]? = some (line, statement) := by
    rw [← Nat.add_zero k, ← List.getElem?_drop, hlines]
    rfl
  -- no line is left exactly when this is the last one
  have hlast : rest.isEmpty = (k + 1 == (Runner.executable table (.ofText source)).length) := by
    have hrest : (Runner.executable table (.ofText source)).length - k = rest.length + 1 := by
      rw [← List.length_drop, hlines, List.length_cons]
    cases rest with
    | nil =>
      rw [List.length_nil] at hrest
      simp
      omega
    | cons pair rest =>
      rw [List.length_cons] at hrest
      simp
      omega
  rw [hlast] at hstep
  exact ⟨s, line, statement, hs, hline, hstep, hsnapshot⟩

/-- Every snapshot shows the state that is told from it, in which names are distinct. -/
theorem shows_get {k : Nat} (hk : k ≤ (historyOf settings clock source).totalSteps) :
    ((historyOf settings clock source).get k).Shows
      (.ofSnapshot ((historyOf settings clock source).get k)) ∧
    (RunState.ofSnapshot ((historyOf settings clock source).get k)).bindings.Distinct := by
  cases k with
  | zero =>
    rw [Int.natCast_zero, History.get_zero]
    exact ⟨⟨⟨.none, rfl⟩, rfl, rfl, rfl⟩, RunState.distinct_start⟩
  | succ k =>
    obtain ⟨s, hs, hget⟩ := get_succ_snapshot hbuild hk
    obtain ⟨hshows, hd⟩ := run_stepsOf.shows RunState.distinct_start s (List.mem_of_getElem? hs)
    rw [hget, hshows.ofSnapshot_eq hd]
    exact ⟨hshows, hd⟩

end accepted
end Recording
end Stepwise
