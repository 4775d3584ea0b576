import Stepwise.Proofs.Run

/-!
# How runs end

A run takes one step for each line that is not structural, but it takes no more steps than the
budget allows, and none after the first line that fails. Which of the three ended it can be told
from the last snapshot.

- `firstFailure?` is where the lines fail when they are executed in order, without any budget,
- `Run.length_eq` and `Run.endsWith` are the number of steps and the last step of a run that may
  begin anywhere,
- `history_shape` puts this together for all scripts, those with faulty declarations included.
-/

namespace Stepwise

/-! ### The first line that fails -/

/-- The position, counted from one, of the first line that fails when the lines are executed in
    order. There is no budget, and nothing is recorded. -/
def firstFailure? (table : DeclarationTable) : List (Nat × Statement) → RunState → Option Nat
  | [], _ => none
  | (line, statement) :: rest, state =>
    match execute table state line statement with
    | .error _ => some 1
    | .ok effect => (firstFailure? table rest effect.state).map (· + 1)

/-- What was recorded before makes no difference. -/
theorem firstFailure?_withLog (table : DeclarationTable) (lines : List (Nat × Statement))
    (state : RunState) (log : List Entry) :
    firstFailure? table lines (state.withLog log) = firstFailure? table lines state := by
  induction lines generalizing state with
  | nil => rfl
  | cons pair rest ih =>
    obtain ⟨line, statement⟩ := pair
    simp only [firstFailure?, execute_withLog]
    cases execute table state line statement with
    | error fault => rfl
    | ok effect =>
      show (firstFailure? table rest (effect.state.withLog log)).map (· + 1) = _
      rw [ih]

/-- Positions are counted from one. -/
theorem firstFailure?_pos {table : DeclarationTable} {lines : List (Nat × Statement)}
    {state : RunState} {position : Nat} (h : firstFailure? table lines state = some position) :
    0 < position := by
  cases lines with
  | nil => cases h
  | cons pair rest =>
    obtain ⟨line, statement⟩ := pair
    simp only [firstFailure?] at h
    split at h
    · cases h
      exact Nat.one_pos
    · obtain ⟨position', _, rfl⟩ := Option.map_eq_some_iff.mp h
      exact Nat.succ_pos position'

/-- The number of steps of a run of `lines` lines with a budget of `limit` steps, where the first
    line that fails is known. -/
def stepCount (lines limit : Nat) : (failure : Option Nat) → Nat
  | none => min lines limit
  | some position => min (min lines limit) position

/-- The line that fails first is among the first `lines` lines, and the budget of `limit` steps
    reaches it. -/
def FailsWithin (lines limit : Nat) (failure : Option Nat) : Prop :=
  ∃ position, failure = some position ∧ position ≤ min lines limit

theorem failsWithin_none (lines limit : Nat) : ¬ FailsWithin lines limit none := by
  rintro ⟨position, h, _⟩
  cases h

theorem failsWithin_succ {lines limit : Nat} {failure : Option Nat} :
    FailsWithin (lines + 1) (limit + 1) (failure.map (· + 1)) ↔
      FailsWithin lines limit failure := by
  cases failure with
  | none => simp [failsWithin_none]
  | some position =>
    simp only [FailsWithin, Option.map_some, Option.some.injEq, exists_eq_left']
    omega

namespace Runner

variable {r : Runner} {n : Nat} {lines : List (Nat × Statement)} {state : RunState}
  {steps : List Step}

theorem firstFailure?_succeed (table : DeclarationTable) (lines : List (Nat × Statement))
    (line : Nat) (isLast : Bool) (effect : Effect) :
    firstFailure? table lines (r.succeed n line isLast effect).state =
      firstFailure? table lines effect.state := by
  rw [succeed_state]
  exact firstFailure?_withLog table lines effect.state _

/-! ### The number of steps -/

/-- A run takes as many steps as there are lines, unless the budget or a failure ends it before.
    From step number `n` on, the budget has room for `r.budget + 1 - n` steps. -/
theorem Run.length_eq (h : r.Run n lines state steps) (hn : n ≤ r.budget) :
    steps.length =
      stepCount lines.length (r.budget + 1 - n) (firstFailure? r.table lines state) := by
  induction h with
  | nothing => simp [firstFailure?, stepCount]
  | failed hexec =>
    simp only [firstFailure?, hexec, stepCount, List.length_cons, List.length_nil]
    omega
  | ended hexec =>
    simp only [firstFailure?, hexec, stepCount, List.length_cons, List.length_nil, Option.map_none]
    omega
  | @cut n line statement rest state effect hexec hrest hcut =>
    simp only [firstFailure?, hexec, List.length_cons, List.length_nil]
    cases firstFailure? r.table rest effect.state with
    | none => simp only [Option.map_none, stepCount]; omega
    | some position => simp only [Option.map_some, stepCount]; omega
  | @next n line statement rest state effect later hexec hrest hlt hlater ih =>
    have hlength := ih hlt
    rw [firstFailure?_succeed] at hlength
    simp only [firstFailure?, hexec, List.length_cons, hlength]
    cases firstFailure? r.table rest effect.state with
    | none => simp only [Option.map_none, stepCount]; omega
    | some position => simp only [Option.map_some, stepCount]; omega

/-! ### The last step -/

/-- The fault of the last snapshot: that of a line, if one fails in time, else the used up budget,
    if lines are left. Of `lines` lines, `left` may be run. -/
def EndsWith (limit lines left : Nat) (failure : Option Nat) (fault : Option Fault) : Prop :=
  (FailsWithin lines left failure ∧ ∃ name line, fault = some (.undefinedVariable name line)) ∨
  (¬ FailsWithin lines left failure ∧ left < lines ∧ fault = some (.budgetExceeded limit)) ∨
  (¬ FailsWithin lines left failure ∧ lines ≤ left ∧ fault = none)

theorem endsWith_succ {limit lines left : Nat} {failure : Option Nat} {fault : Option Fault} :
    EndsWith limit (lines + 1) (left + 1) (failure.map (· + 1)) fault ↔
      EndsWith limit lines left failure fault := by
  unfold EndsWith
  rw [failsWithin_succ, Nat.add_lt_add_iff_right, Nat.add_le_add_iff_right]

/-- The last step of a run is complete and tells how the run ended. -/
theorem Run.endsWith (h : r.Run n lines state steps) (hn : n ≤ r.budget) {s : Step}
    (hs : steps.getLast? = some s) :
    s.snapshot.isComplete = true ∧
      EndsWith r.budget lines.length (r.budget + 1 - n) (firstFailure? r.table lines state)
        s.snapshot.fault := by
  induction h with
  | nothing => simp at hs
  | @failed n line statement rest state fault hexec =>
    obtain rfl : _ = s := by simpa using hs
    obtain ⟨text, _, rfl⟩ := execute_error hexec
    refine ⟨rfl, .inl ⟨⟨1, by simp only [firstFailure?, hexec], ?_⟩, text.trim, line, rfl⟩⟩
    rw [List.length_cons]
    omega
  | @ended n line statement state effect hexec =>
    obtain rfl : _ = s := by simpa using hs
    refine ⟨by simp [succeed_isComplete], .inr (.inr ⟨?_, ?_, by simp [succeed_fault]⟩)⟩
    · simp only [firstFailure?, hexec, Option.map_none]
      exact failsWithin_none _ _
    · rw [List.length_singleton]
      omega
  | @cut n line statement rest state effect hexec hrest hcut =>
    obtain rfl : _ = s := by simpa using hs
    have hpos : 0 < rest.length := List.length_pos_iff.mpr hrest
    refine ⟨by simp [succeed_isComplete, hcut], .inr (.inl ⟨?_, ?_, by simp [succeed_fault, hcut]⟩)⟩
    · -- the lines that are left are out of reach
      rintro ⟨position, hposition, hle⟩
      simp only [firstFailure?, hexec, Option.map_eq_some_iff] at hposition
      obtain ⟨position', hposition', rfl⟩ := hposition
      have := firstFailure?_pos hposition'
      omega
    · rw [List.length_cons]
      omega
  | @next n line statement rest state effect later hexec hrest hlt hlater ih =>
    have hlast : later.getLast? = some s := by
      rw [List.getLast?_cons_of_ne_nil (hlater.ne_nil hrest)] at hs
      exact hs
    obtain ⟨hcomplete, hends⟩ := ih hlt hlast
    refine ⟨hcomplete, ?_⟩
    rw [firstFailure?_succeed] at hends
    simp only [firstFailure?, hexec, List.length_cons]
    rw [show r.budget + 1 - n = r.budget + 1 - (n + 1) + 1 from by omega, endsWith_succ]
    exact hends

end Runner

/-! ### Every history -/

/-- The shape of the history of a script that is rejected. -/
structure RejectedShape (history : History) (fault : DeclarationFault) : Prop where
  totalSteps : history.totalSteps = 1
  /-- The only step is at the faulty header; nothing was run. -/
  snapshot : history.get 1 = {
    bindings := []
    callStack := []
    log := []
    line := fault.line
    step := 1
    isComplete := true
    fault := some (.declaration fault)
    output := [] }

/-- The shape of the history of a run of `lines` lines with a budget of `limit` steps, where the
    first line that fails is known. -/
structure RunShape (history : History) (lines limit : Nat) (failure : Option Nat) : Prop where
  totalSteps : history.totalSteps = stepCount lines limit failure
  /-- No snapshot before the last one ends the run. -/
  openBefore : ∀ k : Nat, k < history.totalSteps →
    (history.get k).isComplete = false ∧ (history.get k).fault = none
  /-- The last one does, if a step was taken. -/
  complete : 0 < history.totalSteps → history.last.isComplete = true
  /-- A line failed. -/
  undefinedVariable : (∃ name line, history.last.fault = some (.undefinedVariable name line)) ↔
    FailsWithin lines limit failure
  /-- No line failed, but lines are left. -/
  budgetExceeded : history.last.fault = some (.budgetExceeded limit) ↔
    ¬ FailsWithin lines limit failure ∧ limit < lines
  /-- All lines were run. -/
  noFault : history.last.fault = none ↔ ¬ FailsWithin lines limit failure ∧ ¬ limit < lines

namespace Recording

variable {settings : Settings} {clock : Nat → Instant} {source : Text} {table : DeclarationTable}
  {fault : DeclarationFault}

/-- The history of a script that is rejected. -/
theorem rejectedShape (hbuild : DeclarationTable.ofListing (.ofText source) = .error fault) :
    RejectedShape (historyOf settings clock source) fault := by
  have htotal : (historyOf settings clock source).totalSteps = 1 := by
    rw [History.totalSteps_eq, later_eq, recorded, hbuild]
    rfl
  have hk : 0 < (historyOf settings clock source).totalSteps := by omega
  exact ⟨htotal, (get_of_rejected hbuild hk).2⟩

/-- The last snapshot tells how the run ended. -/
theorem last_endsWith (hbuild : DeclarationTable.ofListing (.ofText source) = .ok table) :
    (0 < (historyOf settings clock source).totalSteps →
      (historyOf settings clock source).last.isComplete = true) ∧
    Runner.EndsWith settings.budget (Runner.executable table (.ofText source)).length
      settings.budget
      (firstFailure? table (Runner.executable table (.ofText source)) .start)
      (historyOf settings clock source).last.fault := by
  have hbudget : 1 ≤ settings.budget := Nat.le_max_left 1 _
  have hrun : (runner settings clock table).Run 1 _ _ (stepsOf settings clock table source) :=
    run_stepsOf
  have hlength : _ = (stepsOf settings clock table source).length := totalSteps_eq_length hbuild
  by_cases hpos : 0 < (historyOf settings clock source).totalSteps
  · have hlast := History.getLast?_later hpos
    rw [later_eq_map hbuild, List.getLast?_map, Option.map_eq_some_iff] at hlast
    obtain ⟨s, hs, heq⟩ := hlast
    obtain ⟨hcomplete, hends⟩ := hrun.endsWith hbudget hs
    rw [← heq]
    exact ⟨fun _ => hcomplete, hends⟩
  · -- no line is run at all
    have hzero : (historyOf settings clock source).totalSteps = 0 := by omega
    have hsteps : stepsOf settings clock table source = [] := by
      rw [hzero] at hlength
      exact List.length_eq_zero_iff.mp hlength.symm
    have hlines : Runner.executable table (.ofText source) = [] := by
      by_cases hlines : Runner.executable table (.ofText source) = []
      · exact hlines
      · exact absurd hsteps (hrun.ne_nil hlines)
    refine ⟨fun h => absurd h hpos, .inr (.inr ?_)⟩
    rw [hlines, History.last_eq, hzero]
    exact ⟨failsWithin_none _ _, Nat.zero_le _, rfl⟩

/-- The history of a run. -/
theorem runShape (hbuild : DeclarationTable.ofListing (.ofText source) = .ok table) :
    RunShape (historyOf settings clock source)
      (Runner.executable table (.ofText source)).length settings.budget
      (firstFailure? table (Runner.executable table (.ofText source)) .start) := by
  have hbudget : 1 ≤ settings.budget := Nat.le_max_left 1 _
  have hrun : (runner settings clock table).Run 1 _ _ (stepsOf settings clock table source) :=
    run_stepsOf
  obtain ⟨hcomplete, hends⟩ : _ ∧
      Runner.EndsWith _ _ _ _ (historyOf settings clock source).last.fault :=
    last_endsWith hbuild
  refine ⟨?_, ?_, hcomplete, ?_, ?_, ?_⟩
  · rw [totalSteps_eq_length hbuild]
    exact hrun.length_eq hbudget
  · intro k hk
    exact get_open hk
  · rcases hends with ⟨hfails, hfault⟩ | ⟨hfails, _, hfault⟩ | ⟨hfails, _, hfault⟩
    · simp [hfails, hfault]
    · simp [hfails, hfault]
    · simp [hfails, hfault]
  · rcases hends with ⟨hfails, name, line, hfault⟩ | ⟨hfails, hlt, hfault⟩ | ⟨hfails, hle, hfault⟩
    · simp [hfails, hfault]
    · simp [hfails, hfault, hlt]
    · simp [hfails, hfault, hle]
  · rcases hends with ⟨hfails, name, line, hfault⟩ | ⟨hfails, hlt, hfault⟩ | ⟨hfails, hle, hfault⟩
    · simp [hfails, hfault]
    · simp [hfails, hfault, hlt]
    · simp [hfails, hfault, hle]

/-- Snapshots are numbered by their steps. -/
theorem step_get {k : Nat} (hk : k ≤ (historyOf settings clock source).totalSteps) :
    ((historyOf settings clock source).get k).step = k := by
  cases k with
  | zero => rfl
  | succ k =>
    cases hbuild : DeclarationTable.ofListing (.ofText source) with
    | error fault =>
      obtain ⟨rfl, hget⟩ := get_of_rejected hbuild hk
      rw [hget]
      rfl
    | ok table =>
      obtain ⟨_, line, statement, _, _, rfl, hget⟩ := step_at hbuild hk
      rw [hget]
      exact (Runner.step_snapshot _ _ _ _ _ _).1

/-- What every history looks like. It begins with the initial snapshot, the snapshots are numbered,
    and no snapshot of the run is pushed onto a finished history. A script with a faulty declaration
    has one more snapshot and prints nothing; all others take one step for each line that is not
    structural, up to the first that fails and as far as the budget goes. -/
theorem history_shape (settings : Settings) (clock : Nat → Instant) (source : Text) :
    let history := (ofSource settings clock source).history
    let listing := Listing.ofText source
    let snapshots := recorded settings clock source
    history.get 0 = .initial ∧
    (∀ k : Nat, k ≤ history.totalSteps → (history.get k).step = k) ∧
    (history = .ofSnapshots snapshots ∧ history.later = snapshots ∧
      ∀ k, k < snapshots.length → (History.ofSnapshots (snapshots.take k)).isFinished = false) ∧
    match DeclarationTable.ofListing listing with
    | .error fault =>
      RejectedShape history fault ∧
      ∀ (m : Type → Type) [Monad m] (sink : Text → m Unit),
        ofSourceWith sink settings clock source = pure (ofSource settings clock source)
    | .ok table =>
      let lines := (listing.nonStructural table).map fun (line, number) =>
        (number, Statement.ofLine table line)
      RunShape history lines.length (max 1 settings.maxSteps)
        (firstFailure? table lines .start) := by
  intro history listing snapshots
  refine ⟨history.get_zero, fun k => step_get, ⟨history_eq, later_eq, ?_⟩, ?_⟩
  · intro k hk
    exact History.isFinished_ofSnapshots_take (fun s hs => (recorded_open s hs).1) hk
  · cases hbuild : DeclarationTable.ofListing listing with
    | error fault =>
      refine ⟨rejectedShape hbuild, ?_⟩
      intro m _ sink
      simp only [ofSourceWith, ofSource]
      rw [hbuild]
    | ok table =>
      show RunShape history _ settings.budget _
      rw [← Runner.executable_eq]
      exact runShape hbuild

-- A line that fails at the last step of the budget counts as a failure.
example : (historyOf { Settings.default with maxSteps := 2 } (fun _ => .epoch)
    "x = true\ny = missing\nz = x".toList).last.fault =
      some (.undefinedVariable "missing".toList 2) := by
  decide +kernel

end Recording
end Stepwise
