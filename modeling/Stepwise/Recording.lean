import Stepwise.Expression
import Stepwise.Statement
import Stepwise.History
import Stepwise.Settings

/-!
# Recordings

A script is run once, line by line from the top; nothing is ever skipped or repeated, whatever
conditions and loops say. Every line that is not structural is one step, and every step leaves a
snapshot. A run ends with its last line, with the first line that fails, or when the budget of steps
is used up.

- `execute` is what one statement does to the state of a run,
- `Runner.step` makes the snapshot of one step,
- `Runner.steps` runs the lines, `Runner.stepsWith` does so and passes on each printed text at once,
- `Recording.ofSource` is the record of the whole run.
-/

namespace Stepwise

/-- The state of a run between two lines. -/
structure RunState where
  bindings : VariableTable
  stack : CallStack
  output : List Text
  log : List Entry
deriving DecidableEq

namespace RunState

/-- The state before the first line. -/
def start : RunState := ⟨.empty, [], [], []⟩

/-- The state in which a run was when a snapshot was made. -/
def ofSnapshot (s : Snapshot) : RunState :=
  ⟨.ofPairs (s.bindings.map fun v => (v.name, v.value)), s.callStack, s.output, s.log⟩

end RunState

/-! ### One statement -/

/-- What a statement does. -/
structure Effect where
  /-- The state after it; the log is not written yet. -/
  state : RunState
  action : Action
  details : Text
  changes : Changes
  /-- The text that it prints. -/
  printed : Option Text
deriving DecidableEq

/-- The parameters with their arguments; missing arguments are undefined, and arguments without a
parameter do not count. -/
def bindArguments : (parameters : List Text) → (arguments : List Value) → List (Text × Value)
  | [], _ => []
  | name :: parameters, [] => (name, .undefined) :: bindArguments parameters []
  | name :: parameters, value :: arguments => (name, value) :: bindArguments parameters arguments

/-- Assigns names in order and collects the changes. -/
def assignAll (table : VariableTable) (changes : Changes) :
    List (Text × Value) → VariableTable × Changes
  | [] => (table, changes)
  | (name, value) :: rest =>
    assignAll (table.assign name value) (changes.record name (table.change name value)) rest

/-- Calls a function on line `line`. All arguments are evaluated before the first parameter is
bound. -/
def executeCall (table : DeclarationTable) (state : RunState) (line : Nat) (name : Text)
    (arguments : List Text) : Except Fault Effect := do
  let values ← arguments.mapM (Expression.evaluate state.bindings line)
  let parameters := match table.get? name with
    | some d => d.parameters
    | none => []
  let bound := bindArguments parameters values
  let (bindings, changes) := assignAll state.bindings .none bound
  let frame : Frame := {
    function := name
    line
    parameters := bound.map fun (name', value) => .ofChanges name' value name changes
    returned := none }
  return {
    state := { state with bindings, stack := state.stack ++ [frame] }
    action := .functionCall
    details :=
      name ++ '(' :: List.intercalate ", ".toList (values.map Value.literal) ++ [')']
    changes
    printed := none }

/-- Executes a statement on line `line`. -/
def execute (table : DeclarationTable) (state : RunState) (line : Nat) :
    Statement → Except Fault Effect
  | .assignment name expression => do
    let value ← Expression.evaluate state.bindings line expression
    return {
      state := { state with bindings := state.bindings.assign name value }
      action := .assignment
      details := name ++ " = ".toList ++ value.literal
      changes := Changes.none.record name (state.bindings.change name value)
      printed := none }
  | .output expression => do
    let value ← Expression.evaluate state.bindings line expression
    return {
      state := { state with output := state.output ++ [value.display] }
      action := .consoleOutput
      details := "console.log(".toList ++ value.literal ++ [')']
      changes := .none
      printed := some value.display }
  | .call name arguments => executeCall table state line name arguments
  | .condition expression => do
    let value ← Expression.evaluate state.bindings line expression
    return {
      state
      action := .condition
      details := "if (".toList ++ expression ++ ") → ".toList ++ Value.boolText value.isTruthy
      changes := .none
      printed := none }
  | .loop clause => .ok {
      state
      action := .loop
      details := "for (".toList ++ clause ++ [')']
      changes := .none
      printed := none }
  | .expression text => .ok {
      state
      action := .expression
      details := text
      changes := .none
      printed := none }

/-! ### Steps -/

/-- What stays the same during a run. -/
structure Runner where
  table : DeclarationTable
  /-- The greatest number of steps. -/
  budget : Nat
  /-- The time at which each step is recorded. -/
  clock : Nat → Instant

/-- One step of a run. -/
structure Step where
  /-- The state after the step. -/
  state : RunState
  snapshot : Snapshot
  /-- The text that the step printed. -/
  printed : Option Text
deriving DecidableEq

namespace Runner

/-- The lines that are executed, with their numbers. -/
def executable (table : DeclarationTable) (listing : Listing) : List (Nat × Statement) :=
  listing.numbered.filterMap fun (line, number) =>
    (Statement.classify? table number line).map fun statement => (number, statement)

/-- The step of a statement that was executed. -/
def succeed (r : Runner) (step line : Nat) (isLast : Bool) (effect : Effect) : Step :=
  let bindings := effect.state.bindings.view effect.state.stack.scope effect.changes
  let entry : Entry := {
    step
    line
    action := effect.action
    details := effect.details
    recordedAt := r.clock step
    callStack := effect.state.stack
    bindings }
  let state := { effect.state with log := effect.state.log ++ [entry] }
  let isCut := r.budget ≤ step && !isLast
  { state
    snapshot := {
      bindings
      callStack := state.stack
      log := state.log
      line
      step
      isComplete := isLast || isCut
      fault := if isCut then some (.budgetExceeded r.budget) else none
      output := state.output }
    printed := effect.printed }

/-- The step of a statement that failed: nothing happens. -/
def fail (state : RunState) (step line : Nat) (fault : Fault) : Step :=
  { state
    snapshot := {
      bindings := state.bindings.view state.stack.scope .none
      callStack := state.stack
      log := state.log
      line
      step
      isComplete := true
      fault := some fault
      output := state.output }
    printed := none }

/-- Step number `step` of a run: the statement of line `line`, executed in `state`. -/
def step (r : Runner) (state : RunState) (step : Nat) (isLast : Bool) (line : Nat)
    (statement : Statement) : Step :=
  match execute r.table state line statement with
  | .ok effect => r.succeed step line isLast effect
  | .error fault => fail state step line fault

/-- The steps of the lines from step number `step` on, up to the first complete one. -/
def steps (r : Runner) (step : Nat) : List (Nat × Statement) → RunState → List Step
  | [], _ => []
  | (line, statement) :: rest, state =>
    let s := r.step state step rest.isEmpty line statement
    if s.snapshot.isComplete then [s] else s :: r.steps (step + 1) rest s.state

/-- The steps of the lines, with each printed text passed on when its step is made. -/
def stepsWith {m : Type → Type} [Monad m] (sink : Text → m Unit) (r : Runner) (step : Nat) :
    List (Nat × Statement) → RunState → m (List Step)
  | [], _ => pure []
  | (line, statement) :: rest, state => do
    let s := r.step state step rest.isEmpty line statement
    match s.printed with
    | some text => sink text
    | none => pure ()
    if s.snapshot.isComplete then pure [s]
    else
      let later ← r.stepsWith sink (step + 1) rest s.state
      pure (s :: later)

end Runner

/-! ### Whole runs -/

/-- The record of a run. -/
structure Recording where
  source : Text
  listing : Listing
  table : DeclarationTable
  settings : Settings
  history : History

namespace Recording

/-- The record of a script whose declarations are faulty. -/
def rejected (settings : Settings) (source : Text) (fault : DeclarationFault) : Recording :=
  ⟨source, .ofText source, .empty, settings, .ofSnapshots [.rejected fault]⟩

/-- The record of a run that took the given steps. -/
def ofSteps (settings : Settings) (source : Text) (table : DeclarationTable) (steps : List Step) :
    Recording :=
  ⟨source, .ofText source, table, settings, .ofSnapshots (steps.map Step.snapshot)⟩

/-- What stays the same during a run under the given settings. -/
def runner (settings : Settings) (clock : Nat → Instant) (table : DeclarationTable) : Runner :=
  ⟨table, settings.budget, clock⟩

/-- Runs a script. -/
def ofSource (settings : Settings) (clock : Nat → Instant) (source : Text) : Recording :=
  let listing := Listing.ofText source
  match DeclarationTable.ofListing listing with
  | .error fault => rejected settings source fault
  | .ok table =>
    ofSteps settings source table
      ((runner settings clock table).steps 1 (Runner.executable table listing) .start)

/-- Runs a script and passes on each printed text when it is printed. -/
def ofSourceWith {m : Type → Type} [Monad m] (sink : Text → m Unit) (settings : Settings)
    (clock : Nat → Instant) (source : Text) : m Recording :=
  let listing := Listing.ofText source
  match DeclarationTable.ofListing listing with
  | .error fault => pure (rejected settings source fault)
  | .ok table => do
    let steps ←
      (runner settings clock table).stepsWith sink 1 (Runner.executable table listing) .start
    pure (ofSteps settings source table steps)

end Recording
end Stepwise
