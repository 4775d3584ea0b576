import Stepwise.Recording
import Stepwise.Proofs.VariableTable

/-!
# What a statement can do

All that is known about a single statement, said once for the proofs about runs:

- a statement fails only by a name that has no value, and a call fails as soon as one of its
  arguments does (`execute_error`, `execute_call_error`),
- `Statement.writes` is what a statement writes, and `Statement.targets` the names that it can
  write,
- a statement that does not fail makes its writes, makes some calls and prints at most one text; it
  takes nothing away and does not look at the log (`execute_follows`, `execute_ok`,
  `execute_withLog`).
-/

namespace Stepwise

/-! ### Failures -/

/-- The only fault of an expression is that all of it is a name without a value. -/
theorem evaluate_error {bindings : VariableTable} {line : Nat} {expression : Text} {fault : Fault}
    (h : Expression.evaluate bindings line expression = .error fault) :
    fault = .undefinedVariable expression.trim line := by
  simp only [Expression.evaluate] at h
  split at h
  · cases h
  · split at h
    · split at h
      · cases h
      · cases h
        rfl
    · split at h
      · cases h
      · split at h <;> cases h

section except
variable {α β ε : Type}

/-- A computation in two parts has a result when both parts have one. -/
theorem bind_ok {x : Except ε α} {f : α → Except ε β} {b : β} (h : x >>= f = .ok b) :
    ∃ a, x = .ok a ∧ f a = .ok b := by
  cases x with
  | error e => cases h
  | ok a => exact ⟨a, rfl, h⟩

/-- A computation in two parts fails when one of its parts does. -/
theorem bind_error {x : Except ε α} {f : α → Except ε β} {e : ε} (h : x >>= f = .error e) :
    x = .error e ∨ ∃ a, x = .ok a ∧ f a = .error e := by
  cases x with
  | error e' =>
    cases h
    exact .inl rfl
  | ok a => exact .inr ⟨a, rfl, h⟩

/-- The error of a list is that of one of its elements. -/
theorem mapM_error {f : α → Except ε β} {xs : List α} {e : ε} (h : xs.mapM f = .error e) :
    ∃ x ∈ xs, f x = .error e := by
  induction xs with
  | nil => cases h
  | cons x xs ih =>
    rw [List.mapM_cons] at h
    rcases bind_error h with hx | ⟨y, _, h⟩
    · exact ⟨x, List.mem_cons_self, hx⟩
    · rcases bind_error h with hxs | ⟨ys, _, h⟩
      · obtain ⟨z, hz, hfz⟩ := ih hxs
        exact ⟨z, List.mem_cons_of_mem _ hz, hfz⟩
      · cases h

/-- One element with an error is enough, wherever it stands. -/
theorem mapM_error_of_mem {f : α → Except ε β} {xs : List α} {x : α} {e : ε} (hmem : x ∈ xs)
    (h : f x = .error e) : ∃ e', xs.mapM f = .error e' := by
  induction xs with
  | nil => cases hmem
  | cons y ys ih =>
    rw [List.mapM_cons]
    cases hy : f y with
    | error e' => exact ⟨e', rfl⟩
    | ok v =>
      -- the first element has a value, so the error is further on
      have htail : x ∈ ys := by
        rcases List.mem_cons.mp hmem with rfl | htail
        · rw [h] at hy
          cases hy
        · exact htail
      obtain ⟨e', he'⟩ := ih htail
      rw [he']
      exact ⟨e', rfl⟩

end except

/-- The texts that a statement is made of. -/
def Statement.texts : Statement → List Text
  | .assignment name right => [name, right]
  | .output right => [right]
  | .call name arguments => name :: arguments
  | .condition right => [right]
  | .loop clause => [clause]
  | .expression text => [text]

section statements
variable {table : DeclarationTable} {state : RunState} {line : Nat} {statement : Statement}
  {effect : Effect} {fault : Fault}

/-- The only fault of a statement is that one of its texts is a name without a value, on the
    statement's own line. -/
theorem execute_error (h : execute table state line statement = .error fault) :
    ∃ text ∈ statement.texts, fault = .undefinedVariable text.trim line := by
  cases statement with
  | assignment name expression =>
    rcases bind_error h with hvalue | ⟨_, _, h⟩
    · exact ⟨expression, by simp [Statement.texts], evaluate_error hvalue⟩
    · cases h
  | output expression =>
    rcases bind_error h with hvalue | ⟨_, _, h⟩
    · exact ⟨expression, by simp [Statement.texts], evaluate_error hvalue⟩
    · cases h
  | call name arguments =>
    rcases bind_error h with hvalues | ⟨_, _, h⟩
    · obtain ⟨argument, hmem, hargument⟩ := mapM_error hvalues
      exact ⟨argument, List.mem_cons_of_mem _ hmem, evaluate_error hargument⟩
    · cases h
  | condition expression =>
    rcases bind_error h with hvalue | ⟨_, _, h⟩
    · exact ⟨expression, by simp [Statement.texts], evaluate_error hvalue⟩
    · cases h
  | loop clause => cases h
  | expression text => cases h

/-- A call fails when one of its arguments does, be it the first, the last or one without a
    parameter. -/
theorem execute_call_error {name argument : Text} {arguments : List Text}
    (hmem : argument ∈ arguments)
    (h : Expression.evaluate state.bindings line argument = .error fault) :
    ∃ fault', execute table state line (.call name arguments) = .error fault' := by
  obtain ⟨fault', hfault'⟩ := mapM_error_of_mem hmem h
  refine ⟨fault', ?_⟩
  simp only [execute, executeCall, hfault']
  rfl

end statements

/-! ### Writes -/

namespace Statement

/-- The names that a statement writes when it does not fail: the assigned name, or the parameters of
    the called function. -/
def targets (table : DeclarationTable) : Statement → List Text
  | .assignment name _ => [name]
  | .call name _ =>
    match table.get? name with
    | some d => d.parameters
    | none => []
  | _ => []

/-- The names that a statement on line `line` writes, with their values and in order. A statement
    that fails writes nothing. -/
def writes (table : DeclarationTable) (bindings : VariableTable) (line : Nat) :
    Statement → List (Text × Value)
  | .assignment name right =>
    match Expression.evaluate bindings line right with
    | .ok value => [(name, value)]
    | .error _ => []
  | .call name arguments =>
    match arguments.mapM (Expression.evaluate bindings line) with
    | .ok values => bindArguments ((call name arguments).targets table) values
    | .error _ => []
  | _ => []

end Statement

/-- Every parameter is bound once, in order. -/
theorem bindArguments_names (parameters : List Text) (values : List Value) :
    (bindArguments parameters values).map Prod.fst = parameters := by
  induction parameters generalizing values with
  | nil => rfl
  | cons name parameters ih =>
    cases values with
    | nil => simp [bindArguments, ih]
    | cons value values => simp [bindArguments, ih]

section statements
variable {table : DeclarationTable} {state : RunState} {line : Nat} {statement : Statement}
  {effect : Effect} {fault : Fault}

/-- A statement writes its targets and nothing else. -/
theorem mem_targets_of_writes {bindings : VariableTable} {name : Text} {value : Value}
    (h : (name, value) ∈ statement.writes table bindings line) :
    name ∈ statement.targets table := by
  cases statement with
  | assignment name' expression =>
    simp only [Statement.writes] at h
    split at h
    · obtain ⟨rfl, _⟩ := Prod.mk.inj (List.mem_singleton.mp h)
      exact List.mem_singleton_self _
    · cases h
  | call name' arguments =>
    simp only [Statement.writes] at h
    split at h
    · rw [← bindArguments_names (Statement.targets table (.call name' arguments)) _]
      exact List.mem_map_of_mem h
    · cases h
  | output expression => cases h
  | condition expression => cases h
  | loop clause => cases h
  | expression text => cases h

/-! ### Effects -/

/-- What a statement that does not fail does: it assigns the names of `writes` in order, makes the
    calls `calls` and prints a text or none. The log stays as it is. -/
structure Effect.Follows (state : RunState) (effect : Effect) (writes : List (Text × Value))
    (calls : CallStack) : Prop where
  bindings : effect.state.bindings = (assignAll state.bindings .none writes).1
  changes : effect.changes = (assignAll state.bindings .none writes).2
  stack : effect.state.stack = state.stack ++ calls
  output : effect.state.output = state.output ++ effect.printed.toList
  log : effect.state.log = state.log

/-- Every effect is of the one form. -/
theorem execute_follows (h : execute table state line statement = .ok effect) :
    ∃ calls, effect.Follows state (statement.writes table state.bindings line) calls := by
  cases statement with
  | assignment name expression =>
    obtain ⟨value, hvalue, h⟩ := bind_ok h
    cases h
    simp only [Statement.writes, hvalue]
    exact ⟨[], rfl, rfl, by simp, by simp, rfl⟩
  | output expression =>
    obtain ⟨value, _, h⟩ := bind_ok h
    cases h
    exact ⟨[], rfl, rfl, by simp, rfl, rfl⟩
  | call name arguments =>
    obtain ⟨values, hvalues, h⟩ := bind_ok h
    cases h
    simp only [Statement.writes, hvalues]
    exact ⟨_, rfl, rfl, rfl, by simp, rfl⟩
  | condition expression =>
    obtain ⟨value, _, h⟩ := bind_ok h
    cases h
    exact ⟨[], rfl, rfl, by simp, by simp, rfl⟩
  | loop clause =>
    cases h
    exact ⟨[], rfl, rfl, by simp, by simp, rfl⟩
  | expression text =>
    cases h
    exact ⟨[], rfl, rfl, by simp, by simp, rfl⟩

/-- What a statement that does not fail does, whatever it writes. -/
theorem execute_ok (h : execute table state line statement = .ok effect) :
    ∃ writes calls, effect.Follows state writes calls := ⟨_, execute_follows h⟩

/-- A statement that fails writes nothing. -/
theorem writes_of_error (h : execute table state line statement = .error fault) :
    statement.writes table state.bindings line = [] := by
  cases statement with
  | assignment name expression =>
    rcases bind_error h with hvalue | ⟨_, _, h⟩
    · simp only [Statement.writes, hvalue]
    · cases h
  | call name arguments =>
    rcases bind_error h with hvalues | ⟨_, _, h⟩
    · simp only [Statement.writes, hvalues]
    · cases h
  | output expression => rfl
  | condition expression => rfl
  | loop clause => rfl
  | expression text => rfl

/-- The state with another log. -/
def RunState.withLog (state : RunState) (log : List Entry) : RunState := { state with log }

/-- The effect on a state with another log. -/
def Effect.withLog (effect : Effect) (log : List Entry) : Effect :=
  { effect with state := effect.state.withLog log }

/-- No statement looks at the log. -/
theorem execute_withLog (log : List Entry) :
    execute table (state.withLog log) line statement =
      (execute table state line statement).map (·.withLog log) := by
  cases statement with
  | assignment name expression =>
    simp only [execute, RunState.withLog]
    cases Expression.evaluate state.bindings line expression <;> rfl
  | output expression =>
    simp only [execute, RunState.withLog]
    cases Expression.evaluate state.bindings line expression <;> rfl
  | call name arguments =>
    simp only [execute, executeCall, RunState.withLog]
    cases arguments.mapM (Expression.evaluate state.bindings line) <;> rfl
  | condition expression =>
    simp only [execute, RunState.withLog]
    cases Expression.evaluate state.bindings line expression <;> rfl
  | loop clause => rfl
  | expression text => rfl

end statements

/-! ### Growth -/

/-- Names that are in the table keep their places, however many are assigned. -/
theorem names_prefix_assignAll (writes : List (Text × Value)) (bindings : VariableTable)
    (changes : Changes) : bindings.names <+: (assignAll bindings changes writes).1.names := by
  induction writes generalizing bindings changes with
  | nil => exact List.prefix_refl _
  | cons write writes ih =>
    obtain ⟨name, value⟩ := write
    exact VariableTable.names_prefix_assign.trans (ih _ _)

/-- No name gets a second entry. -/
theorem distinct_assignAll (writes : List (Text × Value)) {bindings : VariableTable}
    (h : bindings.Distinct) (changes : Changes) :
    (assignAll bindings changes writes).1.Distinct := by
  induction writes generalizing bindings changes with
  | nil => exact h
  | cons write writes ih =>
    obtain ⟨name, value⟩ := write
    exact ih h.assign _

/-- No statement gives a name a second entry. -/
theorem distinct_execute {table : DeclarationTable} {state : RunState} {line : Nat}
    {statement : Statement} {effect : Effect} (h : execute table state line statement = .ok effect)
    (hd : state.bindings.Distinct) : effect.state.bindings.Distinct := by
  obtain ⟨writes, calls, hfollows⟩ := execute_ok h
  rw [hfollows.bindings]
  exact distinct_assignAll writes hd _

end Stepwise
