import Stepwise.Proofs.Accumulation
import Stepwise.Proofs.ReadBack

/-!
# Names without a value

There is one way to fail: an expression that is, without the blanks around it, a name and nothing
else must have a value. Whatever else an expression is (blank, a literal, operands with an operator,
no known form), it has a value, also when names without values stand in it as operands.

- `Expression.isMissing`: the expressions that fail, told from the text and the names that have
  values,
- `evaluate_eq_error_iff` and `exists_evaluate_eq_ok_iff`: these fail and all others have a value,
- `execute_eq_error_iff`: a statement fails with the first of its expressions that does,
- `missing_names_fail`: so the text of a line and the snapshot before it tell whether its step
  fails, and with which name.
-/

namespace Stepwise

/-! ### Expressions -/

namespace Expression

/-- Whether an expression is a name that is not one of `names`. -/
def isMissing (names : List Text) (text : Text) : Bool :=
  isName text.trim && !names.contains text.trim

variable {table : VariableTable} {line : Nat} {text : Text}

theorem isMissing_iff {names : List Text} :
    isMissing names text = true ↔ isName text.trim = true ∧ text.trim ∉ names := by
  simp [isMissing]

/-- A name that has no value fails. -/
theorem evaluate_of_isMissing (h : isMissing table.names text = true) (line : Nat) :
    evaluate table line text = .error (.undefinedVariable text.trim line) := by
  obtain ⟨hname, hmem⟩ := isMissing_iff.mp h
  obtain ⟨hword, hvalue⟩ := isName_iff.mp hname
  have hget : table.get? text.trim = none := VariableTable.get?_eq_none_iff.mpr hmem
  simp only [evaluate, hvalue, hword, if_true, hget]

/-- All other expressions have a value. -/
theorem evaluate_of_not_isMissing (h : isMissing table.names text = false) (line : Nat) :
    ∃ value, evaluate table line text = .ok value := by
  cases hresult : evaluate table line text with
  | ok value => exact ⟨value, rfl⟩
  | error fault =>
    -- Only a word without a meaning of its own is looked up, and only a look-up can fail.
    exfalso
    simp only [evaluate] at hresult
    split at hresult
    · cases hresult
    · next hvalue =>
      split at hresult
      · next hword =>
        split at hresult
        · cases hresult
        · next hget =>
          have hmem : text.trim ∉ table.names := VariableTable.get?_eq_none_iff.mp hget
          have hmissing := isMissing_iff.mpr ⟨isName_iff.mpr ⟨hword, hvalue⟩, hmem⟩
          rw [hmissing] at h
          cases h
      · split at hresult
        · cases hresult
        · split at hresult <;> cases hresult

/-- Exactly the names without a value fail, with that name and on the given line. -/
theorem evaluate_eq_error_iff (table : VariableTable) (line : Nat) (text : Text) (fault : Fault) :
    evaluate table line text = .error fault ↔
      isMissing table.names text = true ∧ fault = .undefinedVariable text.trim line := by
  constructor
  · intro h
    refine ⟨?_, evaluate_error h⟩
    apply eq_true_of_ne_false
    intro hvalue
    obtain ⟨value, hok⟩ := evaluate_of_not_isMissing hvalue line
    rw [hok] at h
    cases h
  · rintro ⟨hmissing, rfl⟩
    exact evaluate_of_isMissing hmissing line

theorem exists_evaluate_eq_ok_iff : (∃ value, evaluate table line text = .ok value) ↔
    isMissing table.names text = false := by
  constructor
  · rintro ⟨value, hok⟩
    apply eq_false_of_ne_true
    intro hmissing
    rw [evaluate_of_isMissing hmissing] at hok
    cases hok
  · intro h
    exact evaluate_of_not_isMissing h line

end Expression

/-! ### Statements -/

/-- The expressions that a statement evaluates, in order. -/
def Statement.reads : Statement → List Text
  | .assignment _ right => [right]
  | .output right => [right]
  | .call _ arguments => arguments
  | .condition right => [right]
  | .loop _ => []
  | .expression _ => []

/-- When it is known which elements fail and how, a list fails with the first of them. -/
theorem mapM_eq_error_iff {α β ε : Type} {f : α → Except ε β} {fails : α → Bool} {errorOf : α → ε}
    (h : ∀ x e, f x = .error e ↔ fails x = true ∧ e = errorOf x) (xs : List α) (e : ε) :
    xs.mapM f = .error e ↔ ∃ x, xs.find? fails = some x ∧ e = errorOf x := by
  induction xs with
  | nil =>
    constructor
    · intro hnil
      cases hnil
    · rintro ⟨x, hx, _⟩
      cases hx
  | cons x xs ih =>
    rw [List.mapM_cons, List.find?_cons]
    cases hx : f x with
    | error e' =>
      obtain ⟨hfails, rfl⟩ := (h x e').mp hx
      simp only [hfails]
      constructor
      · intro herror
        cases herror
        exact ⟨x, rfl, rfl⟩
      · rintro ⟨y, hy, rfl⟩
        cases hy
        rfl
    | ok value =>
      have hfails : fails x = false := by
        apply eq_false_of_ne_true
        intro hfails
        rw [(h x _).mpr ⟨hfails, rfl⟩] at hx
        cases hx
      simp only [hfails]
      rw [← ih]
      -- What is left fails when the rest of the list does.
      cases hxs : xs.mapM f with
      | error e' => rfl
      | ok values =>
        constructor
        · intro herror
          cases herror
        · intro herror
          cases herror

/-- When only the first of two parts can fail, the whole fails as that part does. -/
theorem bind_eq_error_iff {α β ε : Type} {x : Except ε α} {f : α → Except ε β}
    (hf : ∀ a, ∃ b, f a = .ok b) (e : ε) : x >>= f = .error e ↔ x = .error e := by
  constructor
  · intro h
    rcases bind_error h with hx | ⟨a, _, hfa⟩
    · exact hx
    · obtain ⟨b, hb⟩ := hf a
      rw [hb] at hfa
      cases hfa
  · intro h
    rw [h]
    rfl

section statements
variable {table : DeclarationTable} {state : RunState} {line : Nat} {statement : Statement}
  {fault : Fault}

/-- A statement fails as the evaluation of its expressions does, one after the other. -/
theorem execute_eq_error_iff_mapM : execute table state line statement = .error fault ↔
    statement.reads.mapM (Expression.evaluate state.bindings line) = .error fault := by
  -- One expression is evaluated like a list of one.
  have hone : ∀ right, [right].mapM (Expression.evaluate state.bindings line) = .error fault ↔
      Expression.evaluate state.bindings line right = .error fault := by
    intro right
    rw [List.mapM_cons]
    exact bind_eq_error_iff (fun value => ⟨[value], rfl⟩) fault
  cases statement with
  | assignment name right =>
    exact (bind_eq_error_iff (fun _ => ⟨_, rfl⟩) fault).trans (hone right).symm
  | output right => exact (bind_eq_error_iff (fun _ => ⟨_, rfl⟩) fault).trans (hone right).symm
  | call name arguments => exact bind_eq_error_iff (fun _ => ⟨_, rfl⟩) fault
  | condition right => exact (bind_eq_error_iff (fun _ => ⟨_, rfl⟩) fault).trans (hone right).symm
  | loop clause => constructor <;> intro h <;> cases h
  | expression text => constructor <;> intro h <;> cases h

/-- A statement fails with the first of its expressions that is a name without a value, and on its
    own line. -/
theorem execute_eq_error_iff : execute table state line statement = .error fault ↔
    ∃ text, statement.reads.find? (Expression.isMissing state.bindings.names) = some text ∧
      fault = .undefinedVariable text.trim line := by
  rw [execute_eq_error_iff_mapM]
  exact mapM_eq_error_iff (Expression.evaluate_eq_error_iff state.bindings line)
    statement.reads fault

end statements

/-! ### Steps -/

/-- A step reports a name without a value exactly when its statement fails with it. -/
theorem Runner.step_fault_iff (r : Runner) (state : RunState) (n line : Nat) (isLast : Bool)
    (statement : Statement) (name : Text) (line' : Nat) :
    (r.step state n isLast line statement).snapshot.fault = some (.undefinedVariable name line') ↔
      execute r.table state line statement = .error (.undefinedVariable name line') := by
  unfold step
  cases execute r.table state line statement with
  | ok effect =>
    -- The only fault of such a step is a budget that is used up.
    show (r.succeed n line isLast effect).snapshot.fault = _ ↔ _
    rw [succeed_fault]
    split <;> simp
  | error fault =>
    show some fault = _ ↔ _
    rw [Option.some.injEq, Except.error.injEq]

/-- Besides a name without a value, only the budget can end a run at one of its lines. -/
theorem Runner.step_fault_cases (r : Runner) (state : RunState) (n line : Nat) (isLast : Bool)
    (statement : Statement) :
    (r.step state n isLast line statement).snapshot.fault = none ∨
      (∃ limit, (r.step state n isLast line statement).snapshot.fault =
        some (.budgetExceeded limit)) ∨
      ∃ name line', (r.step state n isLast line statement).snapshot.fault =
        some (.undefinedVariable name line') := by
  unfold step
  cases hexec : execute r.table state line statement with
  | ok effect =>
    show (r.succeed n line isLast effect).snapshot.fault = _ ∨ _
    simp only [succeed_fault]
    split
    · exact Or.inr (Or.inl ⟨r.budget, rfl⟩)
    · exact Or.inl rfl
  | error fault =>
    obtain ⟨text, _, rfl⟩ := execute_eq_error_iff.mp hexec
    exact Or.inr (Or.inr ⟨text.trim, line, rfl⟩)

namespace Recording

variable {settings : Settings} {clock : Nat → Instant} {source : Text} {table : DeclarationTable}

/-- What the expressions of a step's statement tell about its fault: the step reports a name without
    a value exactly when one of the expressions is such a name, and then it is the first one, on the
    step's line. Otherwise the step has no fault, unless it was the last one that the budget
    allowed. -/
structure FailsBy (names : List Text) (statement : Statement) (after : Snapshot) : Prop where
  fails_iff : (∃ name line, after.fault = some (.undefinedVariable name line)) ↔
    ∃ text ∈ statement.reads, Expression.isMissing names text = true
  first : ∀ text, statement.reads.find? (Expression.isMissing names) = some text →
    after.fault = some (.undefinedVariable text.trim after.line)
  otherwise : (∀ text ∈ statement.reads, Expression.isMissing names text = false) →
    after.fault = none ∨ ∃ limit, after.fault = some (.budgetExceeded limit)

/-- The line of a step, and what it tells about the step's fault. -/
theorem failsBy_succ (hbuild : DeclarationTable.ofListing (.ofText source) = .ok table) {k : Nat}
    (hk : k < (historyOf settings clock source).totalSteps) :
    ∃ line statement, (Runner.executable table (.ofText source))[k]? = some (line, statement) ∧
      ((historyOf settings clock source).get (k + 1 : Nat)).line = line ∧
      FailsBy (((historyOf settings clock source).get k).bindings.map Variable.name) statement
        ((historyOf settings clock source).get (k + 1 : Nat)) := by
  obtain ⟨s, line, statement, _, hline, hstep, hget⟩ := step_at hbuild hk
  obtain ⟨hshows, _⟩ := shows_get hbuild (Nat.le_of_lt hk)
  have hnumber : s.snapshot.line = line := by
    rw [hstep]
    exact (Runner.step_snapshot _ _ _ _ _ _).2.1
  -- The step's fault is that of its statement, which the names of the snapshot before it decide.
  have hfault : ∀ name line', s.snapshot.fault = some (.undefinedVariable name line') ↔
      ∃ text, statement.reads.find?
        (Expression.isMissing
          (((historyOf settings clock source).get k).bindings.map Variable.name)) =
          some text ∧ Fault.undefinedVariable name line' = .undefinedVariable text.trim line := by
    intro name line'
    rw [hstep, Runner.step_fault_iff, execute_eq_error_iff, hshows.names]
  rw [hget]
  refine ⟨line, statement, hline, hnumber, ?_, ?_, ?_⟩
  · constructor
    · rintro ⟨name, line', h⟩
      obtain ⟨text, hfind, _⟩ := (hfault name line').mp h
      exact ⟨text, List.mem_of_find?_eq_some hfind, List.find?_some hfind⟩
    · rintro ⟨text, hmem, hmissing⟩
      obtain ⟨first, hfind⟩ :=
        Option.isSome_iff_exists.mp (List.find?_isSome.mpr ⟨text, hmem, hmissing⟩)
      exact ⟨first.trim, line, (hfault _ _).mpr ⟨first, hfind, rfl⟩⟩
  · intro text hfind
    rw [hnumber]
    exact (hfault _ _).mpr ⟨text, hfind, rfl⟩
  · intro hvalues
    have hcases : s.snapshot.fault = none ∨
        (∃ limit, s.snapshot.fault = some (.budgetExceeded limit)) ∨
        ∃ name line', s.snapshot.fault = some (.undefinedVariable name line') := by
      rw [hstep]
      exact Runner.step_fault_cases _ _ _ _ _ _
    rcases hcases with hnone | hbudget | ⟨name, line', h⟩
    · exact Or.inl hnone
    · exact Or.inr hbudget
    · obtain ⟨text, hfind, _⟩ := (hfault name line').mp h
      have hvalue := hvalues text (List.mem_of_find?_eq_some hfind)
      rw [List.find?_some hfind] at hvalue
      cases hvalue

/-- Exactly the names without a value fail. An expression fails when without the blanks around it it
    is a word, but not a run of digits, not reserved and not the name of a variable; then the fault
    has this name and the given line. Every other expression has a value. So the step of a line
    fails exactly when an assignment, an output or a condition evaluates such a name, or when it is
    among the arguments of a call, where names count that are not in the snapshot before; the fault
    has the first such name from the left, and the line of the step. No other fault ends a run at a
    line but a budget that is used up. -/
theorem missing_names_fail :
    (∀ (bindings : VariableTable) (line : Nat) (text : Text),
      (∀ fault, Expression.evaluate bindings line text = .error fault ↔
        Expression.isMissing bindings.names text = true ∧
          fault = .undefinedVariable text.trim line) ∧
      ((∃ value, Expression.evaluate bindings line text = .ok value) ↔
        Expression.isMissing bindings.names text = false)) ∧
    ∀ (settings : Settings) (clock : Nat → Instant) (source : Text) (table : DeclarationTable),
      DeclarationTable.ofListing (.ofText source) = .ok table →
      ∀ k : Nat, k < (historyOf settings clock source).totalSteps →
        let before := (historyOf settings clock source).get k
        let after := (historyOf settings clock source).get (k + 1 : Nat)
        ∃ line statement, (Runner.executable table (.ofText source))[k]? = some (line, statement) ∧
          after.line = line ∧ FailsBy (before.bindings.map Variable.name) statement after := by
  constructor
  · intro bindings line text
    exact ⟨Expression.evaluate_eq_error_iff bindings line text,
      Expression.exists_evaluate_eq_ok_iff⟩
  · intro settings clock source table hbuild k hk
    exact failsBy_succ hbuild hk

/-- Three of the arguments have a name without a value. The first of these does not fail, since the
    name is an operand there. -/
theorem missing_names_fail_among_arguments :
    let source : Text := "function f(a) \x7b\n\x7d\nx = true\nf(x, y + x, other, last)"
    let table : DeclarationTable := ⟨[⟨"f", ["a"], [], 1⟩], [1]⟩
    let history := (ofSource .default (fun _ => .epoch) source).history
    DeclarationTable.ofListing (.ofText source) = .ok table ∧ 1 < history.totalSteps ∧
      (history.get 1).bindings.map Variable.name = ["x".toList] ∧
      (history.get 2).fault = some (.undefinedVariable "other" 4) := by
  intro source table history
  have hbuild : DeclarationTable.ofListing (.ofText source) = .ok table := rfl
  have hk : 1 < history.totalSteps := by decide +kernel
  have hnames : (history.get 1).bindings.map Variable.name = ["x".toList] := by decide +kernel
  have hcall : (Runner.executable table (.ofText source))[1]? =
      some (4, .call "f" ["x", "y + x", "other", "last"]) := by decide +kernel
  refine ⟨hbuild, hk, hnames, ?_⟩
  obtain ⟨line, statement, hline, hnumber, hfails⟩ :=
    missing_names_fail.2 .default (fun _ => .epoch) source table hbuild 1 hk
  cases Option.some.inj (hcall.symm.trans hline)
  have hfirst : (Statement.call "f" ["x", "y + x", "other", "last"]).reads.find?
      (Expression.isMissing ["x".toList]) = some "other".toList := by decide +kernel
  have hfault := hfails.first "other" (hnames ▸ hfirst)
  rw [hnumber] at hfault
  exact hfault

end Recording
end Stepwise
