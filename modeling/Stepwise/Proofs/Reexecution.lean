import Stepwise.Proofs.Calls
import Stepwise.Proofs.Operands
import Stepwise.Proofs.ReadBack

/-!
# Assignments in the log

The log tells an assignment as `name = value`, with quotes around text. Such a line can be executed
again, and it needs neither the variables nor the declarations of the run. Whatever the text between
the quotes looks like, the line is an assignment and its right side a literal: the first `=` is the
one after the name, and an expression is compared with the literals before all else. Only text that
holds a double quote does not come back, and text that was not understood comes back as text that
is.

- `evaluate_literal` and `ofLine_literal`: the literal form of a value reads back, alone and in an
  assignment,
- `execute_assigns`: a statement whose entry is one of assignment is an assignment, and the entry
  tells its value,
- `exists_executes_of_mem_log`: every entry of a log was added by a step that executed its line,
- `RecordsAssignment` is what an entry of assignment has to do with the snapshots before and after
  its step,
- `assignments_reexecute` puts these together.
-/

namespace Stepwise

/-! ### Literal forms -/

/-- The value that is read from the literal form: between quotes all text is understood. -/
def Value.understood : Value → Value
  | raw text => string text
  | v => v

namespace Expression

/-- Text between double quotes stands for itself, in all variables and on every line. -/
theorem evaluate_quoted {text : Text} (h : '"' ∉ text) (table : VariableTable) (line : Nat) :
    evaluate table line ('"' :: text ++ ['"']) = .ok (.string text) := by
  let operand := Operand.quoted '"' text rfl h
  have hliteral : literal? operand.text = some (.string text) := Operand.literal?_quoted rfl h
  show evaluate table line operand.text = _
  rw [evaluate, operand.trim_text, hliteral]
  rfl

/-- The literal form of a value that is no number, and has no double quote in its text, is an
    expression for it. -/
theorem evaluate_literal {v : Value} (hnumber : v.number? = none)
    (hquote : ∀ text, v.text? = some text → '"' ∉ text) (table : VariableTable) (line : Nat) :
    evaluate table line v.literal = .ok v.understood := by
  cases v with
  | number n => cases hnumber
  | string text => exact evaluate_quoted (hquote text rfl) table line
  | raw text => exact evaluate_quoted (hquote text rfl) table line
  | boolean b => cases b <;> rfl
  | undefined => rfl
  | null => rfl

end Expression

/-- There is nothing to trim at a literal form, which ends in quotes or letters. -/
theorem Value.trim_literal {v : Value} (hnumber : v.number? = none) :
    v.literal.trim = v.literal ∧ v.literal ≠ [] := by
  cases v with
  | number n => cases hnumber
  | string text => exact ⟨Text.trim_of_ends text rfl rfl, List.cons_ne_nil _ _⟩
  | raw text => exact ⟨Text.trim_of_ends text rfl rfl, List.cons_ne_nil _ _⟩
  | boolean b => cases b <;> decide
  | undefined => decide
  | null => decide

namespace Statement

/-- The line that the log has for an assignment is an assignment, whatever is declared. -/
theorem ofLine_literal {name : Text} (hname : name.isWord = true) {v : Value}
    (hnumber : v.number? = none) (table : DeclarationTable) :
    ofLine table (name ++ " = ".toList ++ v.literal) = .assignment name v.literal := by
  obtain ⟨htrim, hne⟩ := v.trim_literal hnumber
  -- the first `=` is the one after the name, and the space after it keeps it from being part of
  -- `==`
  have hright : Text.trim (' ' :: v.literal) = v.literal := (Text.trim_cons rfl _).trans htrim
  have hline : name ++ " = ".toList ++ v.literal = name ++ [' '] ++ '=' :: ' ' :: v.literal := by
    simp
  have hread : assignment? (name ++ " = ".toList ++ v.literal) =
      some (.assignment name v.literal) := by
    refine assignment?_eq_some_iff.mpr ⟨name, [' '], ' ' :: v.literal, hname,
      rfl, by simp, ?_, hline, ?_⟩
    · rw [hright]
      exact hne
    · rw [hright]
  rw [ofLine, hread]
  rfl

/-- Only words are assigned to. -/
theorem isWord_of_ofLine {listing : Listing} {table : DeclarationTable}
    (hbuild : DeclarationTable.ofListing listing = .ok table) {line name right : Text}
    (h : ofLine table line = .assignment name right) : name.isWord = true := by
  rcases (ofLine_eq_iff hbuild).mp h with ⟨form, _, hmeans, _⟩ | ⟨_, hplain⟩
  · -- the other forms stand for other statements
    cases form with
    | assignment name' gap right' hname =>
      cases hmeans
      exact hname
    | call name' gap inner =>
      obtain ⟨_, _, hcall⟩ := hmeans
      cases hcall
    | nestedOutput => cases hmeans
    | dottedOutput => cases hmeans
    | condition => cases hmeans
    | loop => cases hmeans
  · cases hplain

end Statement

/-! ### Single statements -/

/-- The effect is that of assigning a value to a name. -/
structure Effect.Assigns (effect : Effect) (name : Text) (value : Value) : Prop where
  assigned : effect.state.bindings.get? name = some value
  details : effect.details = name ++ " = ".toList ++ value.literal

/-- A statement whose log entry is one of assignment assigns the value of its expression. -/
theorem execute_assigns {table : DeclarationTable} {state : RunState} {line : Nat}
    {statement : Statement} {effect : Effect} (h : execute table state line statement = .ok effect)
    (haction : effect.action = .assignment) :
    ∃ name expression value, statement = .assignment name expression ∧
      Expression.evaluate state.bindings line expression = .ok value ∧
        effect.Assigns name value := by
  cases statement with
  | assignment name expression =>
    obtain ⟨value, hvalue, h⟩ := bind_ok h
    cases h
    refine ⟨name, expression, value, rfl, hvalue, ?_, rfl⟩
    rw [VariableTable.get?_assign, if_pos rfl]
  | output expression =>
    obtain ⟨value, _, h⟩ := bind_ok h
    cases h
    cases haction
  | call name arguments =>
    obtain ⟨values, _, h⟩ := bind_ok h
    cases h
    cases haction
  | condition expression =>
    obtain ⟨value, _, h⟩ := bind_ok h
    cases h
    cases haction
  | loop clause =>
    cases h
    cases haction
  | expression text =>
    cases h
    cases haction

/-! ### Entries of the log -/

/-- The log entry is that of the assignment of a value to a name: the line of the entry assigns to
    the name, its expression has the value in the variables before the entry's step, and after the
    step the name has it. -/
structure RecordsAssignment (source : Text) (history : History) (e : Entry) (name : Text)
    (value : Value) :
    Prop where
  /-- The entry is that of a step of the history. -/
  step_le : 1 ≤ e.step ∧ e.step ≤ history.totalSteps
  entry : Snapshot.lastEntry? (history.get e.step) = some e
  evaluated : ∃ table line expression, DeclarationTable.ofListing (.ofText source) = .ok table ∧
    (Listing.ofText source).get? e.line = some line ∧
    Statement.ofLine table line = .assignment name expression ∧
    Expression.evaluate (RunState.ofSnapshot (history.get (e.step - 1 : Nat))).bindings
      e.line expression =
      .ok value
  assigned : (history.get e.step).value? name = some value
  details : e.details = name ++ " = ".toList ++ value.literal

/-- Only words are assigned to. -/
theorem RecordsAssignment.isWord {source : Text} {history : History} {e : Entry} {name : Text}
    {value : Value} (h : RecordsAssignment source history e name value) : name.isWord = true := by
  obtain ⟨_, _, _, hbuild, _, hassignment, _⟩ := h.evaluated
  exact Statement.isWord_of_ofLine hbuild hassignment

namespace Recording

variable {settings : Settings} {clock : Nat → Instant} {source : Text} {table : DeclarationTable}

/-- Every entry of the log was added by a step that executed its line. -/
theorem exists_executes_of_mem_log
    (hbuild : DeclarationTable.ofListing (.ofText source) = .ok table) {k : Nat}
    (hk : k ≤ (historyOf settings clock source).totalSteps) {e : Entry}
    (he : e ∈ ((historyOf settings clock source).get k).log) :
    ∃ j number text effect, j < k ∧ Executes settings clock source table j number text effect ∧
      e = (runner settings clock table).entry (j + 1) number effect := by
  induction k with
  | zero => cases he
  | succ k ih =>
    have hearlier : e ∈ ((historyOf settings clock source).get k).log →
        ∃ j number text effect, j < k + 1 ∧
        Executes settings clock source table j number text effect ∧
        e = (runner settings clock table).entry (j + 1) number effect := by
      intro he
      obtain ⟨j, number, text, effect, hj, h⟩ := ih (Nat.le_of_lt hk) he
      exact ⟨j, number, text, effect, Nat.lt_succ_of_lt hj, h⟩
    rcases executes_or_fails hbuild hk with ⟨number, text, effect, hexec⟩ | ⟨number, fault, hafter⟩
    · rw [hexec.log, List.mem_append, List.mem_singleton] at he
      rcases he with he | rfl
      · exact hearlier he
      · exact ⟨k, number, text, effect, Nat.lt_succ_self k, hexec, rfl⟩
    · -- a step that fails adds nothing
      rw [hafter] at he
      exact hearlier he

/-- A step whose entry is one of assignment records the assignment of its line. -/
theorem Executes.recordsAssignment
    (hbuild : DeclarationTable.ofListing (.ofText source) = .ok table) {k : Nat}
    (hk : k < (historyOf settings clock source).totalSteps) {number : Nat} {text : Text}
    {effect : Effect} (h : Executes settings clock source table k number text effect)
    (haction : effect.action = .assignment) :
    ∃ name value, RecordsAssignment source (historyOf settings clock source)
      ((runner settings clock table).entry (k + 1) number effect) name value := by
  obtain ⟨name, expression, value, hstatement, hvalue, hassigns⟩ :=
    execute_assigns h.executed haction
  refine ⟨name, value, ⟨Nat.succ_pos k, hk⟩, h.lastEntry, ?_, ?_, hassigns.details⟩
  · exact ⟨table, text, expression, hbuild, h.line, hstatement, hvalue⟩
  · exact (h.shows.value?_eq name).trans hassigns.assigned

/-- An entry of assignment, in any snapshot of any run, records one. -/
theorem recordsAssignment_of_mem {s : Snapshot}
    (hs : s ∈ (historyOf settings clock source).snapshots) {e : Entry} (he : e ∈ s.log)
    (haction : e.action = .assignment) :
    ∃ name value, RecordsAssignment source (historyOf settings clock source) e name value := by
  obtain ⟨k, hk, rfl⟩ := History.exists_get_of_mem hs
  cases hbuild : DeclarationTable.ofListing (.ofText source) with
  | error fault =>
    -- the log of a rejected script is empty
    cases k with
    | zero => cases he
    | succ k =>
      rw [(get_of_rejected hbuild hk).2] at he
      cases he
  | ok table =>
    obtain ⟨j, number, text, effect, hj, hexec, rfl⟩ := exists_executes_of_mem_log hbuild hk he
    exact hexec.recordsAssignment hbuild (Nat.lt_of_lt_of_le hj hk) haction

/-- Assignments in the log can be executed again. Every entry of assignment in the log of every
    snapshot of every run records the assignment of a value to a name. If the value is no number and
    has no double quote in its text, then the text of the entry, on any line that is not structural
    and with any declarations, is an assignment to the same name, and its expression has that value
    in all variables; text that was not understood comes back as text that is. -/
theorem assignments_reexecute (settings : Settings) (clock : Nat → Instant) (source : Text)
    {s : Snapshot} (hs : s ∈ (ofSource settings clock source).history.snapshots) {e : Entry}
    (he : e ∈ s.log) (haction : e.action = .assignment) :
    ∃ name value, RecordsAssignment source (ofSource settings clock source).history e name value ∧
      (value.number? = none → (∀ text, value.text? = some text → '"' ∉ text) →
        ∀ (table : DeclarationTable) (number : Nat), table.isStructural number e.details = false →
          ∃ expression, Statement.classify? table number e.details =
            some (.assignment name expression) ∧
            ∀ bindings line, Expression.evaluate bindings line expression =
              .ok value.understood) := by
  obtain ⟨name, value, hrecords⟩ := recordsAssignment_of_mem hs he haction
  refine ⟨name, value, hrecords, ?_⟩
  intro hnumber hquote table number hstructural
  refine ⟨value.literal, ?_, Expression.evaluate_literal hnumber hquote⟩
  rw [Statement.classify?, hstructural, if_neg Bool.false_ne_true, hrecords.details,
    Statement.ofLine_literal hrecords.isWord hnumber]

/-- The text was not understood; it holds another `=` and single quotes, and begins like a call. -/
theorem assignments_reexecute_not_understood :
    let source : Text := "y = p(1) = 'q'"
    let history := (ofSource .default (fun _ => .epoch) source).history
    ∃ s ∈ history.snapshots, ∃ e ∈ s.log, e.action = .assignment ∧
      e.details = "y = \"p(1) = 'q'\"".toList ∧
      RecordsAssignment source history e "y".toList (.raw "p(1) = 'q'".toList) ∧
      ∀ (table : DeclarationTable) (number : Nat), table.isStructural number e.details = false →
        ∃ expression, Statement.classify? table number e.details =
          some (.assignment "y".toList expression) ∧
          ∀ bindings line, Expression.evaluate bindings line expression =
            .ok (.string "p(1) = 'q'".toList) := by
  intro source history
  have hs : history.get 1 ∈ history.snapshots := List.get_mem _ _
  have hlog : (history.get 1).log.map (fun e => (e.action, e.details, e.line)) =
      [(.assignment, "y = \"p(1) = 'q'\"".toList, 1)] := by decide +kernel
  obtain ⟨e, he, hentry⟩ := List.mem_map.mp (hlog ▸ List.mem_singleton_self _)
  obtain ⟨haction, hdetails, hline⟩ : e.action = .assignment ∧ e.details = _ ∧ e.line = 1 := by
    simpa using hentry
  obtain ⟨name, value, hrecords, hagain⟩ :=
    assignments_reexecute .default (fun _ => .epoch) source hs he haction
  -- name and value are those of the one line
  obtain ⟨table, text, expression, hbuild, htext, hassignment, hvalue⟩ := hrecords.evaluated
  have hstatement : Statement.ofLine .empty source =
      .assignment "y".toList "p(1) = 'q'".toList := by decide +kernel
  rw [hline] at htext
  cases hbuild
  cases htext
  obtain ⟨rfl, rfl⟩ := Statement.assignment.inj (hstatement.symm.trans hassignment)
  cases hvalue
  have hquote : ∀ text, (Value.raw "p(1) = 'q'".toList).text? = some text → '"' ∉ text := by
    rintro _ ⟨⟩
    decide
  exact ⟨_, hs, e, he, haction, hdetails, hrecords, hagain rfl hquote⟩

end Recording
end Stepwise
