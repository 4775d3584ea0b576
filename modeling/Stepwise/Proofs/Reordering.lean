import Mathlib.Data.List.Forall2
import Stepwise.Proofs.Parts
import Stepwise.Proofs.Resumption

/-!
# Variables in another order

The order of the variables is seen in the list of a snapshot and nowhere else: expressions find
variables by name. Two runs whose states differ in the order of two variables, and in what was
logged before, go on alike.

- `Expression.evaluate_congr`: a value depends only on the variables whose names are parts of the
  expression,
- `VariableTable.Reordered`: two tables that may differ in the order of two neighbours. Two
  assignments to other names give such tables when they are made in the other order
  (`reordered_assign_assign`),
- `Exchange` says how two runs may differ, and `RunState.SameBut` that they do not differ more,
- `execute_sameBut`, `Run.sameBut`: one statement, and a whole run, from two such states.
-/

namespace Stepwise

/-! ### What an expression reads -/

namespace Expression

variable {table table' : VariableTable} {text : Text} {line : Nat}

theorem resolve_congr (h : ∀ name, name <:+: text → table.get? name = table'.get? name) :
    resolve table text = resolve table' text := by
  simp only [resolve]
  rw [h _ (Text.infix_trim text)]

/-- Variables whose names are not parts of the expression do not matter. -/
theorem evaluate_congr (h : ∀ name, name <:+: text → table.get? name = table'.get? name)
    (line : Nat) :
    evaluate table line text = evaluate table' line text := by
  have hresolve : ∀ operand, operand <:+: text.trim →
      resolve table operand = resolve table' operand :=
    fun operand hoperand => resolve_congr fun name hname =>
      h name (hname.trans (hoperand.trans (Text.infix_trim text)))
  simp only [evaluate]
  rw [h _ (Text.infix_trim text)]
  split
  · rfl
  · split
    · rfl
    · split
      · rename_i hsplit
        obtain ⟨hleft, hright⟩ := infix_of_splitArithmetic? hsplit
        rw [hresolve _ hleft, hresolve _ hright]
      · split
        · rename_i hsplit
          obtain ⟨hleft, hright⟩ := infix_of_splitComparison? hsplit
          rw [hresolve _ hleft, hresolve _ hright]
        · rfl

/-- The number of the line is only told by a fault. -/
theorem evaluate_line {value : Value} (h : evaluate table line text = .ok value) (line' : Nat) :
    evaluate table line' text = .ok value := by
  simp only [evaluate] at h ⊢
  split at h
  · exact h
  · split at h
    · rename_i hword
      rw [if_pos hword]
      split at h
      · exact h
      · cases h
    · rename_i hword
      rw [if_neg hword]
      exact h

end Expression

/-! ### Tables -/

namespace VariableTable

/-- The tables are the same, or else, which `p` has to allow, the names `a` and `b` are neighbours
    and stand in the other order. -/
def Reordered (a b : Text) (p : Prop) (table table' : VariableTable) : Prop :=
  table = table' ∨ p ∧ ∃ before v w after, table.entries = before ++ (a, v) :: (b, w) :: after ∧
    table'.entries = before ++ (b, w) :: (a, v) :: after

variable {a b : Text} {p : Prop} {table table' : VariableTable}

/-- An entry in front of both tables. -/
theorem Reordered.cons (h : table.Reordered a b p table') (entry : Text × Value) :
    Reordered a b p (ofEntries (entry :: table.entries)) (ofEntries (entry :: table'.entries)) := by
  rcases h with rfl | ⟨hp, before, v, w, after, heq, heq'⟩
  · exact .inl rfl
  · refine .inr ⟨hp, entry :: before, v, w, after, ?_, ?_⟩
    · rw [entries_ofEntries, heq, List.cons_append]
    · rw [entries_ofEntries, heq', List.cons_append]

theorem Reordered.names (h : table.Reordered a b p table') : table.names = table'.names ∨
    p ∧ ∃ before after, table.names = before ++ a :: b :: after ∧
      table'.names = before ++ b :: a :: after := by
  rcases h with rfl | ⟨hp, before, v, w, after, heq, heq'⟩
  · exact .inl rfl
  · refine .inr ⟨hp, before.map Prod.fst, after.map Prod.fst, ?_, ?_⟩
    · rw [VariableTable.names, heq, List.map_append, List.map_cons, List.map_cons]
    · rw [VariableTable.names, heq', List.map_append, List.map_cons, List.map_cons]

section distinct
variable (hab : a ≠ b)
include hab

/-- Neighbours of other names can change places, whatever is looked up. -/
theorem lookup_neighbours (v w : Value) (after : List (Text × Value)) (name : Text) :
    List.lookup name ((a, v) :: (b, w) :: after) =
      List.lookup name ((b, w) :: (a, v) :: after) := by
  simp only [List.lookup_cons]
  by_cases ha : name = a
  · have hb : (a == b) = false := beq_eq_false_iff_ne.mpr hab
    simp [ha, hb]
  · have ha' : (name == a) = false := beq_eq_false_iff_ne.mpr ha
    simp [ha']

theorem Reordered.get?_eq (h : table.Reordered a b p table') (name : Text) :
    table.get? name = table'.get? name := by
  rcases h with rfl | ⟨_, before, v, w, after, heq, heq'⟩
  · rfl
  · rw [get?_eq_lookup, get?_eq_lookup, heq, heq', List.lookup_append, List.lookup_append,
      lookup_neighbours hab]

theorem Reordered.change_eq (h : table.Reordered a b p table') (name : Text) (value : Value) :
    table.change name value = table'.change name value := by
  unfold change
  rw [h.get?_eq hab]

/-- The same assignment keeps the order of all entries. -/
theorem Reordered.assign (h : table.Reordered a b p table') (name : Text) (value : Value) :
    (table.assign name value).Reordered a b p (table'.assign name value) := by
  rcases h with rfl | ⟨hp, before, v, w, after, heq, heq'⟩
  · exact .inl rfl
  · rw [eq_ofEntries table, eq_ofEntries table', heq, heq']
    clear heq heq'
    induction before with
    | nil =>
      simp only [List.nil_append, assign_cons]
      -- the name is that of one of the two neighbours, or of neither
      by_cases ha : a = name
      · have hb : ¬ b = name := fun hb => hab (ha.trans hb.symm)
        rw [if_pos ha, if_neg hb, if_pos ha]
        subst ha
        exact .inr ⟨hp, [], value, w, after, rfl, rfl⟩
      · by_cases hb : b = name
        · rw [if_neg ha, if_pos hb, if_pos hb]
          subst hb
          exact .inr ⟨hp, [], v, value, after, rfl, rfl⟩
        · rw [if_neg ha, if_neg hb, if_neg hb, if_neg ha]
          exact .inr ⟨hp, [], v, w, _, rfl, rfl⟩
    | cons entry before ih =>
      obtain ⟨name', value'⟩ := entry
      simp only [List.cons_append, assign_cons]
      split
      · exact .inr ⟨hp, (name, value) :: before, v, w, after, rfl, rfl⟩
      · exact ih.cons (name', value')

/-- Two assignments can be made in either order; the tables differ when both names are new. -/
theorem reordered_assign_assign (table : VariableTable) (v w : Value) :
    ((table.assign a v).assign b w).Reordered a b (table.get? a = none ∧ table.get? b = none)
      ((table.assign b w).assign a v) := by
  have hba : ¬ b = a := fun hba => hab hba.symm
  rw [eq_ofEntries table]
  induction table.entries with
  | nil =>
    have hempty : ∀ name value, (ofEntries []).assign name value = ofEntries [(name, value)] :=
      fun _ _ => rfl
    rw [hempty, hempty, assign_cons, assign_cons, if_neg hab, if_neg hba, hempty, hempty]
    exact .inr ⟨⟨rfl, rfl⟩, [], v, w, [], rfl, rfl⟩
  | cons entry rest ih =>
    obtain ⟨name, value⟩ := entry
    by_cases ha : name = a
    · subst ha
      rw [assign_cons, if_pos rfl, assign_cons, if_neg hab, assign_cons, if_neg hab,
        assign_cons, if_pos rfl]
      exact .inl rfl
    · by_cases hb : name = b
      · subst hb
        rw [assign_cons, if_neg ha, assign_cons, if_pos rfl, assign_cons, if_pos rfl,
          assign_cons, if_neg ha]
        exact .inl rfl
      · -- neither name is in front, so that all happens in the rest
        have hget : ∀ other, ¬ name = other →
            (ofEntries ((name, value) :: rest)).get? other = (ofEntries rest).get? other := by
          intro other hother
          have hne : (other == name) = false := beq_eq_false_iff_ne.mpr fun heq => hother heq.symm
          rw [get?_eq_lookup, get?_eq_lookup, entries_ofEntries, List.lookup_cons, hne,
            entries_ofEntries]
        rw [assign_cons, if_neg ha, assign_cons, if_neg hb, assign_cons, if_neg hb,
          assign_cons, if_neg ha, hget a ha, hget b hb, ← eq_ofEntries, ← eq_ofEntries]
        exact ih.cons (name, value)

/-- Many assignments keep the order, and change the same. -/
theorem Reordered.assignAll (writes : List (Text × Value)) (h : table.Reordered a b p table')
    (changes : Changes) :
    (assignAll table changes writes).1.Reordered a b p (assignAll table' changes writes).1 ∧
      (Stepwise.assignAll table changes writes).2 =
        (Stepwise.assignAll table' changes writes).2 := by
  induction writes generalizing table table' changes with
  | nil => exact ⟨h, rfl⟩
  | cons write rest ih =>
    obtain ⟨name, value⟩ := write
    simp only [Stepwise.assignAll, h.change_eq hab]
    exact ih (h.assign hab name value) _

end distinct
end VariableTable

/-! ### States -/

/-- How two runs may differ. -/
structure Exchange where
  /-- The names of two variables. -/
  first : Text
  second : Text
  distinct : first ≠ second
  /-- Whether the two may stand in the other order. -/
  reorders : Prop
  /-- The details of the first entries in the log of one run, and in that of the other. -/
  details : List Text
  details' : List Text

/-- The states differ at most by the exchange, and in the times of their logs. -/
structure RunState.SameBut (x : Exchange) (state state' : RunState) : Prop where
  bindings : state.bindings.Reordered x.first x.second x.reorders state'.bindings
  stack : state.stack = state'.stack
  output : state.output = state'.output
  log : ∃ later, state.log.map Entry.details = x.details ++ later ∧
    state'.log.map Entry.details = x.details' ++ later

/-- The effects differ at most by the exchange. -/
structure Effect.SameBut (x : Exchange) (effect effect' : Effect) : Prop where
  state : effect.state.SameBut x effect'.state
  details : effect.details = effect'.details
  changes : effect.changes = effect'.changes

/-- The steps differ at most by the exchange: they have the same faults, and have changed the
    same. -/
structure Step.SameBut (x : Exchange) (s s' : Step) : Prop where
  state : s.state.SameBut x s'.state
  fault : s.snapshot.fault = s'.snapshot.fault
  flags : ∃ changes, s.snapshot.bindings = s.state.bindings.view s.state.stack.scope changes ∧
    s'.snapshot.bindings = s'.state.bindings.view s'.state.stack.scope changes

variable {x : Exchange} {state state' : RunState}

/-- In such states an expression has the same value or fault. -/
theorem RunState.SameBut.evaluate_eq (h : state.SameBut x state') :
    Expression.evaluate state.bindings = Expression.evaluate state'.bindings := by
  funext line text
  exact Expression.evaluate_congr (fun name _ => h.bindings.get?_eq x.distinct name) line

/-- One statement fails in both states, or does the same to both. -/
theorem execute_sameBut (h : state.SameBut x state') (table : DeclarationTable) (line : Nat)
    (statement : Statement) :
    (∃ fault, execute table state line statement = .error fault ∧
      execute table state' line statement = .error fault) ∨
    ∃ effect effect', execute table state line statement = .ok effect ∧
      execute table state' line statement = .ok effect' ∧ effect.SameBut x effect' := by
  have hevaluate := h.evaluate_eq
  cases statement with
  | assignment name right =>
    simp only [execute, hevaluate, h.bindings.change_eq x.distinct]
    cases Expression.evaluate state'.bindings line right with
    | error fault => exact .inl ⟨fault, rfl, rfl⟩
    | ok value =>
      exact .inr ⟨_, _, rfl, rfl,
        ⟨h.bindings.assign x.distinct name value, h.stack, h.output, h.log⟩, rfl, rfl⟩
  | output right =>
    simp only [execute, hevaluate]
    cases Expression.evaluate state'.bindings line right with
    | error fault => exact .inl ⟨fault, rfl, rfl⟩
    | ok value =>
      exact .inr ⟨_, _, rfl, rfl,
        ⟨h.bindings, h.stack, congrArg (· ++ [value.display]) h.output, h.log⟩, rfl, rfl⟩
  | call name arguments =>
    simp only [execute, executeCall, hevaluate]
    cases arguments.mapM (Expression.evaluate state'.bindings line) with
    | error fault => exact .inl ⟨fault, rfl, rfl⟩
    | ok values =>
      let bound := bindArguments ((Statement.call name arguments).targets table) values
      obtain ⟨hbindings, hchanges⟩ := h.bindings.assignAll x.distinct bound .none
      refine .inr ⟨_, _, rfl, rfl, ⟨hbindings, ?_, h.output, h.log⟩, rfl, hchanges⟩
      -- the flags of the parameters come from the changes, which are the same
      rw [h.stack]
      exact congrArg (fun changes => state'.stack ++ [(⟨name, line,
        bound.map fun pair => .ofChanges pair.1 pair.2 name changes, none⟩ : Frame)]) hchanges
  | condition right =>
    simp only [execute, hevaluate]
    cases Expression.evaluate state'.bindings line right with
    | error fault => exact .inl ⟨fault, rfl, rfl⟩
    | ok value => exact .inr ⟨_, _, rfl, rfl, h, rfl, rfl⟩
  | loop clause => exact .inr ⟨_, _, rfl, rfl, h, rfl, rfl⟩
  | expression text => exact .inr ⟨_, _, rfl, rfl, h, rfl, rfl⟩

theorem execute_ok_sameBut (h : state.SameBut x state') {table : DeclarationTable} {line : Nat}
    {statement : Statement} {effect : Effect}
    (hexec : execute table state line statement = .ok effect) :
    ∃ effect', execute table state' line statement = .ok effect' ∧ effect.SameBut x effect' := by
  rcases execute_sameBut h table line statement with ⟨fault, hfault, _⟩ |
    ⟨_, effect', hok, hok', hsame⟩
  · rw [hexec] at hfault
    cases hfault
  · rw [hexec] at hok
    cases hok
    exact ⟨effect', hok', hsame⟩

theorem execute_error_sameBut (h : state.SameBut x state') {table : DeclarationTable} {line : Nat}
    {statement : Statement} {fault : Fault}
    (hexec : execute table state line statement = .error fault) :
    execute table state' line statement = .error fault := by
  rcases execute_sameBut h table line statement with ⟨fault', hfault, hfault'⟩ | ⟨_, _, hok, _⟩
  · rw [hexec] at hfault
    cases hfault
    exact hfault'
  · rw [hexec] at hok
    cases hok

/-! ### Runs -/

namespace Runner

/-- A step that does not fail adds the same to both logs. -/
theorem succeed_sameBut {effect effect' : Effect} (h : effect.SameBut x effect') (r : Runner)
    (clock : Nat → Instant) (n line : Nat) (isLast : Bool) :
    (r.succeed n line isLast effect).SameBut x
      ((r.withClock clock).succeed n line isLast effect') := by
  obtain ⟨later, hlog, hlog'⟩ := h.state.log
  refine ⟨⟨h.state.bindings, h.state.stack, h.state.output, later ++ [effect.details], ?_, ?_⟩, ?_,
    effect.changes, rfl, ?_⟩
  · rw [succeed_state]
    simp [RunState.withLog, entry, hlog]
  · rw [succeed_state]
    simp [RunState.withLog, entry, hlog', h.details]
  · rw [succeed_fault, succeed_fault]
    rfl
  · rw [h.changes]
    rfl

theorem fail_sameBut (h : state.SameBut x state') (n line : Nat) (fault : Fault) :
    (fail state n line fault).SameBut x (fail state' n line fault) := ⟨h, rfl, .none, rfl, rfl⟩

variable {r : Runner} {n : Nat} {lines : List (Nat × Statement)} {steps : List Step}

/-- From states that differ at most by an exchange, runs of the same lines take as many steps, which
    differ at most by the exchange. -/
theorem Run.sameBut (hrun : r.Run n lines state steps) (h : state.SameBut x state')
    (clock : Nat → Instant) :
    ∃ steps', (r.withClock clock).Run n lines state' steps' ∧
      List.Forall₂ (Step.SameBut x) steps steps' := by
  induction hrun generalizing state' with
  | nothing => exact ⟨[], .nothing, .nil⟩
  | @failed n line statement rest state fault hexec =>
    exact ⟨_, .failed (execute_error_sameBut h hexec), .cons (fail_sameBut h n line fault) .nil⟩
  | @ended n line statement state effect hexec =>
    obtain ⟨effect', hexec', hsame⟩ := execute_ok_sameBut h hexec
    exact ⟨_, .ended hexec', .cons (succeed_sameBut hsame r clock n line true) .nil⟩
  | @cut n line statement rest state effect hexec hrest hn =>
    obtain ⟨effect', hexec', hsame⟩ := execute_ok_sameBut h hexec
    exact ⟨_, .cut hexec' hrest hn, .cons (succeed_sameBut hsame r clock n line false) .nil⟩
  | @next n line statement rest state effect later hexec hrest hn hlater ih =>
    obtain ⟨effect', hexec', hsame⟩ := execute_ok_sameBut h hexec
    have hstep := succeed_sameBut hsame r clock n line false
    obtain ⟨later', hlater', hsteps⟩ := ih hstep.state
    exact ⟨_, .next hexec' hrest hn hlater', .cons hstep hsteps⟩

/-- When a run gets past its first lines, then so does one with other lines after them; `s₀` is the
    snapshot before the first step, and `s` the one after the first lines. -/
theorem Run.sameBut_append {rest : List (Nat × Statement)} (s₀ : Snapshot)
    (hrun : r.Run n (lines ++ rest) state steps) (hd : state.bindings.Distinct)
    (h₀ : RunState.ofSnapshot s₀ = state) (h : state.SameBut x state') (clock : Nat → Instant)
    (hlen : lines.length < steps.length) :
    ∃ s steps' state'', (s₀ :: steps.map Step.snapshot)[lines.length]? = some s ∧
      steps'.length = lines.length ∧ (RunState.ofSnapshot s).SameBut x state'' ∧
      ∀ rest' later, rest' ≠ [] → (r.withClock clock).Run (n + lines.length) rest' state'' later →
        (r.withClock clock).Run n (lines ++ rest') state' (steps' ++ later) := by
  induction lines generalizing n state state' steps s₀ with
  | nil =>
    refine ⟨s₀, [], state', rfl, rfl, ?_, fun _ _ _ hlater => hlater⟩
    rw [h₀]
    exact h
  | cons pair lines ih =>
    rw [List.length_cons] at hlen
    generalize hall : pair :: lines ++ rest = all at hrun
    cases hrun with
    | nothing => cases hall
    | failed _ => simp at hlen
    | ended _ => simp at hlen
    | cut _ _ _ => simp at hlen
    | @next _ line statement _ _ effect later hexec _ hn hlater =>
      obtain ⟨rfl, rfl⟩ := List.cons.inj hall
      obtain ⟨effect', hexec', hsame⟩ := execute_ok_sameBut h hexec
      have hstep := succeed_sameBut hsame r clock n line false
      have hd' : (r.succeed n line false effect).state.bindings.Distinct :=
        distinct_execute hexec hd
      have hshows := (succeed_shows r n line false effect).ofSnapshot_eq hd'
      obtain ⟨s, steps', state'', hs, hlength, hstate, hgo⟩ :=
        ih _ hlater hd' hshows hstep.state (by simpa using hlen)
      refine ⟨s, (r.withClock clock).succeed n line false effect' :: steps', state'', hs,
        ?_, hstate, ?_⟩
      · rw [List.length_cons, hlength, List.length_cons]
      · intro rest' later' hrest' hlater'
        rw [List.length_cons, ← Nat.add_assoc, Nat.add_right_comm] at hlater'
        exact .next hexec' (by simp [hrest']) hn (hgo rest' later' hrest' hlater')

end Runner
end Stepwise
