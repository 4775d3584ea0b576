import Stepwise.Proofs.Interchange
import Stepwise.Proofs.Reordering
import Stepwise.Proofs.StructuralLines
import Stepwise.Proofs.Calls
import Stepwise.Proofs.Accumulation

/-!
# Independent assignments commute

Two assignments on neighbouring lines can be exchanged when neither expression mentions the name
that the other line assigns. The lines declare nothing, so that nothing else of the script changes
its meaning:

- `executable_neighbours`, `sameOutline_of_plain`: the lines that run and the declarations of both
  scripts,
- `execute_exchange`: the two statements, in either order, from the same state,
- `Run.exchange`: a run that begins with the two lines,
- `independent_assignments_commute`: whole scripts.
-/

namespace Stepwise

/-! ### Two statements -/

/-- What an assignment does when its expression has a value. -/
theorem execute_assignment {table : DeclarationTable} {state : RunState} {line : Nat}
    {name right : Text} {value : Value}
    (h : Expression.evaluate state.bindings line right = .ok value) :
    execute table state line (.assignment name right) = .ok {
      state := { state with bindings := state.bindings.assign name value }
      action := .assignment
      details := name ++ " = ".toList ++ value.literal
      changes := Changes.none.record name (state.bindings.change name value)
      printed := none } := by
  simp only [execute, h]
  rfl

/-- An assignment to a name that the expression does not mention does not change its value. -/
theorem evaluate_assign {bindings : VariableTable} {name right : Text} (h : ¬ name <:+: right)
    (value : Value) (line : Nat) :
    Expression.evaluate (bindings.assign name value) line right =
      Expression.evaluate bindings line right := by
  refine Expression.evaluate_congr ?_ line
  intro other hother
  rw [VariableTable.get?_assign, if_neg]
  rintro rfl
  exact h hother

/-- The runs do not differ but for the times in their logs. -/
def Exchange.nothing {a b : Text} (hab : a ≠ b) : Exchange := ⟨a, b, hab, False, [], []⟩

/-- In the second run the two assignments, with details `d₁` and `d₂`, were made in the other order,
    in a state that the first run had as `state`. -/
def Exchange.ofState {a b : Text} (hab : a ≠ b) (state : RunState) (d₁ d₂ : Text) : Exchange where
  first := a
  second := b
  distinct := hab
  reorders := state.bindings.get? a = none ∧ state.bindings.get? b = none
  details := state.log.map Entry.details ++ [d₁, d₂]
  details' := state.log.map Entry.details ++ [d₂, d₁]

section exchange
variable {a b right₁ right₂ : Text} (hab : a ≠ b) (ha : ¬ a <:+: right₂) (hb : ¬ b <:+: right₁)
  {r : Runner} {n line₁ line₂ : Nat} {state state' : RunState} (clock : Nat → Instant)
include ha hb

/-- The two statements, in the other order. -/
theorem execute_exchange {effect₁ effect₂ : Effect} (h : state.SameBut (.nothing hab) state')
    (hexec₁ : execute r.table state line₁ (.assignment a right₁) = .ok effect₁)
    (hexec₂ : execute r.table (r.succeed n line₁ false effect₁).state line₂ (.assignment b right₂) =
      .ok effect₂) :
    ∃ effect₁' effect₂', execute r.table state' line₁ (.assignment b right₂) = .ok effect₁' ∧
      execute r.table ((r.withClock clock).succeed n line₁ false effect₁').state line₂
        (.assignment a right₁) =
        .ok effect₂' ∧
      ∀ isLast, ((r.succeed (n + 1) line₂ isLast effect₂).state).SameBut
        (.ofState hab state effect₁.details effect₂.details)
        ((r.withClock clock).succeed (n + 1) line₂ isLast effect₂').state := by
  obtain ⟨v, hv, h₁⟩ := bind_ok hexec₁
  cases h₁
  obtain ⟨w, hw, h₂⟩ := bind_ok hexec₂
  cases h₂
  have hbindings : state.bindings = state'.bindings := h.bindings.resolve_right fun hp => hp.1
  have hlog : state'.log.map Entry.details = state.log.map Entry.details := by
    obtain ⟨later, hlog, hlog'⟩ := h.log
    exact hlog'.trans hlog.symm
  -- neither value depends on the other assignment
  have hw' : Expression.evaluate state'.bindings line₁ right₂ = .ok w := by
    rw [← hbindings]
    exact Expression.evaluate_line ((evaluate_assign ha v line₂).symm.trans hw) line₁
  have hv' : Expression.evaluate (state'.bindings.assign b w) line₂ right₁ = .ok v := by
    rw [evaluate_assign hb, ← hbindings]
    exact Expression.evaluate_line hv line₂
  refine ⟨_, _, execute_assignment hw', execute_assignment hv', ?_⟩
  intro isLast
  refine ⟨?_, h.stack, h.output, [], ?_, ?_⟩
  · show ((state.bindings.assign a v).assign b w).Reordered a b _
        ((state'.bindings.assign b w).assign a v)
    rw [← hbindings]
    exact VariableTable.reordered_assign_assign hab state.bindings v w
  · rw [Runner.succeed_state, Runner.succeed_state]
    simp [RunState.withLog, Runner.entry, Exchange.ofState]
  · rw [Runner.succeed_state, Runner.succeed_state]
    simp [RunState.withLog, Runner.entry, Exchange.ofState, hlog]

/-- A run whose first two lines are the assignments, and that gets past them without a fault, goes
    on in the same way when the lines are exchanged. -/
theorem Runner.Run.exchange {rest : List (Nat × Statement)} {s₁ s₂ : Step} {later : List Step}
    (hrun : r.Run n ((line₁, .assignment a right₁) :: (line₂, .assignment b right₂) :: rest) state
      (s₁ :: s₂ :: later))
    (hfault : s₂.snapshot.fault = none) (h : state.SameBut (.nothing hab) state') :
    ∃ d₁ d₂ s₁' s₂' later', (r.withClock clock).Run n
        ((line₁, .assignment b right₂) :: (line₂, .assignment a right₁) :: rest) state'
          (s₁' :: s₂' :: later') ∧
      s₂.state.SameBut (.ofState hab state d₁ d₂) s₂'.state ∧ s₂'.snapshot.fault = none ∧
      List.Forall₂ (Step.SameBut (.ofState hab state d₁ d₂)) later later' := by
  cases hrun with
  | next hexec₁ hrest hn hlater =>
    cases hlater with
    | failed _ => cases hfault
    | ended hexec₂ =>
      -- no line is left
      obtain ⟨effect₁', effect₂', hexec₁', hexec₂', hsame⟩ :=
        execute_exchange hab ha hb clock h hexec₁ hexec₂
      exact ⟨_, _, _, _, [], .next hexec₁' (List.cons_ne_nil _ _) hn (.ended hexec₂'), hsame true,
        by simp [succeed_fault], .nil⟩
    | cut _ _ hn' =>
      -- a run that is cut has a fault
      rw [succeed_fault, if_pos ⟨hn', rfl⟩] at hfault
      cases hfault
    | next hexec₂ hrest' hn' hlater' =>
      obtain ⟨effect₁', effect₂', hexec₁', hexec₂', hsame⟩ :=
        execute_exchange hab ha hb clock h hexec₁ hexec₂
      obtain ⟨later', hrun', hsteps⟩ := hlater'.sameBut (hsame false) clock
      have hlt : ¬ r.budget ≤ n + 1 := Nat.not_le.mpr hn'
      exact ⟨_, _, _, _, later',
        .next hexec₁' (List.cons_ne_nil _ _) hn (.next hexec₂' hrest' hn' hrun'),
        hsame false, by simp [succeed_fault, withClock, hlt], hsteps⟩

end exchange

/-! ### Two lines -/

/-- Lines without braces that are no headers have no part in declarations. -/
theorem Text.sameOutline_of_plain {line line' : Text} (hbraces : '{' ∉ line ∧ '}' ∉ line)
    (hbraces' : '{' ∉ line' ∧ '}' ∉ line') (hheader : Header.ofLine? line = none)
    (hheader' : Header.ofLine? line' = none) : line.SameOutline line' := by
  have hbalance : ∀ line : Text, '{' ∉ line ∧ '}' ∉ line → line.braceBalance = 0 := by
    intro line hline
    rw [braceBalance_eq, braceBalanceFrom_eq_zero]
    rw [List.all_eq_true]
    intro c hc
    have hopening : c ≠ '{' := fun heq => hline.1 (heq ▸ hc)
    have hclosing : c ≠ '}' := fun heq => hline.2 (heq ▸ hc)
    rw [beq_iff_eq, braceWeight, if_neg hopening, if_neg hclosing]
  have hne : ∀ (line : Text) (c : Char), c ∉ line → line ≠ [c] := by
    rintro line c hc rfl
    exact hc List.mem_cons_self
  refine ⟨?_, hheader.trans hheader'.symm, ?_, ?_⟩
  · rw [hbalance line hbraces, hbalance line' hbraces']
  · exact iff_of_false (hne line '{' hbraces.1) (hne line' '{' hbraces'.1)
  · exact iff_of_false (hne line '}' hbraces.2) (hne line' '}' hbraces'.2)

/-- A line that has a statement is no header. -/
theorem Listing.ofLine?_of_classify? {listing : Listing} {table : DeclarationTable}
    (hbuild : DeclarationTable.ofListing listing = .ok table) {number : Nat} {line : Text}
    {statement : Statement} (hline : listing.get? number = some line)
    (h : Statement.classify? table number line = some statement) :
    Header.ofLine? line = none := by
  cases hheader : Header.ofLine? line with
  | none => rfl
  | some header =>
    have hstructural : listing.IsStructural number :=
      .inr (.inl ⟨header, (headerAt?_of_get? hline).trans hheader⟩)
    rw [(classify?_eq_none_iff hbuild hline).mpr hstructural] at h
    cases h

/-- A statement can move to another line that is not structural. -/
theorem Statement.classify?_move {table : DeclarationTable} {number number' : Nat}
    {line line' : Text} {statement statement' : Statement}
    (h : classify? table number line = some statement)
    (h' : classify? table number' line' = some statement') :
    classify? table number' line = some statement := by
  unfold classify? DeclarationTable.isStructural at h h' ⊢
  split at h
  · cases h
  · rename_i hnot
    split at h'
    · cases h'
    · rename_i hnot'
      simp only [Bool.or_eq_true, not_or] at hnot hnot'
      rw [if_neg (by simp only [Bool.or_eq_true, not_or]; exact ⟨hnot.1, hnot'.2⟩)]
      exact h

namespace Runner

/-- The lines that run of a script, around two that do. -/
theorem executable_neighbours (table : DeclarationTable) (before after : List Text) :
    ∃ rest, ∀ line₁ line₂ statement₁ statement₂,
      Statement.classify? table (before.length + 1) line₁ = some statement₁ →
      Statement.classify? table (before.length + 2) line₂ = some statement₂ →
      executable table ⟨before ++ line₁ :: line₂ :: after⟩ = executable table ⟨before⟩ ++
        (before.length + 1, statement₁) :: (before.length + 2, statement₂) :: rest := by
  refine ⟨(after.zipIdx (before.length + 3)).filterMap fun pair =>
    (Statement.classify? table pair.2 pair.1).map fun statement => (pair.2, statement), ?_⟩
  intro line₁ line₂ statement₁ statement₂ h₁ h₂
  have hone : 1 + before.length = before.length + 1 := Nat.add_comm 1 before.length
  unfold executable Listing.numbered
  rw [List.zipIdx_append, List.filterMap_append, List.zipIdx_cons, List.zipIdx_cons, hone]
  simp only [List.filterMap_cons, h₁, h₂, Option.map_some]

/-- The lines that run are listed by number. -/
theorem executable_sorted (table : DeclarationTable) (listing : Listing) :
    (executable table listing).Pairwise fun p q => p.1 < q.1 := by
  rw [executable_eq, List.pairwise_map]
  exact Listing.nonStructural_sorted listing table

end Runner

/-! ### Whole scripts -/

/-- What snapshots of two scripts have in common when the scripts differ in the order of the
    assignments to `a` and `b` at steps `k + 1` and `k + 2`; `start` is the snapshot before these
    steps. -/
structure Snapshot.Exchanged (s : Snapshot) (k : Nat) (a b : Text) (start s' : Snapshot) :
    Prop where
  output : s'.output = s.output
  fault : s'.fault = s.fault
  callStack : s'.callStack = s.callStack
  /-- The details of the two entries stand in the other order. -/
  details : ∃ earlier d₁ d₂ later, earlier.length = k ∧
    s.log.map Entry.details = earlier ++ d₁ :: d₂ :: later ∧
    s'.log.map Entry.details = earlier ++ d₂ :: d₁ :: later
  values : ∀ name, s'.value? name = s.value? name
  /-- The variables are in the same order, but for two that were created one after the other. -/
  names : s'.bindings.map Variable.name = s.bindings.map Variable.name ∨
    (start.value? a = none ∧ start.value? b = none) ∧ ∃ before after,
      s.bindings.map Variable.name = before ++ a :: b :: after ∧
      s'.bindings.map Variable.name = before ++ b :: a :: after

/-- Snapshots of states that differ at most by an exchange. -/
theorem Snapshot.exchanged_of_sameBut {k : Nat} {a b d₁ d₂ : Text} {hab : a ≠ b}
    {start s s' : Snapshot} {state₀ state state' : RunState} (hstart : start.Shows state₀)
    (hs : s.Shows state) (hs' : s'.Shows state') (hlength : start.log.length = k)
    (h : state.SameBut (.ofState hab state₀ d₁ d₂) state') (hfault : s.fault = s'.fault) :
    s.Exchanged k a b start s' where
  output := by rw [hs.output, hs'.output, h.output]
  fault := hfault.symm
  callStack := by rw [hs.callStack, hs'.callStack, h.stack]
  details := by
    obtain ⟨later, hlog, hlog'⟩ := h.log
    refine ⟨state₀.log.map Entry.details, d₁, d₂, later, ?_, ?_, ?_⟩
    · rw [List.length_map, ← hstart.log, hlength]
    · rw [hs.log, hlog]
      simp [Exchange.ofState]
    · rw [hs'.log, hlog']
      simp [Exchange.ofState]
  values name := by rw [hs.value?_eq, hs'.value?_eq, h.bindings.get?_eq hab]
  names := by
    rw [hs.names, hs'.names, hstart.value?_eq, hstart.value?_eq]
    rcases h.bindings.names with heq | hexchanged
    · exact .inl heq.symm
    · exact .inr hexchanged

/-- The same changes to tables with the same values give the same flags. -/
theorem Step.SameBut.lookup?_eq {x : Exchange} {s s' : Step} (h : s.SameBut x s') (name : Text) :
    s'.snapshot.lookup? name = s.snapshot.lookup? name := by
  obtain ⟨changes, hbindings, hbindings'⟩ := h.flags
  rw [Snapshot.lookup?_eq hbindings, Snapshot.lookup?_eq hbindings', h.state.stack,
    h.state.bindings.get?_eq x.distinct]

namespace Recording

section scripts
variable {settings : Settings} {clock clock' : Nat → Instant} {source source' : Text}
  {table : DeclarationTable}
  {before after : List Text} {line₁ line₂ a b right₁ right₂ : Text} {k : Nat}
  (hbuild : DeclarationTable.ofListing (.ofText source) = .ok table)
  (hlines : Listing.ofText source = ⟨before ++ line₁ :: line₂ :: after⟩)
  (h₁ : Statement.classify? table (before.length + 1) line₁ = some (.assignment a right₁))
  (h₂ : Statement.classify? table (before.length + 2) line₂ = some (.assignment b right₂))
include hbuild hlines h₁ h₂

/-- The declarations of the scripts are the same, bodies aside. -/
theorem ofListing_exchange (hbraces₁ : '{' ∉ line₁ ∧ '}' ∉ line₁)
    (hbraces₂ : '{' ∉ line₂ ∧ '}' ∉ line₂)
    (hlines' : Listing.ofText source' = ⟨before ++ line₂ :: line₁ :: after⟩) :
    ∃ table', DeclarationTable.ofListing (.ofText source') = .ok table' ∧
      table.outline = table'.outline := by
  have hget₁ : (Listing.ofText source).get? (before.length + 1) = some line₁ := by
    rw [hlines]
    show (before ++ line₁ :: line₂ :: after)[before.length]? = some line₁
    simp
  have hget₂ : (Listing.ofText source).get? (before.length + 2) = some line₂ := by
    rw [hlines]
    show (before ++ line₁ :: line₂ :: after)[before.length + 1]? = some line₂
    simp
  have hheader₁ := Listing.ofLine?_of_classify? hbuild hget₁ h₁
  have hheader₂ := Listing.ofLine?_of_classify? hbuild hget₂ h₂
  have hrefl : ∀ lines, List.Forall₂ Text.SameOutline lines lines := fun lines =>
    List.forall₂_same.mpr fun line _ => .refl line
  have houtlines : List.Forall₂ Text.SameOutline (before ++ line₁ :: line₂ :: after)
      (before ++ line₂ :: line₁ :: after) :=
    List.rel_append (hrefl before)
      (.cons (Text.sameOutline_of_plain hbraces₁ hbraces₂ hheader₁ hheader₂)
      (.cons (Text.sameOutline_of_plain hbraces₂ hbraces₁ hheader₂ hheader₁) (hrefl after)))
  have htables := DeclarationTable.ofListing_of_sameOutline houtlines
  rw [← hlines, ← hlines', hbuild] at htables
  rcases map_eq_map_cases htables with ⟨fault, hfault, _⟩ |
    ⟨table₁, table', htable₁, hbuild', houtline⟩
  · cases hfault
  · cases htable₁
    exact ⟨table', hbuild', houtline⟩

/-- The step of the first of the two lines tells how many lines ran before. -/
theorem length_executable_before (hk : k < (historyOf settings clock source).totalSteps)
    (hline : ((historyOf settings clock source).get (k + 1 : Nat)).line = before.length + 1) :
    (Runner.executable table ⟨before⟩).length = k := by
  obtain ⟨s, number, statement, _, hat, rfl, hget⟩ := step_at hbuild hk
  rw [hget, (Runner.step_snapshot _ _ _ _ _ _).2.1] at hline
  subst hline
  obtain ⟨rest, hexecutable⟩ := Runner.executable_neighbours table before after
  have hall := hexecutable line₁ line₂ _ _ h₁ h₂
  rw [← hlines] at hall
  have hbefore :
      (Runner.executable table (.ofText source))[(Runner.executable table ⟨before⟩).length]? =
      some (before.length + 1, .assignment a right₁) := by
    rw [hall]
    simp
  -- no two of the lines that run have the same number
  obtain ⟨hlt, hget⟩ := List.getElem?_eq_some_iff.mp hat
  obtain ⟨hlt', hget'⟩ := List.getElem?_eq_some_iff.mp hbefore
  have hsorted := List.pairwise_iff_getElem.mp (Runner.executable_sorted table (.ofText source))
  rcases Nat.lt_trichotomy (Runner.executable table ⟨before⟩).length k with hless | heq | hgreater
  · have hnumbers := hsorted _ _ hlt' hlt hless
    rw [hget, hget'] at hnumbers
    exact absurd hnumbers (Nat.lt_irrefl _)
  · exact heq
  · have hnumbers := hsorted _ _ hlt hlt' hgreater
    rw [hget, hget'] at hnumbers
    exact absurd hnumbers (Nat.lt_irrefl _)

omit hlines h₁ h₂ in
/-- A run with other lines after the first ones gets past these as well, to a state like that of the
    first run. -/
theorem run_past (hab : a ≠ b) {lines rest : List (Nat × Statement)}
    (hall : Runner.executable table (.ofText source) = lines ++ rest)
    (hk : lines.length < (historyOf settings clock source).totalSteps) :
    ∃ steps' state', steps'.length = lines.length ∧
      (RunState.ofSnapshot ((historyOf settings clock source).get lines.length)).SameBut
        (.nothing hab) state' ∧
      ∀ rest' later, rest' ≠ [] →
        (runner settings clock' table).Run (lines.length + 1) rest' state' later →
        (runner settings clock' table).Run 1 (lines ++ rest') .start (steps' ++ later) := by
  have hrun : (runner settings clock table).Run 1 (Runner.executable table (.ofText source)) .start
    (stepsOf settings clock table source) := run_stepsOf
  have hstart : RunState.start.SameBut (.nothing hab) .start := ⟨.inl rfl, rfl, rfl, [], rfl, rfl⟩
  rw [hall] at hrun
  obtain ⟨s, steps', state', hs, hlength, hsame, hgo⟩ :=
    hrun.sameBut_append .initial RunState.distinct_start rfl
    hstart clock' (by rw [← totalSteps_eq_length hbuild]; exact hk)
  -- the snapshot after the first lines is the one in the history
  have hget := (historyOf settings clock source).getElem?_snapshots (Nat.le_of_lt hk)
  rw [← later_eq_map hbuild] at hs
  obtain rfl : s = _ := Option.some.inj (hs.symm.trans hget)
  refine ⟨steps', state', hlength, hsame, ?_⟩
  intro rest' later hrest' hlater
  rw [Nat.add_comm] at hlater
  exact hgo rest' later hrest' hlater

omit hlines h₁ h₂ in
/-- The first of the steps that are left makes the next snapshot. -/
theorem drop_stepsOf (hk : k < (historyOf settings clock source).totalSteps) :
    ∃ s later, (stepsOf settings clock table source).drop k = s :: later ∧
      (historyOf settings clock source).get (k + 1 : Nat) = s.snapshot := by
  obtain ⟨s, hs, hget⟩ := get_succ_snapshot hbuild hk
  obtain ⟨hlt, heq⟩ := List.getElem?_eq_some_iff.mp hs
  refine ⟨s, (stepsOf settings clock table source).drop (k + 1), ?_, hget⟩
  rw [List.drop_eq_getElem_cons hlt, heq]

/-- The runs of the scripts after the first of the two lines. -/
theorem stepsOf_exchange (hlines' : Listing.ofText source' = ⟨before ++ line₂ :: line₁ :: after⟩)
    (hab : a ≠ b) (ha : ¬ a <:+: right₂) (hb : ¬ b <:+: right₁)
    (hline : ((historyOf settings clock source).get (k + 1 : Nat)).line = before.length + 1)
    (hk : k + 2 ≤ (historyOf settings clock source).totalSteps)
    (hfault : ((historyOf settings clock source).get (k + 2 : Nat)).fault = none) :
    ∃ d₁ d₂ s s' later later', (stepsOf settings clock table source).drop (k + 1) = s :: later ∧
      (stepsOf settings clock' table source').drop (k + 1) = s' :: later' ∧
      s.state.SameBut (.ofState hab (.ofSnapshot ((historyOf settings clock source).get k)) d₁ d₂)
        s'.state ∧
      s.snapshot.fault = s'.snapshot.fault ∧
      List.Forall₂
        (Step.SameBut (.ofState hab (.ofSnapshot ((historyOf settings clock source).get k)) d₁ d₂))
        later later' := by
  have hk₁ : k < (historyOf settings clock source).totalSteps := by omega
  have hk₂ : k + 1 < (historyOf settings clock source).totalSteps := by omega
  have hbefore := length_executable_before hbuild hlines h₁ h₂ hk₁ hline
  obtain ⟨rest, hexecutable⟩ := Runner.executable_neighbours table before after
  have hall := hexecutable line₁ line₂ _ _ h₁ h₂
  have hall' :=
    hexecutable line₂ line₁ _ _ (Statement.classify?_move h₂ h₁) (Statement.classify?_move h₁ h₂)
  rw [← hlines] at hall
  rw [← hlines'] at hall'
  -- both runs get past the lines before the two
  obtain ⟨steps', state', hsteps', hsame, hgo⟩ :=
    run_past hbuild hab hall (by rw [hbefore]; exact hk₁)
  rw [hbefore] at hsteps' hsame hgo
  -- the first run goes on with the two lines
  obtain ⟨s₁, onward, hdrop, _⟩ := drop_stepsOf hbuild hk₁
  obtain ⟨s₂, later, hdrop', hget₂⟩ := drop_stepsOf hbuild hk₂
  have honward : onward = s₂ :: later := by
    rw [← hdrop', ← List.drop_drop, hdrop]
    rfl
  have hrest := run_from hbuild hk₁
  rw [hdrop, honward, hall, ← hbefore, List.drop_left, hbefore] at hrest
  rw [hget₂] at hfault
  -- so that the second one does so in the other order
  obtain ⟨d₁, d₂, s₁', s₂', later', hrest', hstate, hfault', hlater⟩ :=
    hrest.exchange hab ha hb clock' hfault hsame
  have hsteps : stepsOf settings clock' table source' = steps' ++ s₁' :: s₂' :: later' := by
    rw [(hgo _ _ (List.cons_ne_nil _ _) hrest').eq_steps, ← hall']
    rfl
  refine ⟨d₁, d₂, s₂, s₂', later, later', hdrop', ?_, hstate, hfault.trans hfault'.symm, hlater⟩
  rw [hsteps, ← List.drop_drop, ← hsteps', List.drop_left]
  rfl

end scripts

/-- Two neighbouring assignments to different names, neither of which occurs in the expression of
    the other one, can be exchanged. Lines with braces aside, when both steps succeed within the
    budget, the run of the script with the lines exchanged is as long as that of the script. After
    the second of the two lines, the snapshots have the same output, the same faults, the same calls
    and the same values, and the log and the list of variables differ at most in the order of the
    two; after the next step the flags are the same as well. -/
theorem independent_assignments_commute (settings : Settings) (clock clock' : Nat → Instant)
    (source source' : Text) (table : DeclarationTable) (before after : List Text)
    (line₁ line₂ a b right₁ right₂ : Text)
    (hbuild : DeclarationTable.ofListing (.ofText source) = .ok table)
    (hlines : Listing.ofText source = ⟨before ++ line₁ :: line₂ :: after⟩)
    (hlines' : Listing.ofText source' = ⟨before ++ line₂ :: line₁ :: after⟩)
    (h₁ : Statement.classify? table (before.length + 1) line₁ = some (.assignment a right₁))
    (h₂ : Statement.classify? table (before.length + 2) line₂ = some (.assignment b right₂))
    (hbraces₁ : '{' ∉ line₁ ∧ '}' ∉ line₁) (hbraces₂ : '{' ∉ line₂ ∧ '}' ∉ line₂)
    (hab : a ≠ b) (ha : ¬ a <:+: right₂) (hb : ¬ b <:+: right₁) :
    let history := (ofSource settings clock source).history
    let history' := (ofSource settings clock' source').history
    ∀ k : Nat, (history.get (k + 1 : Nat)).line = before.length + 1 → k + 2 ≤ history.totalSteps →
      (history.get (k + 2 : Nat)).fault = none →
      history'.totalSteps = history.totalSteps ∧
      ∀ j : Nat, k + 2 ≤ j → j ≤ history.totalSteps →
        (history.get j).Exchanged k a b (history.get k) (history'.get j) ∧
        (k + 3 ≤ j → ∀ name, (history'.get j).lookup? name = (history.get j).lookup? name) := by
  intro history history' k hline hk hfault
  obtain ⟨table', hbuild', houtline⟩ :=
    ofListing_exchange hbuild hlines h₁ h₂ hbraces₁ hbraces₂ hlines'
  have houtline' := stepsOf_outline settings clock' houtline source'
  obtain ⟨d₁, d₂, s, s', later, later', hdrop, hdrop', hstate, hsame, hlater⟩ :=
    stepsOf_exchange hbuild hlines h₁ h₂ hlines' hab ha hb hline hk hfault
  rw [houtline'] at hdrop'
  have htotal : history.totalSteps = (stepsOf settings clock table source).length :=
    totalSteps_eq_length hbuild
  have htotal' : history'.totalSteps = (stepsOf settings clock' table' source').length :=
    totalSteps_eq_length hbuild'
  have hlength : history'.totalSteps = history.totalSteps := by
    have hleft := congrArg List.length hdrop
    have hleft' := congrArg List.length hdrop'
    rw [List.length_drop, List.length_cons] at hleft hleft'
    have hrest := hlater.length_eq
    omega
  refine ⟨hlength, ?_⟩
  intro j hj hjtotal
  obtain ⟨i, rfl⟩ : ∃ i, j = k + 1 + i + 1 := ⟨j - k - 2, by omega⟩
  obtain ⟨t, ht, hget⟩ := get_succ_snapshot hbuild (show k + 1 + i < history.totalSteps by omega)
  obtain ⟨t', ht', hget'⟩ :=
    get_succ_snapshot hbuild' (show k + 1 + i < history'.totalSteps by omega)
  have hshows := (run_stepsOf.shows RunState.distinct_start t (List.mem_of_getElem? ht)).1
  have hshows' := (run_stepsOf.shows RunState.distinct_start t' (List.mem_of_getElem? ht')).1
  have hk₀ : k ≤ history.totalSteps := by omega
  have hstart := (shows_get hbuild hk₀).1
  have hlog : (history.get k).log.length = k :=
    (logged_get hk₀ (succeeded_get (show k < history.totalSteps by omega))).length
  rw [← List.getElem?_drop, hdrop] at ht
  rw [← List.getElem?_drop, hdrop'] at ht'
  rw [hget, hget']
  cases i with
  | zero =>
    cases ht
    cases ht'
    refine ⟨Snapshot.exchanged_of_sameBut hstart hshows hshows' hlog hstate hsame, ?_⟩
    intro hnext
    omega
  | succ i =>
    -- from the next step on, the flags come from the same changes
    obtain ⟨hlt, rfl⟩ := List.getElem?_eq_some_iff.mp ht
    obtain ⟨hlt', rfl⟩ := List.getElem?_eq_some_iff.mp ht'
    have hstep := hlater.get (Nat.lt_of_succ_lt_succ hlt) (Nat.lt_of_succ_lt_succ hlt')
    exact ⟨Snapshot.exchanged_of_sameBut hstart hshows hshows' hlog hstep.state hstep.fault,
      fun _ => hstep.lookup?_eq⟩

/-- Two assignments in the body of a function, to names that are new, with a call and an output
    after them. -/
theorem independent_assignments_commute_in_body :
    let source : Text :=
      "c = true\nfunction f(x) \x7b\na = 'p'\nb = c\n\x7d\nf(b)\nconsole.log(a + x)"
    let source' : Text :=
      "c = true\nfunction f(x) \x7b\nb = c\na = 'p'\n\x7d\nf(b)\nconsole.log(a + x)"
    let history := (ofSource .default (fun _ => .epoch) source).history
    let history' := (ofSource .default (fun _ => .epoch) source').history
    history.last.bindings.map Variable.name = [['c'], ['a'], ['b'], ['x']] ∧
      history'.last.bindings.map Variable.name = [['c'], ['b'], ['a'], ['x']] ∧
      history'.totalSteps = history.totalSteps ∧
      ∀ j : Nat, 3 ≤ j → j ≤ history.totalSteps →
        (history.get j).Exchanged 1 ['a'] ['b'] (history.get 1) (history'.get j) ∧
        (4 ≤ j → ∀ name, (history'.get j).lookup? name = (history.get j).lookup? name) := by
  intro source source' history history'
  have hbuild : DeclarationTable.ofListing (.ofText source) =
      .ok ⟨[⟨['f'], [['x']], ["a = 'p'".toList, "b = c".toList], 2⟩], [2]⟩ := by decide +kernel
  have hcommute :=
    independent_assignments_commute .default (fun _ => .epoch) (fun _ => .epoch) source source' _
      ["c = true".toList, "function f(x) \x7b".toList]
      [['}'], "f(b)".toList, "console.log(a + x)".toList]
      "a = 'p'" "b = c" ['a'] ['b'] "'p'" ['c'] hbuild (by decide +kernel) (by decide +kernel)
      (by decide +kernel) (by decide +kernel) (by decide) (by decide) (by decide) (by decide)
      (by decide)
  obtain ⟨hnames, hnames', hline, htotal, hfault⟩ :
      history.last.bindings.map Variable.name = [['c'], ['a'], ['b'], ['x']] ∧
      history'.last.bindings.map Variable.name = [['c'], ['b'], ['a'], ['x']] ∧
      (history.get 2).line = 3 ∧ 3 ≤ history.totalSteps ∧ (history.get 3).fault = none := by
    decide +kernel
  exact ⟨hnames, hnames', hcommute 1 hline htotal hfault⟩

end Recording
end Stepwise
