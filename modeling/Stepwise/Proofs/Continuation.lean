import Stepwise.Proofs.Listing
import Stepwise.Proofs.Ending
import Stepwise.Proofs.Resumption

/-!
# Runs that go further

A run goes further when its budget is larger or when lines are added at the end of the script. Up to
the step with which the shorter run ends, both runs are the same; only there can they disagree, and
only about whether the run ends.

- `Run.prefix_reopened` compares the steps of the two runs, where the one may have both more lines
  and a larger budget than the other,
- `Run.withBudget` and `Run.append` tell when the longer run is not longer at all: a larger budget
  does not matter to a run that did not use up its own, nor do more lines to a run that ended with a
  fault,
- `History.ContinuedBy` says the same of histories.
-/

namespace Stepwise

/-! ### Snapshots in the middle of a run -/

/-- The snapshot as it is when the run goes on: not complete, and without a fault. -/
def Snapshot.reopened (s : Snapshot) : Snapshot := { s with isComplete := false, fault := none }

/-- A snapshot with which the run does not end is not changed. -/
theorem Snapshot.reopened_of_open {s : Snapshot} (h : s.isComplete = false ∧ s.fault = none) :
    s.reopened = s := by
  obtain ⟨hcomplete, hfault⟩ := h
  unfold Snapshot.reopened
  rw [← hcomplete, ← hfault]

namespace Runner

variable {r : Runner} {n : Nat} {lines : List (Nat × Statement)} {state : RunState}
  {steps : List Step}

/-! ### Steps -/

/-- The same runner with another budget. -/
def withBudget (r : Runner) (budget : Nat) : Runner := { r with budget }

/-- The first step of a run whose first line does not fail. -/
theorem steps_cons_of_ok {line : Nat} {statement : Statement} {effect : Effect}
    (h : execute r.table state line statement = .ok effect) (n : Nat)
    (rest : List (Nat × Statement)) :
    ∃ later, r.steps n ((line, statement) :: rest) state =
      r.succeed n line rest.isEmpty effect :: later := by
  simp only [Runner.steps, Runner.step, h]
  split
  · exact ⟨[], rfl⟩
  · exact ⟨_, rfl⟩

/-- The budget and what is left to run have no part in a step but for how it ends. -/
theorem succeed_reopened (r : Runner) (budget n line : Nat) (isLast isLast' : Bool)
    (effect : Effect) :
    ((r.withBudget budget).succeed n line isLast' effect).snapshot.reopened =
      (r.succeed n line isLast effect).snapshot.reopened := rfl

/-- A step that is the last one or leaves some of the budget does not depend on it. -/
theorem succeed_withBudget {budget : Nat} (hbudget : r.budget ≤ budget) {isLast : Bool}
    (h : isLast = true ∨ n < r.budget) (line : Nat) (effect : Effect) :
    (r.withBudget budget).succeed n line isLast effect = r.succeed n line isLast effect := by
  rcases h with rfl | hn
  · simp [succeed, withBudget]
  · have hleft : ¬ r.budget ≤ n := by omega
    have hleft' : ¬ budget ≤ n := by omega
    simp [succeed, withBudget, hleft, hleft']

/-! ### Runs -/

/-- With more lines and a larger budget a run takes the same steps and perhaps others after them.
    The last of the steps may end the one run and not the other. -/
theorem Run.prefix_reopened (h : r.Run n lines state steps) {budget : Nat}
    (hbudget : r.budget ≤ budget) (extra : List (Nat × Statement)) :
    steps.map (·.snapshot.reopened) <+:
      ((r.withBudget budget).steps n (lines ++ extra) state).map (·.snapshot.reopened) := by
  induction h with
  | nothing => exact List.nil_prefix
  | @failed n line statement rest state fault hexec =>
    -- the line fails in the longer run as well
    have hrun : (r.withBudget budget).Run n ((line, statement) :: (rest ++ extra)) state
        [fail state n line fault] := .failed hexec
    exact hrun.eq_steps ▸ List.prefix_refl _
  | @ended n line statement state effect hexec =>
    obtain ⟨later, heq⟩ := steps_cons_of_ok (r := r.withBudget budget) hexec n extra
    rw [List.singleton_append, heq]
    exact ⟨_, rfl⟩
  | @cut n line statement rest state effect hexec _ _ =>
    obtain ⟨later, heq⟩ := steps_cons_of_ok (r := r.withBudget budget) hexec n (rest ++ extra)
    rw [List.cons_append, heq]
    exact ⟨_, rfl⟩
  | @next n line statement rest state effect later hexec hrest hn _ ih =>
    have hrun : (r.withBudget budget).Run n ((line, statement) :: (rest ++ extra)) state
        ((r.withBudget budget).succeed n line false effect ::
          (r.withBudget budget).steps (n + 1) (rest ++ extra)
            (r.succeed n line false effect).state) :=
      .next hexec (List.append_ne_nil_of_left_ne_nil hrest extra) (Nat.lt_of_lt_of_le hn hbudget)
        (run_steps _ _ _ _)
    rw [List.cons_append, ← hrun.eq_steps, List.map_cons, List.map_cons,
      succeed_reopened r budget n line false false effect, List.cons_prefix_cons]
    exact ⟨rfl, ih⟩

/-- A run that did not use up its budget is the same under a larger one. -/
theorem Run.withBudget (h : r.Run n lines state steps) {budget : Nat} (hbudget : r.budget ≤ budget)
    (hlast : ∀ s, steps.getLast? = some s → s.snapshot.fault ≠ some (.budgetExceeded r.budget)) :
    (r.withBudget budget).Run n lines state steps := by
  induction h with
  | nothing => exact .nothing
  | failed hexec => exact .failed hexec
  | ended hexec =>
    rw [← succeed_withBudget hbudget (.inl rfl)]
    exact .ended hexec
  | @cut n line _ _ _ effect hexec hrest hn =>
    have hfault : (r.succeed n line false effect).snapshot.fault =
        some (.budgetExceeded r.budget) := by
      rw [succeed_fault, if_pos ⟨hn, rfl⟩]
    exact absurd hfault (hlast _ List.getLast?_singleton)
  | next hexec hrest hn hlater ih =>
    rw [List.getLast?_cons_of_ne_nil (hlater.ne_nil hrest)] at hlast
    rw [← succeed_withBudget hbudget (.inr hn)] at ih ⊢
    exact .next hexec hrest (Nat.lt_of_lt_of_le hn hbudget) (ih hlast)

/-- A run that ended with a fault takes no other steps when lines are added. -/
theorem Run.append (h : r.Run n lines state steps) {s : Step} (hs : steps.getLast? = some s)
    (hfault : s.snapshot.fault ≠ none) (extra : List (Nat × Statement)) :
    r.Run n (lines ++ extra) state steps := by
  induction h with
  | nothing => cases hs
  | failed hexec => exact .failed hexec
  | ended hexec =>
    obtain rfl : _ = s := by simpa using hs
    refine absurd ?_ hfault
    rw [succeed_fault]
    simp
  | cut hexec hrest hn => exact .cut hexec (List.append_ne_nil_of_left_ne_nil hrest extra) hn
  | next hexec hrest hn hlater ih =>
    rw [List.getLast?_cons_of_ne_nil (hlater.ne_nil hrest)] at hs
    exact .next hexec (List.append_ne_nil_of_left_ne_nil hrest extra) hn (ih hs)

end Runner

/-! ### Histories -/

namespace History

variable {h h' : History}

/-- Times aside, the second history has the snapshots of the first one. At the last of these the two
    may tell different things about the end of the run, and the second may have more steps. -/
structure ContinuedBy (h h' : History) : Prop where
  totalSteps_le : h.totalSteps ≤ h'.totalSteps
  before : ∀ k : Nat, k < h.totalSteps → (h'.get k).untimed = (h.get k).untimed
  last : (h'.get h.totalSteps).untimed.reopened = h.last.untimed.reopened

theorem totalSteps_le_of_prefix_map {α : Type} {f : Snapshot → α}
    (hbegins : h.later.map f <+: h'.later.map f) : h.totalSteps ≤ h'.totalSteps := by
  have hlength := hbegins.length_le
  rw [List.length_map, List.length_map] at hlength
  exact hlength

/-- What the steps of one history share with the first steps of another, the snapshots share one by
    one. -/
theorem get_eq_of_prefix_map {α : Type} (f : Snapshot → α)
    (hbegins : h.later.map f <+: h'.later.map f) {k : Nat} (hk : k ≤ h.totalSteps) :
    f (h'.get k) = f (h.get k) := by
  have hle := totalSteps_le_of_prefix_map hbegins
  -- both histories begin with the initial snapshot
  have hall : h.snapshots.map f <+: h'.snapshots.map f := List.cons_prefix_cons.mpr ⟨rfl, hbegins⟩
  obtain ⟨rest, hrest⟩ := hall
  have hlt : k < (h.snapshots.map f).length := by
    rw [List.length_map]
    exact Nat.lt_succ_of_le hk
  have hsame : (h'.snapshots.map f)[k]? = (h.snapshots.map f)[k]? := by
    rw [← hrest, List.getElem?_append_left hlt]
  rw [List.getElem?_map, List.getElem?_map, h.getElem?_snapshots hk,
    h'.getElem?_snapshots (Nat.le_trans hk hle)] at hsame
  exact Option.some.inj hsame

/-- When only the last snapshot of a history can end the run, it is enough to compare snapshots
    without what they tell about the end. -/
theorem continuedBy_of_prefix_map
    (hopen : ∀ k : Nat, k < h.totalSteps → (h.get k).isComplete = false ∧ (h.get k).fault = none)
    (hopen' : ∀ k : Nat, k < h'.totalSteps → (h'.get k).isComplete = false ∧
      (h'.get k).fault = none)
    (hbegins : h.later.map (·.untimed.reopened) <+: h'.later.map (·.untimed.reopened)) :
    h.ContinuedBy h' := by
  have hle := totalSteps_le_of_prefix_map hbegins
  refine ⟨hle, ?_, get_eq_of_prefix_map _ hbegins (Nat.le_refl _)⟩
  intro k hk
  have hsame := get_eq_of_prefix_map _ hbegins (Nat.le_of_lt hk)
  rw [Snapshot.reopened_of_open (s := (h'.get k).untimed) (hopen' k (by omega)),
    Snapshot.reopened_of_open (s := (h.get k).untimed) (hopen k hk)] at hsame
  exact hsame

end History

/-- A smaller budget allows as many of the steps as it has room for. -/
theorem stepCount_eq_min {lines limit limit' : Nat} (h : limit ≤ limit') (failure : Option Nat) :
    stepCount lines limit failure = min limit (stepCount lines limit' failure) := by
  cases failure with
  | none =>
    simp only [stepCount]
    omega
  | some position =>
    simp only [stepCount]
    omega

namespace Recording

/-- Times aside, a history does not depend on the clock. -/
theorem later_untimed (settings : Settings) (clock clock' : Nat → Instant) (source : Text) :
    (historyOf settings clock' source).later.map Snapshot.untimed =
      (historyOf settings clock source).later.map Snapshot.untimed := by
  rw [later_eq, later_eq, recorded, recorded]
  cases DeclarationTable.ofListing (.ofText source) with
  | error fault => rfl
  | ok table =>
    have hstart : RunState.start.untimed = RunState.start.untimed := rfl
    have hsteps := (runner settings clock table).steps_untimed clock' hstart 1
      (Runner.executable table (.ofText source))
    have hsnapshots := congrArg (List.map Step.snapshot) hsteps
    rw [List.map_map, List.map_map] at hsnapshots ⊢
    exact hsnapshots

variable {settings settings' : Settings} {clock clock' : Nat → Instant} {source source' : Text}
  {table : DeclarationTable}

/-- A script that begins with the executed lines of another one and has the same declarations
    continues its run, under the same budget or a larger one. -/
theorem continuedBy_of_lines (hbuild : DeclarationTable.ofListing (.ofText source) = .ok table)
    (hbuild' : DeclarationTable.ofListing (.ofText source') = .ok table)
    (hbudget : settings.budget ≤ settings'.budget)
    (hlines : Runner.executable table (.ofText source) <+:
      Runner.executable table (.ofText source')) :
    (historyOf settings clock source).ContinuedBy (historyOf settings' clock' source') := by
  obtain ⟨extra, hextra⟩ := hlines
  have hrun : (runner settings clock table).Run 1 _ _ (stepsOf settings clock table source) :=
    run_stepsOf
  have hsteps := hrun.prefix_reopened hbudget extra
  rw [hextra] at hsteps
  have hreopened : (historyOf settings clock source).later.map Snapshot.reopened <+:
      (historyOf settings' clock source').later.map Snapshot.reopened := by
    rw [later_eq_map hbuild, later_eq_map hbuild', List.map_map, List.map_map]
    exact hsteps
  -- the other clock changes the times only
  have huntimed :=
    congrArg (List.map Snapshot.reopened) (later_untimed settings' clock clock' source')
  have hbegins := hreopened.map Snapshot.untimed
  rw [List.map_map, List.map_map] at hbegins huntimed
  exact History.continuedBy_of_prefix_map (fun _ => get_open) (fun _ => get_open)
    (huntimed ▸ hbegins)

section accepted
variable (hbuild : DeclarationTable.ofListing (.ofText source) = .ok table)
include hbuild

/-- The last snapshot is that of the last step. -/
theorem last_eq_snapshot {s : Step} (hs : (stepsOf settings clock table source).getLast? = some s) :
    (historyOf settings clock source).last = s.snapshot := by
  have hpos : 0 < (historyOf settings clock source).totalSteps := by
    rw [totalSteps_eq_length hbuild]
    exact List.length_pos_of_mem (List.mem_of_getLast? hs)
  have hlast := History.getLast?_later hpos
  rw [later_eq_map hbuild, List.getLast?_map, hs] at hlast
  exact (Option.some.inj hlast).symm

/-! ### Larger budgets -/

/-- The number of steps under a smaller budget. -/
theorem totalSteps_eq_min (hbudget : settings.budget ≤ settings'.budget) :
    (historyOf settings clock source).totalSteps =
      min settings.budget (historyOf settings' clock' source).totalSteps := by
  rw [(runShape hbuild).totalSteps, (runShape hbuild).totalSteps]
  exact stepCount_eq_min hbudget _

/-- A run that did not use up its budget is the same under a larger one. -/
theorem later_of_not_cut (hbudget : settings.budget ≤ settings'.budget)
    (hlast : (historyOf settings clock source).last.fault ≠
      some (.budgetExceeded settings.budget)) :
    (historyOf settings' clock' source).later.map Snapshot.untimed =
      (historyOf settings clock source).later.map Snapshot.untimed := by
  have hrun : (runner settings' clock table).Run 1 (Runner.executable table (.ofText source)) .start
      (stepsOf settings clock table source) := by
    refine run_stepsOf.withBudget hbudget ?_
    intro s hs
    rw [← last_eq_snapshot hbuild hs]
    exact hlast
  rw [later_untimed settings' clock clock', later_eq_map hbuild, later_eq_map hbuild, hrun.eq_steps]
  rfl

/-! ### Added lines -/

/-- A run that ended with a fault takes no other steps when lines are added. -/
theorem later_of_fault (hbuild' : DeclarationTable.ofListing (.ofText source') = .ok table)
    (hlines : Runner.executable table (.ofText source) <+:
      Runner.executable table (.ofText source'))
    (hlast : (historyOf settings clock source).last.fault ≠ none) :
    (historyOf settings clock' source').later.map Snapshot.untimed =
      (historyOf settings clock source).later.map Snapshot.untimed := by
  obtain ⟨extra, hextra⟩ := hlines
  have hrun : (runner settings clock table).Run 1 (Runner.executable table (.ofText source')) .start
      (stepsOf settings clock table source) := by
    cases hs : (stepsOf settings clock table source).getLast? with
    | none =>
      -- without a step there is no fault
      have hsteps : stepsOf settings clock table source = [] := List.getLast?_eq_none_iff.mp hs
      have hzero : (historyOf settings clock source).totalSteps = 0 := by
        rw [totalSteps_eq_length hbuild, hsteps]
        rfl
      rw [History.last_eq, hzero] at hlast
      exact absurd rfl hlast
    | some s =>
      rw [last_eq_snapshot hbuild hs] at hlast
      rw [← hextra]
      exact run_stepsOf.append hs hlast extra
  rw [later_untimed settings clock clock', later_eq_map hbuild, later_eq_map hbuild', hrun.eq_steps]
  rfl

end accepted

/-- A larger budget continues a run. The smaller budget allows as many of the steps as it has room
    for, and the two histories are the same up to its last step. There they differ at most in what
    they tell about the end, and only when the smaller budget cut the run off. A script that is
    rejected is recorded in the same way under any budget. -/
theorem larger_budget_continues (small large : Settings) (clock clock' : Nat → Instant)
    (source : Text) (hbudget : max 1 small.maxSteps ≤ max 1 large.maxSteps) :
    let recording := ofSource small clock source
    let recording' := ofSource large clock' source
    recording.history.totalSteps = min (max 1 small.maxSteps) recording'.history.totalSteps ∧
    recording.history.ContinuedBy recording'.history ∧
    (recording.history.last.fault ≠ some (.budgetExceeded (max 1 small.maxSteps)) →
      (recording'.history.get recording.history.totalSteps).untimed =
        recording.history.last.untimed) ∧
    (∀ fault, DeclarationTable.ofListing (.ofText source) = .error fault →
      recording' = { recording with settings := large }) := by
  intro recording recording'
  cases hbuild : DeclarationTable.ofListing (.ofText source) with
  | error fault =>
    have hrejected : recording' = { recording with settings := large } := by
      simp only [recording, recording', ofSource, hbuild, rejected]
    have hsame : recording'.history = recording.history := by rw [hrejected]
    have htotal : recording.history.totalSteps = 1 := (rejectedShape hbuild).totalSteps
    rw [hsame, htotal]
    refine ⟨by omega, ⟨Nat.le_refl _, fun k _ => rfl, rfl⟩, ?_, fun _ _ => hrejected⟩
    intro _
    rw [History.last_eq, htotal]
  | ok table =>
    refine ⟨totalSteps_eq_min hbuild hbudget,
      continuedBy_of_lines hbuild hbuild hbudget (List.prefix_refl _), ?_,
      fun fault h => by cases h⟩
    intro hlast
    have hlater : recording'.history.later.map Snapshot.untimed = _ :=
      later_of_not_cut hbuild hbudget hlast
    exact History.get_eq_of_prefix_map Snapshot.untimed (hlater ▸ List.prefix_refl _)
      (Nat.le_refl _)

/-- The smaller budget cuts the run off, the larger one does not. -/
theorem larger_budget_continues_past_cut :
    let small := { Settings.default with maxSteps := 2 }
    let large := { Settings.default with maxSteps := 5 }
    let source : Text := "x = true\ny = x\nz = y"
    let history := (ofSource small (fun _ => .epoch) source).history
    let history' := (ofSource large (fun _ => .epoch) source).history
    max 1 small.maxSteps ≤ max 1 large.maxSteps ∧
      history.last.fault = some (.budgetExceeded 2) ∧ history'.last.fault = none ∧
      history.totalSteps = min 2 history'.totalSteps ∧ history.ContinuedBy history' := by
  intro small large source history history'
  have hbudget : max 1 small.maxSteps ≤ max 1 large.maxSteps := by decide
  obtain ⟨htotal, hcontinued, _⟩ :=
    larger_budget_continues small large (fun _ => .epoch) (fun _ => .epoch) source hbudget
  exact ⟨hbudget, by decide +kernel, by decide +kernel, htotal, hcontinued⟩

-- a line that fails at the last step of the smaller budget ends both runs
example :
    let source : Text := "x = true\ny = missing\nz = x"
    historyOf { Settings.default with maxSteps := 2 } (fun _ => .epoch) source =
      historyOf { Settings.default with maxSteps := 3 } (fun _ => .epoch) source := by
  decide +kernel

/-- Text that is added after a script continues its run, if it declares nothing. The declarations
    stay the same, stray braces and quotes of the added text included, and so does the history up to
    the last step of the script, where it may tell something else about the end. A script that ended
    with a fault has the same history with the added text as without it. -/
theorem added_text_continues (settings : Settings) (clock clock' : Nat → Instant) (a b : Text)
    (table : DeclarationTable) (hbuild : DeclarationTable.ofListing (.ofText a) = .ok table)
    (hplain : ∀ line ∈ (Listing.ofText b).lines, Header.ofLine? line = none) :
    let history := (ofSource settings clock a).history
    let history' := (ofSource settings clock' (a ++ '\n' :: b)).history
    DeclarationTable.ofListing (.ofText (a ++ '\n' :: b)) = .ok table ∧
    history.ContinuedBy history' ∧
    (history.last.fault ≠ none →
      history'.snapshots.map Snapshot.untimed = history.snapshots.map Snapshot.untimed) := by
  intro history history'
  have hbuild' : DeclarationTable.ofListing (.ofText (a ++ '\n' :: b)) = .ok table := by
    rw [Listing.ofText_append]
    exact DeclarationTable.ofListing_append hbuild hplain
  have hlines : Runner.executable table (.ofText a) <+:
      Runner.executable table (.ofText (a ++ '\n' :: b)) := by
    rw [Listing.ofText_append]
    exact Runner.executable_append _ _ _
  refine ⟨hbuild', continuedBy_of_lines hbuild hbuild' (Nat.le_refl _) hlines, ?_⟩
  intro hlast
  have hlater : history'.later.map Snapshot.untimed = _ :=
    later_of_fault hbuild hbuild' hlines hlast
  exact congrArg (Snapshot.initial.untimed :: ·) hlater

/-- The added text has a stray closing brace, a stray opening one and a quote that is not closed. -/
theorem added_text_continues_stray_braces :
    let a : Text := "p = true\nfunction f(p) \x7b\nq = p\n\x7d\nx = q"
    let b : Text := "\x7d \x7b 'x\nf(x)"
    let table : DeclarationTable := ⟨[⟨"f", ["p"], ["q = p"], 2⟩], [2]⟩
    let history := (ofSource .default (fun _ => .epoch) a).history
    let history' := (ofSource .default (fun _ => .epoch) (a ++ '\n' :: b)).history
    DeclarationTable.ofListing (.ofText a) = .ok table ∧
      (Listing.ofText b).lines = ["\x7d \x7b 'x".toList, "f(x)".toList] ∧
      (∀ line ∈ (Listing.ofText b).lines, Header.ofLine? line = none) ∧
      history.totalSteps = 3 ∧ history'.totalSteps = 5 ∧
      DeclarationTable.ofListing (.ofText (a ++ '\n' :: b)) = .ok table ∧
      history.ContinuedBy history' := by
  intro a b table history history'
  have hbuild : DeclarationTable.ofListing (.ofText a) = .ok table := rfl
  have hplain : ∀ line ∈ (Listing.ofText b).lines, Header.ofLine? line = none := by decide +kernel
  obtain ⟨hbuild', hcontinued, _⟩ :=
    added_text_continues .default (fun _ => .epoch) (fun _ => .epoch) a b table hbuild hplain
  exact ⟨hbuild, by decide +kernel, hplain, by decide +kernel, by decide +kernel,
    hbuild', hcontinued⟩

-- a script that fails has the same history with more lines
example :
    let a : Text := "x = true\ny = missing"
    historyOf .default (fun _ => .epoch) (a ++ "\nconsole.log(x)".toList) =
      historyOf .default (fun _ => .epoch) a := by
  decide +kernel

end Recording
end Stepwise
