import Mathlib.Data.List.Forall2
import Stepwise.Proofs.Continuation
import Stepwise.Proofs.Output

/-!
# Lines that can be interchanged

Two lines have the same outline when they have the same braces and are the same header if they are
one; they are alike when they also have the same statement under all declarations. Scripts whose
lines are alike, one by one, run alike:

- `DeclarationTable.outline` is a table without the bodies, which are all that can differ between
  the tables of scripts whose lines have the same outlines (`ofListing_of_sameOutline`),
- nothing that a run does looks at a body (`ofLine_outline`, `execute_outline`, `steps_outline`),
- so the histories are the same, and so is what is passed on to a sink (`history_of_alike`,
  `ofSourceWith_of_alike`).
-/

namespace Stepwise

/-! ### Tables without bodies -/

/-- The declaration without its body. -/
def Declaration.outline (d : Declaration) : Declaration := { d with body := [] }

namespace DeclarationTable

/-- The table without the bodies of its declarations. -/
def outline (table : DeclarationTable) : DeclarationTable :=
  { table with declarations := table.declarations.map Declaration.outline }

variable (table : DeclarationTable)

theorem get?_outline (name : Text) :
    table.outline.get? name = (table.get? name).map Declaration.outline := by
  unfold get? outline
  rw [List.find?_map]
  rfl

theorem contains_outline (name : Text) : table.outline.contains name = table.contains name := by
  unfold contains
  rw [get?_outline, Option.isSome_map]

theorem insert_outline (d : Declaration) :
    (table.insert d).outline = table.outline.insert d.outline := by
  unfold insert outline
  rw [List.map_append, List.filter_map]
  rfl

end DeclarationTable

theorem Statement.ofLine_outline (table : DeclarationTable) (line : Text) :
    ofLine table.outline line = ofLine table line := by
  unfold ofLine call?
  simp only [DeclarationTable.contains_outline]

/-- The lines that run do not depend on bodies. -/
theorem Runner.executable_outline (table : DeclarationTable) (listing : Listing) :
    executable table.outline listing = executable table listing := by
  unfold executable Statement.classify?
  simp only [Statement.ofLine_outline]
  rfl

/-- No statement looks at a body. -/
theorem execute_outline (table : DeclarationTable) (state : RunState) (line : Nat)
    (statement : Statement) :
    execute table.outline state line statement = execute table state line statement := by
  cases statement with
  | call name arguments =>
    simp only [execute, executeCall, DeclarationTable.get?_outline]
    cases table.get? name <;> rfl
  | _ => rfl

namespace Runner

/-- The runner without the bodies of the declarations. -/
def outline (r : Runner) : Runner := { r with table := r.table.outline }

theorem steps_outline (r : Runner) (n : Nat) (lines : List (Nat × Statement)) (state : RunState) :
    r.outline.steps n lines state = r.steps n lines state := by
  -- a runner uses its table for nothing but `execute`
  have hstep : ∀ state n isLast line statement,
      r.outline.step state n isLast line statement = r.step state n isLast line statement := by
    intro state n isLast line statement
    unfold step
    rw [show r.outline.table = r.table.outline from rfl, execute_outline]
    rfl
  induction lines generalizing n state with
  | nil => rfl
  | cons pair rest ih => simp only [steps, hstep, ih]

end Runner

/-! ### Lines that are alike -/

/-- Two computations that give the same, as far as `f` can tell, fail alike or both have results. -/
theorem map_eq_map_cases {α β ε : Type} {f : α → β} {x y : Except ε α} (h : x.map f = y.map f) :
    (∃ e, x = .error e ∧ y = .error e) ∨ ∃ a b, x = .ok a ∧ y = .ok b ∧ f a = f b := by
  cases x with
  | error e =>
    cases y with
    | error e' =>
      cases h
      exact .inl ⟨e, rfl, rfl⟩
    | ok b => cases h
  | ok a =>
    cases y with
    | error e' => cases h
    | ok b => exact .inr ⟨a, b, rfl, rfl, Except.ok.inj h⟩

/-- The lines have the same part in declarations. -/
structure Text.SameOutline (line line' : Text) : Prop where
  balance : line.braceBalance = line'.braceBalance
  header : Header.ofLine? line = Header.ofLine? line'
  opening : line = ['{'] ↔ line' = ['{']
  closing : line = ['}'] ↔ line' = ['}']

theorem Text.SameOutline.refl (line : Text) : line.SameOutline line := ⟨rfl, rfl, Iff.rfl, Iff.rfl⟩

/-- The lines have the same part in declarations and the same statement. -/
structure Text.Alike (line line' : Text) : Prop extends Text.SameOutline line line' where
  statement : ∀ table, Statement.ofLine table line = Statement.ofLine table line'

theorem Text.Alike.refl (line : Text) : line.Alike line := ⟨.refl line, fun _ => rfl⟩

/-- A header that does not open its body needs a brace alone on the next line. -/
theorem Header.afterBrace?_cons {header : Header} (hopens : header.opensBody = false) (line : Text)
    (rest : List Text) :
    header.afterBrace? (line :: rest) = if line = ['{'] then some rest else none := by
  unfold afterBrace?
  rw [hopens]
  by_cases hbrace : line = ['{']
  · rw [if_pos hbrace, hbrace]
    rfl
  · rw [if_neg hbrace]
    simp only [Bool.false_eq_true, if_false]
    split
    · rename_i heq
      cases heq
      exact absurd rfl hbrace
    · rfl

/-- Lines that are alike have the same statement at the same place. -/
theorem Statement.classify?_of_alike {line line' : Text} (h : line.Alike line')
    (table : DeclarationTable) (number : Nat) :
    classify? table number line = classify? table number line' := by
  have hclosing : (line == ['}']) = (line' == ['}']) := by
    rw [Bool.eq_iff_iff, beq_iff_eq, beq_iff_eq]
    exact h.closing
  unfold classify? DeclarationTable.isStructural
  rw [hclosing, h.statement]

section outlines
variable {lines lines' : List Text} (h : List.Forall₂ Text.SameOutline lines lines')
include h

/-- Bodies end at the same line. -/
theorem takeBody?_of_sameOutline (depth : Int) :
    (takeBody? depth lines).isSome = (takeBody? depth lines').isSome := by
  induction h generalizing depth with
  | nil => rfl
  | cons hline hrest ih =>
    -- with equal balances, the same number of braces is open after the line
    simp only [takeBody?, hline.balance]
    split
    · rfl
    · rw [Option.isSome_map, Option.isSome_map, ih]

/-- Opening braces stand on the same line. -/
theorem Header.afterBrace?_of_sameOutline (header : Header) :
    (header.afterBrace? lines = none ∧ header.afterBrace? lines' = none) ∨
    ∃ rest rest', header.afterBrace? lines = some rest ∧ header.afterBrace? lines' = some rest' ∧
      List.Forall₂ Text.SameOutline rest rest' := by
  cases hopens : header.opensBody with
  | true =>
    unfold afterBrace?
    rw [if_pos hopens, if_pos hopens]
    exact .inr ⟨lines, lines', rfl, rfl, h⟩
  | false =>
    cases h with
    | nil =>
      unfold afterBrace?
      rw [hopens]
      exact .inl ⟨rfl, rfl⟩
    | @cons line line' rest rest' hline hrest =>
      rw [afterBrace?_cons hopens, afterBrace?_cons hopens]
      by_cases hbrace : line = ['{']
      · rw [if_pos hbrace, if_pos (hline.opening.mp hbrace)]
        exact .inr ⟨rest, rest', rfl, rfl, hrest⟩
      · rw [if_neg hbrace, if_neg fun hbrace' => hbrace (hline.opening.mpr hbrace')]
        exact .inl ⟨rfl, rfl⟩

/-- Headers declare the same, bodies aside. -/
theorem Header.declare_of_sameOutline (header : Header) (number : Nat) :
    (header.declare number lines).map Declaration.outline =
      (header.declare number lines').map Declaration.outline := by
  unfold declare
  rcases header.afterBrace?_of_sameOutline h with ⟨hnone, hnone'⟩ |
    ⟨rest, rest', hrest, hrest', houtlines⟩
  · rw [hnone, hnone']
  · -- the bodies may differ, but both end or neither does
    have hsome := takeBody?_of_sameOutline houtlines 1
    rw [hrest, hrest']
    cases hbody : takeBody? 1 rest with
    | none =>
      rw [hbody, Option.isSome_none, eq_comm, Option.isSome_eq_false_iff, Option.isNone_iff_eq_none]
        at hsome
      simp only [hbody, hsome]
    | some body =>
      rw [hbody, Option.isSome_some, eq_comm, Option.isSome_iff_exists] at hsome
      obtain ⟨body', hbody'⟩ := hsome
      simp only [hbody, hbody']
      rfl

/-- The passes over the lines have the same outcome, bodies aside. -/
theorem DeclarationTable.scan_outline (number : Nat) {table table' : DeclarationTable}
    (htable : table.outline = table'.outline) :
    (scan number lines table).map outline = (scan number lines' table').map outline := by
  induction h generalizing number table table' with
  | nil => exact congrArg Except.ok htable
  | @cons line line' rest rest' hline hrest ih =>
    simp only [scan, hline.header]
    cases Header.ofLine? line' with
    | none => exact ih (number + 1) htable
    | some header =>
      rcases map_eq_map_cases (header.declare_of_sameOutline hrest number) with
        ⟨fault, hd, hd'⟩ | ⟨d, d', hd, hd', houtline⟩
      · simp only [hd, hd']
      · have hinsert : (table.insert d).outline = (table'.insert d').outline := by
          rw [insert_outline, insert_outline, htable, houtline]
        simp only [hd, hd']
        apply ih (number + 1)
        -- both note the same lines of the header
        let note (t : DeclarationTable) : DeclarationTable :=
          ⟨t.declarations, t.structural ++ header.structuralLines number⟩
        exact congrArg note hinsert

/-- The tables of the scripts are the same, bodies aside, or their faults are. -/
theorem DeclarationTable.ofListing_of_sameOutline :
    (ofListing ⟨lines⟩).map outline = (ofListing ⟨lines'⟩).map outline := scan_outline h 1 rfl

end outlines

section alike
variable {lines lines' : List Text} (h : List.Forall₂ Text.Alike lines lines')
include h

/-- The lines that run are the same. -/
theorem Runner.executable_of_alike (table : DeclarationTable) :
    executable table ⟨lines⟩ = executable table ⟨lines'⟩ := by
  have hfrom : ∀ n, (lines.zipIdx n).filterMap (fun pair =>
        (Statement.classify? table pair.2 pair.1).map fun statement => (pair.2, statement)) =
      (lines'.zipIdx n).filterMap (fun pair =>
        (Statement.classify? table pair.2 pair.1).map fun statement => (pair.2, statement)) := by
    induction h with
    | nil => intro n; rfl
    | cons hline hrest ih =>
      intro n
      simp only [List.zipIdx_cons, List.filterMap_cons, Statement.classify?_of_alike hline, ih]
  exact hfrom 1

/-- Lines that are alike have the same outlines. -/
theorem DeclarationTable.ofListing_outline :
    (ofListing ⟨lines⟩).map outline = (ofListing ⟨lines'⟩).map outline :=
  ofListing_of_sameOutline (h.imp fun _ _ hline => hline.toSameOutline)

end alike

/-! ### Runs -/

namespace Recording

/-- What is printed does not depend on the clock. -/
theorem printed_untimed (settings : Settings) (clock clock' : Nat → Instant)
    (table : DeclarationTable) (source : Text) :
    (stepsOf settings clock' table source).filterMap Step.printed =
      (stepsOf settings clock table source).filterMap Step.printed := by
  have hstart : RunState.start.untimed = RunState.start.untimed := rfl
  have hsteps := congrArg (List.filterMap Step.printed)
    ((runner settings clock table).steps_untimed clock' hstart 1
      (Runner.executable table (.ofText source)))
  rw [List.filterMap_map, List.filterMap_map] at hsteps
  exact hsteps

/-- The steps of a script do not depend on bodies. -/
theorem stepsOf_outline (settings : Settings) (clock : Nat → Instant)
    {table table' : DeclarationTable} (htable : table.outline = table'.outline) (source : Text) :
    stepsOf settings clock table source = stepsOf settings clock table' source := by
  have hlines : Runner.executable table (.ofText source) =
      Runner.executable table' (.ofText source) := by
    rw [← Runner.executable_outline, htable, Runner.executable_outline]
  have hrunner : (runner settings clock table).outline =
      (runner settings clock table').outline := by
    unfold runner Runner.outline
    rw [htable]
  unfold stepsOf
  rw [hlines, ← Runner.steps_outline, ← Runner.steps_outline (runner settings clock table'),
    hrunner]

section alike
variable {settings : Settings} {source source' : Text}
  (h : List.Forall₂ Text.Alike (Listing.ofText source).lines (Listing.ofText source').lines)
include h

/-- Scripts with the same tables, bodies aside, take the same steps. -/
theorem stepsOf_of_alike (clock : Nat → Instant) {table table' : DeclarationTable}
    (htable : table.outline = table'.outline) :
    stepsOf settings clock table source = stepsOf settings clock table' source' := by
  have hlines : Runner.executable table' (.ofText source) =
      Runner.executable table' (.ofText source') :=
    Runner.executable_of_alike h table'
  rw [stepsOf_outline settings clock htable]
  unfold stepsOf
  rw [hlines]

/-- The histories of the scripts are the same. -/
theorem history_of_alike (clock : Nat → Instant) :
    historyOf settings clock source = historyOf settings clock source' := by
  rw [history_eq, history_eq, recorded, recorded]
  rcases map_eq_map_cases (DeclarationTable.ofListing_outline h) with
    ⟨fault, hbuild, hbuild'⟩ | ⟨table, table', hbuild, hbuild', htable⟩
  · rw [hbuild, hbuild']
  · rw [hbuild, hbuild']
    simp only [stepsOf_of_alike h clock htable]

/-- Times aside, the snapshots of the scripts are the same under any two clocks. -/
theorem snapshots_of_alike (clock clock' : Nat → Instant) :
    (historyOf settings clock source).snapshots.map Snapshot.untimed =
      (historyOf settings clock' source').snapshots.map Snapshot.untimed := by
  rw [history_of_alike h]
  exact congrArg (Snapshot.initial.untimed :: ·) (later_untimed settings clock' clock source')

/-- The scripts pass the same texts on to a sink, in the same order, and then give the same
    snapshots. -/
theorem ofSourceWith_of_alike {m : Type → Type} [Monad m] [LawfulMonad m] (sink : Text → m Unit)
    (clock clock' : Nat → Instant) :
    (fun r => r.history.snapshots.map Snapshot.untimed) <$>
        ofSourceWith sink settings clock source =
      (fun r => r.history.snapshots.map Snapshot.untimed) <$>
        ofSourceWith sink settings clock' source' := by
  have hsnapshots : (ofSource settings clock source).history.snapshots.map Snapshot.untimed = _ :=
    snapshots_of_alike h clock clock'
  rcases map_eq_map_cases (DeclarationTable.ofListing_outline h) with
    ⟨fault, hbuild, hbuild'⟩ | ⟨table, table', hbuild, hbuild', htable⟩
  · simp only [ofSourceWith]
    rw [hbuild, hbuild', map_pure, map_pure]
    rfl
  · have hprinted : (stepsOf settings clock table source).filterMap Step.printed =
        (stepsOf settings clock' table' source').filterMap Step.printed := by
      rw [stepsOf_of_alike h clock htable, printed_untimed]
    rw [ofSourceWith_eq hbuild, ofSourceWith_eq hbuild', hprinted, map_bind, map_bind]
    simp only [map_pure, hsnapshots]

end alike
end Recording
end Stepwise
