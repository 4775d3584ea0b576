import Stepwise.Proofs.Declarations
import Stepwise.Proofs.Run

/-!
# Which lines run

The pass over the headers of a listing also notes the lines that belong to declarations, by number.
Here these numbers are compared with what the lines themselves say, and with the lines of the
snapshots of a run:

- `Listing.IsStructural` tells from a line and the line before it whether the line is structural,
- `Marks` is what the pass has noted after some lines; `isStructural_iff` follows for the whole
  listing,
- `line_get`: step `k + 1` executes the text of the line that comes after `k` lines that are not
  structural,
- `Executes` is a step that does not fail, with its effect; `executes_or_fails` is what one step can
  do,
- `lines_that_run` puts these together.
-/

namespace Stepwise

namespace Listing

variable {listing : Listing} {table : DeclarationTable} {n : Nat}

/-- The line is a closing brace alone, a header, or an opening brace alone after a header that does
    not open its body itself. -/
def IsStructural (listing : Listing) (number : Nat) : Prop :=
  listing.get? number = some ['}'] ∨ (∃ header, listing.headerAt? number = some header) ∨
    (listing.get? number = some ['{'] ∧
      ∃ header, listing.headerAt? (number - 1) = some header ∧ header.opensBody = false)

/-! ### Numbers that are noted -/

theorem mem_structuralLines {header : Header} {number m : Nat} :
    number ∈ header.structuralLines m ↔
      number = m ∨ (header.opensBody = false ∧ number = m + 1) := by
  unfold Header.structuralLines
  cases header.opensBody <;> simp

/-- The numbers noted in the table are those of the headers among the first `n` lines and of their
    braces. -/
def Marks (listing : Listing) (n : Nat) (table : DeclarationTable) : Prop :=
  ∀ number, number ∈ table.structural ↔
    ∃ m header, m ≤ n ∧ listing.headerAt? m = some header ∧ number ∈ header.structuralLines m

namespace Marks

theorem start (listing : Listing) : listing.Marks 0 .empty := by
  intro number
  constructor
  · intro hmem
    cases hmem
  · rintro ⟨m, header, hle, hheader, _⟩
    have := headerAt?_pos hheader
    omega

/-- A line that is no header adds nothing. -/
theorem plain (h : listing.Marks n table) (hnone : listing.headerAt? (n + 1) = none) :
    listing.Marks (n + 1) table := by
  intro number
  rw [h number]
  constructor
  · rintro ⟨m, header, hle, hheader, hmem⟩
    exact ⟨m, header, by omega, hheader, hmem⟩
  · rintro ⟨m, header, hle, hheader, hmem⟩
    have hne : m ≠ n + 1 := by
      rintro rfl
      rw [hnone] at hheader
      cases hheader
    exact ⟨m, header, by omega, hheader, hmem⟩

/-- A header adds its own lines. -/
theorem add (h : listing.Marks n table) {header : Header}
    (hheader : listing.headerAt? (n + 1) = some header) (declarations : List Declaration) :
    listing.Marks (n + 1) ⟨declarations, table.structural ++ header.structuralLines (n + 1)⟩ := by
  intro number
  rw [List.mem_append, h number]
  constructor
  · rintro (⟨m, header', hle, hheader', hmem⟩ | hmem)
    · exact ⟨m, header', by omega, hheader', hmem⟩
    · exact ⟨n + 1, header, Nat.le_refl _, hheader, hmem⟩
  · rintro ⟨m, header', hle, hheader', hmem⟩
    by_cases heq : m = n + 1
    · subst heq
      rw [hheader] at hheader'
      cases hheader'
      exact .inr hmem
    · exact .inl ⟨m, header', by omega, hheader', hmem⟩

end Marks

/-- The table of a listing has the lines of all headers. -/
theorem marks_of_ofListing (h : DeclarationTable.ofListing listing = .ok table) :
    listing.Marks listing.size table :=
  scan_invariant (fun _ _ hm hnone => hm.plain hnone)
    (fun _ _ _ _ hm hheader _ _ => hm.add hheader _) (Nat.zero_le _) h (.start listing)

/-- What is noted by number can be told from the lines. -/
theorem isStructural_iff (h : DeclarationTable.ofListing listing = .ok table)
    {number : Nat} {line : Text} (hline : listing.get? number = some line) :
    table.isStructural number line = true ↔ listing.IsStructural number := by
  unfold DeclarationTable.isStructural IsStructural
  rw [Bool.or_eq_true, beq_iff_eq, List.contains_iff_mem, marks_of_ofListing h number, hline,
    Option.some.injEq, Option.some.injEq]
  apply or_congr_right
  constructor
  · rintro ⟨m, header, hle, hheader, hmem⟩
    rcases mem_structuralLines.mp hmem with rfl | ⟨hopens, rfl⟩
    · exact .inl ⟨header, hheader⟩
    · -- the header was accepted, so that its brace stands on the next line
      have hbrace := ((collects_of_ofListing h).sound m header hle hheader).1
      rcases hbrace with hopens' | hbrace
      · rw [hopens] at hopens'
        cases hopens'
      · exact .inr ⟨Option.some.inj (hline.symm.trans hbrace), header, hheader, hopens⟩
  · rintro (⟨header, hheader⟩ | ⟨_, header, hheader, hopens⟩)
    · exact ⟨number, header, headerAt?_le_size hheader, hheader, mem_structuralLines.mpr (.inl rfl)⟩
    · have hpos := headerAt?_pos hheader
      exact ⟨number - 1, header, headerAt?_le_size hheader, hheader,
        mem_structuralLines.mpr (.inr ⟨hopens, by omega⟩)⟩

/-- A line is given no statement when it is structural. -/
theorem classify?_eq_none_iff (h : DeclarationTable.ofListing listing = .ok table)
    {number : Nat} {line : Text} (hline : listing.get? number = some line) :
    Statement.classify? table number line = none ↔ listing.IsStructural number := by
  rw [← isStructural_iff h hline]
  unfold Statement.classify?
  cases table.isStructural number line <;> simp

/-! ### Numbers of lines -/

/-- A line is listed under its own number. -/
theorem get?_of_mem_numbered {line : Text} {number : Nat} (h : (line, number) ∈ listing.numbered) :
    listing.get? number = some line := by
  obtain ⟨hge, hlt, hget⟩ := List.mem_zipIdx h
  obtain ⟨i, rfl⟩ : ∃ i, number = i + 1 := ⟨number - 1, by omega⟩
  show listing.lines[i]? = some line
  simp only [Nat.add_sub_cancel] at hget
  rw [hget]
  exact List.getElem?_eq_getElem _

/-- The lines that are not structural are listed by number. -/
theorem nonStructural_sorted (listing : Listing) (table : DeclarationTable) :
    (listing.nonStructural table).Pairwise fun a b => a.2 < b.2 := by
  have hnumbers : (listing.numbered.map Prod.snd).Pairwise (· < ·) := by
    unfold numbered
    rw [List.zipIdx_map_snd]
    exact List.pairwise_lt_range'
  exact (List.pairwise_map.mp hnumbers).filter _

end Listing

namespace Recording

variable {settings : Settings} {clock : Nat → Instant} {source : Text} {table : DeclarationTable}

/-- Step `k + 1` executes the text of the line at position `k` among those that are not structural,
    in the state of snapshot `k`; its snapshot has the number of that line. -/
theorem line_get (hbuild : DeclarationTable.ofListing (.ofText source) = .ok table) {k : Nat}
    (hk : k < (historyOf settings clock source).totalSteps) :
    ∃ text number, ((Listing.ofText source).nonStructural table)[k]? = some (text, number) ∧
      (Listing.ofText source).get? number = some text ∧
      ((historyOf settings clock source).get (k + 1 : Nat)).line = number ∧
      (historyOf settings clock source).get (k + 1 : Nat) = ((runner settings clock table).step
        (.ofSnapshot ((historyOf settings clock source).get k)) (k + 1)
        (k + 1 == ((Listing.ofText source).nonStructural table).length) number
        (.ofLine table text)).snapshot := by
  obtain ⟨_, number, statement, _, hline, rfl, hget⟩ := step_at hbuild hk
  rw [Runner.executable_eq, List.getElem?_map, Option.map_eq_some_iff] at hline
  rw [Runner.executable_eq, List.length_map] at hget
  obtain ⟨⟨text, number'⟩, htext, heq⟩ := hline
  cases heq
  refine ⟨text, number, htext, ?_, ?_, hget⟩
  · exact Listing.get?_of_mem_numbered (List.mem_filter.mp (List.mem_of_getElem? htext)).1
  · rw [hget]
    exact (Runner.step_snapshot _ _ _ _ _ _).2.1

/-- Step `k + 1` of a run executes the text of line `number`, with the given effect. -/
structure Executes (settings : Settings) (clock : Nat → Instant) (source : Text)
    (table : DeclarationTable) (k number : Nat) (text : Text) (effect : Effect) : Prop where
  line : (Listing.ofText source).get? number = some text
  executed : execute table (.ofSnapshot ((historyOf settings clock source).get k)) number
    (.ofLine table text) =
    .ok effect
  snapshot : ∃ isLast, (historyOf settings clock source).get (k + 1 : Nat) =
    ((runner settings clock table).succeed (k + 1) number isLast effect).snapshot

/-- A step executes its line, or fails and has the snapshot of its failure. -/
theorem executes_or_fails (hbuild : DeclarationTable.ofListing (.ofText source) = .ok table)
    {k : Nat} (hk : k < (historyOf settings clock source).totalSteps) :
    (∃ number text effect, Executes settings clock source table k number text effect) ∨
    ∃ number fault, (historyOf settings clock source).get (k + 1 : Nat) =
      (Runner.fail (.ofSnapshot ((historyOf settings clock source).get k)) (k + 1) number
        fault).snapshot := by
  obtain ⟨text, number, _, htext, _, hafter⟩ := line_get hbuild hk
  rcases Runner.step_cases (runner settings clock table)
    (.ofSnapshot ((historyOf settings clock source).get k))
    (k + 1) number (k + 1 == ((Listing.ofText source).nonStructural table).length)
      (.ofLine table text) with
    ⟨effect, hexec, heq⟩ | ⟨name, _, heq⟩
  · exact .inl ⟨number, text, effect, htext, hexec, _, hafter.trans (congrArg Step.snapshot heq)⟩
  · exact .inr ⟨number, _, hafter.trans (congrArg Step.snapshot heq)⟩

namespace Executes

variable {k number : Nat} {text : Text} {effect : Effect}
  (h : Executes settings clock source table k number text effect)
include h

/-- The step adds its own entry to the log. -/
theorem log : ((historyOf settings clock source).get (k + 1 : Nat)).log =
    ((historyOf settings clock source).get k).log ++
      [(runner settings clock table).entry (k + 1) number effect] := by
  obtain ⟨isLast, hafter⟩ := h.snapshot
  obtain ⟨_, hfollows⟩ := execute_follows h.executed
  rw [hafter]
  exact congrArg (· ++ [(runner settings clock table).entry (k + 1) number effect]) hfollows.log

theorem lastEntry : Snapshot.lastEntry? ((historyOf settings clock source).get (k + 1 : Nat)) =
    some ((runner settings clock table).entry (k + 1) number effect) := by
  obtain ⟨isLast, hafter⟩ := h.snapshot
  rw [hafter]
  simp [Runner.succeed, Runner.entry, Snapshot.lastEntry?]

/-- The snapshot shows the state after the effect; the log is that of the snapshot. -/
theorem shows : ((historyOf settings clock source).get (k + 1 : Nat)).Shows
    (effect.state.withLog ((historyOf settings clock source).get (k + 1 : Nat)).log) := by
  obtain ⟨isLast, hafter⟩ := h.snapshot
  rw [hafter]
  exact Runner.succeed_shows _ _ _ _ _

end Executes

/-- Later steps are on later lines. -/
theorem line_lt_line (hbuild : DeclarationTable.ofListing (.ofText source) = .ok table)
    {j k : Nat} (hjk : j < k) (hk : k < (historyOf settings clock source).totalSteps) :
    ((historyOf settings clock source).get (j + 1 : Nat)).line <
      ((historyOf settings clock source).get (k + 1 : Nat)).line := by
  obtain ⟨_, _, hj, _, hlinej, _⟩ := line_get hbuild (Nat.lt_trans hjk hk)
  obtain ⟨_, _, hk, _, hlinek, _⟩ := line_get hbuild hk
  rw [hlinej, hlinek]
  obtain ⟨hltj, hgetj⟩ := List.getElem?_eq_some_iff.mp hj
  obtain ⟨hltk, hgetk⟩ := List.getElem?_eq_some_iff.mp hk
  have hsorted := List.pairwise_iff_getElem.mp
    (Listing.nonStructural_sorted (.ofText source) table) j k hltj hltk hjk
  rw [hgetj, hgetk] at hsorted
  exact hsorted

/-- Which lines run. Whether a line of an accepted script is structural, and so has no statement,
    can be told from the line and the one before it. Step `k + 1` of every run executes the text of
    the line at position `k` among the others, and the line of its snapshot is the number of that
    line; so these numbers increase. -/
theorem lines_that_run (settings : Settings) (clock : Nat → Instant) (source : Text)
    (table : DeclarationTable) (hbuild : DeclarationTable.ofListing (.ofText source) = .ok table) :
    let listing := Listing.ofText source
    let history := (ofSource settings clock source).history
    (∀ number line, listing.get? number = some line →
      (table.isStructural number line = true ↔ listing.IsStructural number) ∧
      (Statement.classify? table number line = none ↔ listing.IsStructural number)) ∧
    (∀ k : Nat, k < history.totalSteps →
      ∃ text, (listing.nonStructural table)[k]? = some (text, (history.get (k + 1 : Nat)).line) ∧
        listing.get? (history.get (k + 1 : Nat)).line = some text ∧
        history.get (k + 1 : Nat) =
          ((runner settings clock table).step (.ofSnapshot (history.get k)) (k + 1)
          (k + 1 == (listing.nonStructural table).length) (history.get (k + 1 : Nat)).line
          (.ofLine table text)).snapshot) ∧
    (∀ j k : Nat, j < k → k < history.totalSteps →
      (history.get (j + 1 : Nat)).line < (history.get (k + 1 : Nat)).line) := by
  intro listing history
  refine ⟨?_, ?_, ?_⟩
  · intro number line hline
    exact ⟨Listing.isStructural_iff hbuild hline, Listing.classify?_eq_none_iff hbuild hline⟩
  · intro k hk
    obtain ⟨text, number, htext, hline, hnumber, hstep⟩ := line_get hbuild hk
    refine ⟨text, ?_⟩
    rw [hnumber]
    exact ⟨htext, hline, hstep⟩
  · intro j k hjk hk
    exact line_lt_line hbuild hjk hk

/-- The brace of the header stands alone on the second line, and the steps are on lines 3, 5 and
    6. -/
theorem lines_that_run_brace_alone :
    let source : Text := "function f(a)\n\x7b\nx = true\n\x7d\ny = x\nf(y)"
    let table : DeclarationTable := ⟨[⟨"f", ["a"], ["x = true"], 1⟩], [1, 2]⟩
    let listing := Listing.ofText source
    let history := (ofSource .default (fun _ => .epoch) source).history
    DeclarationTable.ofListing listing = .ok table ∧
      listing.get? 2 = some ['{'] ∧ listing.IsStructural 2 ∧
      listing.get? 3 = some "x = true" ∧ ¬ listing.IsStructural 3 ∧
      history.totalSteps = 3 ∧ (history.get 3).line = 6 ∧
        (history.get 1).line < (history.get 3).line ∧
      ∃ text, (listing.nonStructural table)[2]? = some (text, (history.get 3).line) ∧
        listing.get? (history.get 3).line = some text := by
  intro source table listing history
  have hbuild : DeclarationTable.ofListing listing = .ok table := rfl
  have htotal : history.totalSteps = 3 := by decide +kernel
  have hbrace : listing.get? 2 = some ['{'] := by decide +kernel
  have hbody : listing.get? 3 = some "x = true" := by decide +kernel
  obtain ⟨hstructural, hline, hsorted⟩ :=
    lines_that_run .default (fun _ => .epoch) source table hbuild
  obtain ⟨text, htext, hget, _⟩ := hline 2 (by rw [htotal]; decide)
  refine ⟨hbuild, hbrace, (hstructural 2 _ hbrace).1.mp (by decide), hbody, ?_,
    htotal, by decide +kernel, hsorted 0 2 (by decide) (by rw [htotal]; decide), text, htext, hget⟩
  exact fun h => absurd ((hstructural 3 _ hbody).1.mpr h) (by decide)

end Recording
end Stepwise
