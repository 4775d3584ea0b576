import Stepwise.Proofs.Playback

/-!
# Windows

A pane shows a window of its items. When it is drawn, its offset is moved to where the window is
full (`Scroll.settle_eq`), whatever it was before.

The source pane first chooses the offset that brings the current line to the target row, so that the
line is in the window however the target row and the height of the pane were changed
(`SourceScroll.showsLine_settle`, `current_line_in_window`).
-/

namespace Stepwise

/-! ### Windows -/

namespace Scroll
variable {α : Type} {rows offset : Nat} {items : List α}

/-- Only the number of items before the last page limits an offset. -/
theorem settle_eq (total rows offset : Nat) :
    settle total rows offset = min offset (total - rows) := by
  unfold settle
  split
  · rfl
  · omega

theorem length_window (rows offset : Nat) (items : List α) :
    (window rows offset items).length = min rows (items.length - offset) := by
  unfold window
  rw [List.length_take, List.length_drop]

theorem getElem?_window {i : Nat} (h : i < rows) :
    (window rows offset items)[i]? = items[offset + i]? := by
  unfold window
  rw [List.getElem?_take_of_lt h, List.getElem?_drop]

theorem down_furthest : down furthest = furthest := Nat.min_eq_right (Nat.le_succ furthest)

end Scroll

theorem visibleRows_pos (height : Nat) : 0 < visibleRows height := Nat.le_max_right _ _

/-! ### The source pane -/

/-- The lines of a listing stand at their numbers. -/
theorem Listing.exists_numbered (listing : Listing) {line : Nat} (hpos : 0 < line)
    (hle : line ≤ listing.size) :
    ∃ text, listing.get? line = some text ∧ listing.numbered[line - 1]? = some (text, line) := by
  obtain ⟨n, rfl⟩ : ∃ n, line = n + 1 := ⟨line - 1, by omega⟩
  have hline : listing.lines[n]? = some listing.lines[n] := List.getElem?_eq_getElem hle
  refine ⟨_, hline, ?_⟩
  show (listing.lines.zipIdx 1)[n]? = _
  rw [List.getElem?_zipIdx, hline, Nat.add_comm]
  rfl

namespace SourceScroll

/-- What can happen to the scroll state of the source pane. -/
inductive Act where
  | up
  | down
  /-- Drawing with a current line in a pane of some height. -/
  | draw (line height : Nat)
deriving Repr

/-- The scroll state after an act, on `total` lines. -/
def act (total : Nat) (s : SourceScroll) : Act → SourceScroll
  | .up => s.up
  | .down => s.down
  | .draw line height => s.settle total line height

/-- The scroll state after a sequence of acts. -/
def perform (total : Nat) (s : SourceScroll) (acts : List Act) : SourceScroll :=
  acts.foldl (act total) s

theorem perform_append (total : Nat) (s : SourceScroll) (acts acts' : List Act) :
    s.perform total (acts ++ acts') = (s.perform total acts).perform total acts' :=
  List.foldl_append

/-- The window of `rows` rows shows the line, and it shows it on the target row if the ends of the
    listing permit that. -/
structure ShowsLine (listing : Listing) (line rows : Nat) (s : SourceScroll) : Prop where
  offset_le : s.offset ≤ line - 1
  lt_end : line - 1 < s.offset + rows
  shown : ∃ text, listing.get? line = some text ∧
    (Scroll.window rows s.offset listing.numbered)[line - 1 - s.offset]? = some (text, line)
  /-- With more lines than rows the window is full. -/
  full : rows < listing.size → s.offset + rows ≤ listing.size
  whole : listing.size ≤ rows → s.offset = 0
  target : ∃ row, s.target = some row ∧ row < rows ∧
    (line - 1 = s.offset + row ∨ s.offset = 0 ∨ s.offset + rows = listing.size)

section line
variable {listing : Listing} {line : Nat} (hpos : 0 < line) (hle : line ≤ listing.size)
include hpos hle

/-- Drawing with a current line chooses a row for it, and the offset nearest to the one that brings
    it there. -/
theorem exists_settle_eq (height : Nat) (s : SourceScroll) :
    ∃ row < visibleRows height, s.settle listing.size line height =
      ⟨min (line - 1 - row) (listing.size - visibleRows height), some row⟩ := by
  have hrows := visibleRows_pos height
  refine ⟨min (s.target.getD (visibleRows height / 2)) (visibleRows height - 1), by omega, ?_⟩
  unfold settle
  dsimp only
  rw [if_pos ⟨hpos, hle⟩, Scroll.settle_eq]

/-- Such an offset shows the line. -/
theorem showsLine_of_row {rows row : Nat} (hrow : row < rows) :
    ShowsLine listing line rows ⟨min (line - 1 - row) (listing.size - rows), some row⟩ where
  offset_le := by
    dsimp only
    omega
  lt_end := by
    dsimp only
    omega
  shown := by
    obtain ⟨text, hget, hnumbered⟩ := listing.exists_numbered hpos hle
    refine ⟨text, hget, ?_⟩
    dsimp only
    rw [Scroll.getElem?_window (by omega), ← hnumbered]
    congr 1
    omega
  full := by
    dsimp only
    omega
  whole := by
    dsimp only
    omega
  target := by
    refine ⟨row, rfl, hrow, ?_⟩
    dsimp only
    omega

/-- Drawing brings the current line into the window. -/
theorem showsLine_settle (height : Nat) (s : SourceScroll) :
    ShowsLine listing line (visibleRows height) (s.settle listing.size line height) := by
  obtain ⟨row, hrow, hsettle⟩ := exists_settle_eq hpos hle height s
  rw [hsettle]
  exact showsLine_of_row hpos hle hrow

end line
end SourceScroll

/-! ### Drawing a player -/

namespace Player

section settle
variable (p : Player) (layout : Layout)

theorem source_settle :
    (p.settle layout).source =
      p.source.settle p.recording.listing.size p.snapshot.line layout.source.height := by
  unfold settle
  dsimp only

theorem output_settle :
    (p.settle layout).output =
      OutputPane.settle p.snapshot.output layout.output.height p.output := by
  unfold settle
  dsimp only

theorem bindings_settle :
    (p.settle layout).bindings =
      VariablesPane.settle p.snapshot.bindings layout.bindings.height p.bindings := by
  unfold settle
  dsimp only

theorem stack_settle :
    (p.settle layout).stack = StackPane.settle p.stackItems.length layout.stack.height p.stack := by
  unfold settle
  dsimp only

theorem trace_settle :
    (p.settle layout).trace = TracePane.settle p.traceItems.length layout.trace.height p.trace := by
  unfold settle
  dsimp only

theorem cursor_settle : (p.settle layout).cursor = p.cursor := by
  unfold settle
  rfl

theorem snapshot_settle : (p.settle layout).snapshot = p.snapshot := by
  unfold settle snapshot
  rfl

theorem stackItems_settle : (p.settle layout).stackItems = p.stackItems := by
  unfold stackItems
  rw [snapshot_settle]
  unfold settle
  rfl

theorem traceItems_settle : (p.settle layout).traceItems = p.traceItems := by
  unfold traceItems
  rw [snapshot_settle]

/-- Drawing a player brings the current line into the window of the source pane. -/
theorem showsLine_settle (hpos : 0 < p.snapshot.line)
    (hle : p.snapshot.line ≤ p.recording.listing.size) :
    SourceScroll.ShowsLine p.recording.listing (p.settle layout).snapshot.line
      (visibleRows layout.source.height) (p.settle layout).source := by
  rw [snapshot_settle, source_settle]
  exact SourceScroll.showsLine_settle hpos hle _ _

end settle
end Player

/-- Whenever the source pane is drawn with a current line, the window shows that line, whatever
    drawings at any heights and keys came before. The same holds in a player, whatever was done to
    it. -/
theorem current_line_in_window (listing : Listing) :
    (∀ (acts : List SourceScroll.Act) (line height : Nat), 0 < line → line ≤ listing.size →
      SourceScroll.ShowsLine listing line (visibleRows height)
        (SourceScroll.start.perform listing.size (acts ++ [.draw line height]))) ∧
      ∀ recording : Recording, recording.listing = listing →
        ∀ (interval : Nat) (now : Int) (acts : List Player.Act) (layout : Layout),
          let player := (Player.start recording interval now).perform (acts ++ [.draw layout])
          0 < player.snapshot.line → player.snapshot.line ≤ listing.size →
            SourceScroll.ShowsLine listing player.snapshot.line
              (visibleRows layout.source.height) player.source := by
  constructor
  · intro acts line height hpos hle
    rw [SourceScroll.perform_append]
    exact SourceScroll.showsLine_settle hpos hle height _
  · rintro recording rfl interval now acts layout player hpos hle
    have hwithin := (Player.within_start recording interval now).perform acts
    have hplayer : player = ((Player.start recording interval now).perform acts).settle layout :=
      Player.perform_append _ _ _
    clear_value player
    generalize (Player.start recording interval now).perform acts = before at hwithin hplayer
    obtain rfl := hwithin.recording_eq
    subst hplayer
    rw [Player.snapshot_settle] at hpos hle
    exact before.showsLine_settle _ hpos hle

/-- The target row of a high pane, moved by keys, does not fit into a lower one, and the window is
    neither at the beginning nor at the end. -/
theorem current_line_in_window_lower :
    let source : Text := "a = true\nb = a\nc = b\nd = c\ne = d"
    let recording := Recording.ofSource .default (fun _ => .epoch) source
    let s := SourceScroll.start.perform recording.listing.size
      ([.draw 0 9, .up, .up, .draw 5 7, .down] ++ [.draw 4 5])
    let layout : Layout := ⟨⟨44, 5⟩, ⟨44, 2⟩, ⟨36, 2⟩, ⟨36, 2⟩, ⟨36, 3⟩, ⟨80, 1⟩⟩
    let player := (Player.start recording 500 0).perform
      ([.draw { layout with source.height := 16 }, .press 0 .up, .press 0 (.char '4')] ++
        [.draw layout])
    (s = ⟨1, some 2⟩ ∧ SourceScroll.ShowsLine recording.listing 4 (visibleRows 5) s) ∧
      player.snapshot.line = 4 ∧ player.source = ⟨1, some 2⟩ ∧
      SourceScroll.ShowsLine recording.listing 4 (visibleRows layout.source.height)
        player.source := by
  intro source recording s layout player
  have hsize : recording.listing.size = 5 := by decide +kernel
  have hline : player.snapshot.line = 4 := by decide +kernel
  have hle : 4 ≤ recording.listing.size := by
    rw [hsize]
    decide
  obtain ⟨hpane, hplayer⟩ := current_line_in_window recording.listing
  refine ⟨⟨by decide +kernel, hpane _ 4 5 (by decide) hle⟩, hline, by decide +kernel, ?_⟩
  rw [← hline] at hle ⊢
  refine hplayer recording rfl 500 0 _ layout ?_ hle
  rw [hline]
  decide

end Stepwise
