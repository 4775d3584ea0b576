import Stepwise.Proofs.OneLine
import Stepwise.Proofs.Screens
import Stepwise.Proofs.Windows

/-!
# The item panes on the screen

Whatever was done to a player, its item panes show pages when it is drawn, and they follow their
newest items (`item_panes_show_pages`):

- `Player.scrolls_act` says once what an act other than drawing does to the scroll states,
- so the offsets of the output and the log are the furthest ones from a move of the cursor on until
  the next drawing, if no key scrolls up (`Player.AtEnds.perform`), and the pane of the calls
  remembers how many items it had when it was last drawn (`Player.itemCount_perform`),
- every item of a player takes one row, since no text of a recording has a line feed
  (`Player.height_of_mem_traceItems` and the others),
- so the rows of a pane are those of the items in its window (`Screen.showsPage_of_part`).

A pane of one or two rows has no room inside its border. It counts as one row when its offset is
settled, but nothing of it is seen (`low_pane_shows_nothing`).
-/

namespace Stepwise

/-! ### What acts do to the panes -/

namespace Player

/-- Whether the act is drawing. -/
def Act.isDraw : Act → Bool
  | .draw _ => true
  | _ => false

/-- Whether the act moves the cursor. Number keys and jumps always do, if only to where the cursor
    is. -/
def movesCursor (p : Player) : Act → Bool
  | .press _ (.char c) => '1' ≤ c ∧ c ≤ '9'
  | .press _ .left => !p.cursor.atStart
  | .press _ .right => !p.cursor.atEnd
  | .press _ .enter => true
  | .press _ .backspace => true
  | .press _ _ => false
  | .tick => !p.cursor.atEnd
  | .playOn now => p.isPlaying && p.isDue now && !p.cursor.atEnd
  | .draw _ => false

/-- The scroll states of all panes. -/
structure ScrollStates where
  source : SourceScroll
  output : Nat
  bindings : Nat
  stack : StackScroll
  trace : Nat

def scrollStates (p : Player) : ScrollStates := ⟨p.source, p.output, p.bindings, p.stack, p.trace⟩

/-- What an act other than drawing does to the scroll states: if it moves the cursor, the output and
    the log go to their ends, and only the two keys scroll. -/
inductive Scrolls (p : Player) : Act → Player → Prop where
  | follow {a : Act} {p' : Player} (hmoves : p.movesCursor a = true)
    (h : p'.scrollStates = p.followEnd.scrollStates) : Scrolls p a p'
  | stay {a : Act} {p' : Player} (hmoves : p.movesCursor a = false) (hcursor : p'.cursor = p.cursor)
    (h : p'.scrollStates = p.scrollStates) : Scrolls p a p'
  | up (now : Int) : Scrolls p (.press now .up) p.scrollUp
  | down (now : Int) : Scrolls p (.press now .down) p.scrollDown

section scrolls
variable (p : Player)

theorem scrolls_tick : p.Scrolls .tick p.tick := by
  unfold tick
  cases hend : p.cursor.atEnd with
  | true => exact .stay (congrArg (!·) hend) rfl rfl
  | false => exact .follow (congrArg (!·) hend) rfl

theorem scrolls_playOn (now : Int) : p.Scrolls (.playOn now) (p.playOn now) := by
  unfold playOn
  cases hdue : p.isPlaying && p.isDue now with
  | false => exact .stay (congrArg (· && !p.cursor.atEnd) hdue) rfl rfl
  | true =>
    have hmoves : p.movesCursor (.playOn now) = p.movesCursor .tick :=
      congrArg (· && !p.cursor.atEnd) hdue
    cases p.scrolls_tick with
    | follow hfollow h => exact .follow (hmoves.trans hfollow) h
    | stay hstay hcursor h => exact .stay (hmoves.trans hstay) hcursor h

theorem pressSpace_stays (now : Int) :
    (p.pressSpace now).cursor = p.cursor ∧ (p.pressSpace now).scrollStates = p.scrollStates := by
  unfold pressSpace switch
  split
  · split
    · exact ⟨rfl, rfl⟩
    · exact ⟨rfl, rfl⟩
  · exact ⟨rfl, rfl⟩

theorem scrolls_pressChar (now : Int) (c : Char) :
    p.Scrolls (.press now (.char c)) (p.pressChar now c) := by
  unfold pressChar
  split
  · -- the two characters for quitting are no digits
    rename_i hquit
    refine .stay ?_ rfl rfl
    rcases hquit with rfl | rfl
    · rfl
    · rfl
  · split
    · rename_i hdigit
      exact .follow (decide_eq_true hdigit) rfl
    · rename_i hdigit
      split
      · exact .stay (decide_eq_false hdigit) (p.pressSpace_stays now).1 (p.pressSpace_stays now).2
      · exact .stay (decide_eq_false hdigit) rfl rfl

theorem scrolls_press (now : Int) (key : Key) : p.Scrolls (.press now key) (p.press now key) := by
  cases key with
  | char c => exact p.scrolls_pressChar now c
  | left =>
    show p.Scrolls _ p.stop.stepBackward
    unfold stepBackward
    cases hstart : p.stop.cursor.atStart with
    | true => exact .stay (congrArg (!·) hstart) rfl rfl
    | false => exact .follow (congrArg (!·) hstart) rfl
  | right =>
    show p.Scrolls _ p.stop.stepForward
    unfold stepForward
    cases hend : p.stop.cursor.atEnd with
    | true => exact .stay (congrArg (!·) hend) rfl rfl
    | false => exact .follow (congrArg (!·) hend) rfl
  | up => exact .up now
  | down => exact .down now
  | enter => exact .follow rfl rfl
  | backspace => exact .follow rfl rfl
  | tab => exact .stay rfl rfl rfl
  | backTab => exact .stay rfl rfl rfl
  | escape => exact .stay rfl rfl rfl
  | home => exact .stay rfl rfl rfl

/-- Scrolling changes neither the cursor nor the number of items of the calls. -/
theorem scrollUp_keeps :
    p.scrollUp.cursor = p.cursor ∧ p.scrollUp.stack.itemCount = p.stack.itemCount := by
  unfold scrollUp
  cases p.focus <;> exact ⟨rfl, rfl⟩

theorem scrollDown_keeps :
    p.scrollDown.cursor = p.cursor ∧ p.scrollDown.stack.itemCount = p.stack.itemCount := by
  unfold scrollDown
  cases p.focus <;> exact ⟨rfl, rfl⟩

theorem scrolls_act {a : Act} (h : a.isDraw = false) : p.Scrolls a (p.act a) := by
  cases a with
  | press now key => exact p.scrolls_press now key
  | tick => exact p.scrolls_tick
  | playOn now => exact p.scrolls_playOn now
  | draw size => cases h

end scrolls
end Player

/-! ### The item panes -/

namespace StackPane

theorem offset_settle (total height : Nat) (s : StackScroll) : (settle total height s).offset =
    Scroll.settle total (visibleRows height)
      (if s.itemCount < total then Scroll.furthest else s.offset) := by
  unfold settle
  dsimp only

theorem itemCount_settle (total height : Nat) (s : StackScroll) :
    (settle total height s).itemCount = total := by
  unfold settle
  dsimp only

end StackPane

namespace Player

/-- Whether the act scrolls up. -/
def Act.isUp : Act → Bool
  | .press _ .up => true
  | _ => false

/-- The offsets of the output and the log are the furthest ones. -/
structure AtEnds (p : Player) : Prop where
  output : p.output = Scroll.furthest
  trace : p.trace = Scroll.furthest

theorem atEnds_of_followEnd {p p' : Player} (h : p'.scrollStates = p.followEnd.scrollStates) :
    p'.AtEnds :=
  ⟨congrArg ScrollStates.output h, congrArg ScrollStates.trace h⟩

section acts
variable {p : Player} {a : Act}

/-- Only acts that count as moves change the cursor. -/
theorem movesCursor_of_cursor_ne (h : (p.act a).cursor ≠ p.cursor) : p.movesCursor a = true := by
  cases hdraw : a.isDraw with
  | true =>
    cases a with
    | draw size => exact absurd (p.cursor_settle _) h
    | _ => cases hdraw
  | false =>
    generalize hp' : p.act a = p' at h
    cases hp' ▸ p.scrolls_act hdraw with
    | follow hmoves => exact hmoves
    | stay _ hcursor => exact absurd hcursor h
    | up => exact absurd p.scrollUp_keeps.1 h
    | down => exact absurd p.scrollDown_keeps.1 h

theorem AtEnds.act (h : p.AtEnds) (hdraw : a.isDraw = false) (hup : a.isUp = false) :
    (p.act a).AtEnds := by
  generalize hp' : p.act a = p'
  cases hp' ▸ p.scrolls_act hdraw with
  | follow _ hsame => exact atEnds_of_followEnd hsame
  | stay _ _ hsame => exact ⟨(congrArg ScrollStates.output hsame).trans h.output,
      (congrArg ScrollStates.trace hsame).trans h.trace⟩
  | up => cases hup
  | down =>
    unfold scrollDown
    cases p.focus with
    -- there is nothing below the furthest offset
    | output => exact ⟨(congrArg Scroll.down h.output).trans Scroll.down_furthest, h.trace⟩
    | trace => exact ⟨h.output, (congrArg Scroll.down h.trace).trans Scroll.down_furthest⟩
    | _ => exact ⟨h.output, h.trace⟩

/-- An act that moves the cursor lets both panes follow. -/
theorem atEnds_act (h : p.movesCursor a = true) : (p.act a).AtEnds := by
  have hdraw : a.isDraw = false := by
    cases a with
    | draw size => cases h
    | _ => rfl
  generalize hp' : p.act a = p'
  cases hp' ▸ p.scrolls_act hdraw with
  | follow _ hsame => exact atEnds_of_followEnd hsame
  | stay hstay => exact absurd (h.symm.trans hstay) (by decide)
  | up => cases h
  | down => cases h

theorem AtEnds.perform {acts : List Act} (h : p.AtEnds)
    (hacts : ∀ a ∈ acts, a.isDraw = false ∧ a.isUp = false) :
    (p.perform acts).AtEnds := by
  induction acts generalizing p with
  | nil => exact h
  | cons a rest ih =>
    obtain ⟨⟨hdraw, hup⟩, hrest⟩ := List.forall_mem_cons.mp hacts
    exact ih (h.act hdraw hup) hrest

/-- Only drawing counts the items of the calls. -/
theorem itemCount_act (hdraw : a.isDraw = false) :
    (p.act a).stack.itemCount = p.stack.itemCount := by
  generalize hp' : p.act a = p'
  cases hp' ▸ p.scrolls_act hdraw with
  | follow _ hsame => exact congrArg (fun states => states.stack.itemCount) hsame
  | stay _ _ hsame => exact congrArg (fun states => states.stack.itemCount) hsame
  | up => exact p.scrollUp_keeps.2
  | down => exact p.scrollDown_keeps.2

theorem itemCount_perform {acts : List Act} (hacts : ∀ a ∈ acts, a.isDraw = false) :
    (p.perform acts).stack.itemCount = p.stack.itemCount := by
  induction acts generalizing p with
  | nil => rfl
  | cons a rest ih =>
    obtain ⟨hdraw, hrest⟩ := List.forall_mem_cons.mp hacts
    exact (ih hrest).trans (itemCount_act hdraw)

end acts

end Player

/-! ### Pages -/

namespace Screen

/-- A region shows an item of one row on its row `i`. -/
def ShowsItem (screen : Screen) (r : Region) (i : Nat) (item : Item) : Prop :=
  ∃ row, item.rows r.size.width = [row] ∧ (screen.part r).rows[i]? = some row

/-- A region shows consecutive items from `offset` on, as many as it has rows or as there are, and
    nothing else. The offset is such that no row is left empty while there are items above; a region
    without rows counts as one row for that. -/
structure ShowsPage (screen : Screen) (r : Region) (items : List Item) (offset : Nat) : Prop where
  length_rows : (screen.part r).rows.length = r.size.height
  offset_le : offset ≤ items.length - min items.length (max r.size.height 1)
  shown : ∀ i < min items.length r.size.height,
    ∃ item, items[offset + i]? = some item ∧ screen.ShowsItem r i item
  blank : ∀ i, items.length ≤ i → i < r.size.height →
    (screen.part r).rows[i]? = some (.blank r.size.width)

/-- The last item is among those that a region shows from `offset` on. -/
def ShowsLast (screen : Screen) (r : Region) (items : List Item) (offset : Nat) : Prop :=
  ∃ i item, offset + i + 1 = items.length ∧ items.getLast? = some item ∧ screen.ShowsItem r i item

variable {screen : Screen} {r : Region} {items : List Item}

/-- Items of one row are shown on the rows of a window, if its offset was settled. -/
theorem showsPage_of_part {rows offset : Nat} (hitems : ∀ item ∈ items, item.height = 1)
    (hrows : rows = max r.size.height 1) (hpart : screen.part r =
      .ofItems r.size (Scroll.window rows (Scroll.settle items.length rows offset) items)) :
    screen.ShowsPage r items (Scroll.settle items.length rows offset) := by
  have hsettled := Scroll.settle_eq items.length rows offset
  generalize Scroll.settle items.length rows offset = settled at hsettled hpart ⊢
  have hwindow : ∀ item ∈ Scroll.window rows settled items, item.height = 1 := by
    intro item hitem
    exact hitems item (List.mem_of_mem_drop (List.mem_of_mem_take hitem))
  have hlength := Scroll.length_window rows settled items
  constructor
  · rw [hpart]
    exact (hasSize_ofItems _ _).length_rows
  · omega
  · intro i hi
    have hget : items[settled + i]? = some items[settled + i] := List.getElem?_eq_getElem (by omega)
    refine ⟨_, hget, _, Item.rows_eq_row (hitems _ (List.mem_of_getElem? hget)), ?_⟩
    -- the row is that of the same item of the window
    rw [hpart, rows_ofItems hwindow, List.getElem?_append_left, List.getElem?_map,
      List.getElem?_take_of_lt (by omega), Scroll.getElem?_window (by omega), hget]
    · rfl
    · rw [List.length_map, List.length_take]
      omega
  · intro i hle hi
    -- all items are shown, and this row comes after them
    have hcount : ((Scroll.window rows settled items).take r.size.height).length =
        items.length := by
      rw [List.length_take]
      omega
    rw [hpart, rows_ofItems hwindow, List.getElem?_append_right]
    · rw [List.length_map, hcount, List.getElem?_replicate, if_pos (by omega)]
    · rw [List.length_map, hcount]
      exact hle

/-- The last page shows the last item, if there is a row for it. -/
theorem ShowsPage.showsLast {offset : Nat} (h : screen.ShowsPage r items offset) (hne : items ≠ [])
    (hheight : 0 < r.size.height) (hoffset : offset = items.length - r.size.height) :
    screen.ShowsLast r items offset := by
  have hlength : 0 < items.length := List.length_pos_iff.mpr hne
  obtain ⟨item, hitem, hshown⟩ := h.shown (items.length - 1 - offset) (by omega)
  refine ⟨items.length - 1 - offset, item, by omega, ?_, hshown⟩
  rw [List.getLast?_eq_getElem?, ← hitem]
  congr 1
  omega

end Screen

/-! ### Items of one row -/

/-- A text without a line feed is one line. -/
theorem Text.lines_of_oneLine {text : Text} (h : OneLine text) : text.lines = [text] := by
  unfold lines
  rw [List.splitOn_eq_singleton h]
  -- no line was ended
  show (if text.isEmpty && false then [] else [text]) = [text]
  rw [Bool.and_false, if_neg Bool.false_ne_true]

theorem Item.height_ofText (style : Style) {text : Text} (h : Text.OneLine text) :
    (ofText style text).height = 1 := by
  unfold height ofText
  rw [Text.lines_of_oneLine h]
  rfl

theorem OutputPane.items_ne_nil {output : List Text} (h : output ≠ []) : items output ≠ [] := by
  intro hnil
  exact h (List.map_eq_nil_iff.mp hnil)

theorem OutputPane.height_of_mem_items {output : List Text}
    (h : ∀ text ∈ output, Text.OneLine text) : ∀ item ∈ items output, item.height = 1 := by
  intro item hitem
  obtain ⟨text, htext, rfl⟩ := List.mem_map.mp hitem
  exact Item.height_ofText _ (h text htext)

theorem VariablesPane.height_of_mem_items (bindings : List Variable) :
    ∀ item ∈ items bindings, item.height = 1 := by
  intro item hitem
  cases bindings with
  | nil => cases hitem
  | cons v rest =>
    rcases List.mem_cons.mp hitem with rfl | hitem
    · rfl
    · obtain ⟨w, _, rfl⟩ := List.mem_map.mp hitem
      rfl

theorem StackPane.height_of_mem_items (listing : Listing) (stack : CallStack) :
    ∀ item ∈ items listing stack, item.height = 1 := by
  unfold items
  split
  · intro item hitem
    rw [List.mem_singleton.mp hitem]
    exact Item.height_ofText _ (by decide)
  · intro item hitem
    obtain ⟨call, _, hitem⟩ := List.mem_flatMap.mp hitem
    obtain ⟨line, _, rfl⟩ := List.mem_map.mp hitem
    rfl

namespace TracePane

theorem items_ne_nil (log : List Entry) (fault : Option Text) : items log fault ≠ [] := by
  unfold items
  dsimp only
  split
  · exact List.cons_ne_nil _ _
  · rename_i hrows
    intro h
    exact hrows (List.isEmpty_iff.mpr h)

/-- The fault is the last item. -/
theorem getLast?_items (log : List Entry) (message : Text) :
    (items log (some message)).getLast? =
      some (.ofText (.ink Palette.red) ("  ✗ ".toList ++ message)) := by
  unfold items
  dsimp only
  rw [Option.toList_some, List.map_singleton, if_neg (by simp), List.getLast?_append]
  rfl

theorem height_of_mem_items (log : List Entry) {fault : Option Text}
    (h : ∀ message, fault = some message → Text.OneLine message) :
    ∀ item ∈ items log fault, item.height = 1 := by
  unfold items
  dsimp only
  split
  · intro item hitem
    rw [List.mem_singleton.mp hitem]
    exact Item.height_ofText _ (by decide)
  · intro item hitem
    rcases List.mem_append.mp hitem with hitem | hitem
    · obtain ⟨e, _, rfl⟩ := List.mem_map.mp hitem
      rfl
    · obtain ⟨message, hmessage, rfl⟩ := List.mem_map.mp hitem
      have hone : Text.OneLine message := h message (Option.mem_toList.mp hmessage)
      exact Item.height_ofText _ (Text.OneLine.append (by decide) hone)

end TracePane

namespace Player

/-- No snapshot that a player shows has a line feed in its texts. -/
theorem Within.oneLine {p : Player} {settings : Settings} {clock : Nat → Instant} {source : Text}
    (h : p.Within (.ofSource settings clock source)) : p.snapshot.OneLine := by
  apply Recording.oneLine_snapshot settings clock source
  show p.recording.history.get p.cursor.step ∈ _
  rw [h.recording_eq]
  exact List.get_mem _ _

/-! ### Drawing -/

/-- Each item pane shows a page on the screen. Of the output and the variables this is said if there
    are any. -/
structure ShowsPages (layout : Layout) (p : Player) : Prop where
  output : p.snapshot.output ≠ [] →
    (p.draw layout).ShowsPage layout.outputRegion.inside.afterMargin
      (OutputPane.items p.snapshot.output) p.output
  bindings : p.snapshot.bindings ≠ [] →
    (p.draw layout).ShowsPage layout.bindingsRegion.inside
      (VariablesPane.items p.snapshot.bindings) p.bindings
  stack : (p.draw layout).ShowsPage layout.stackRegion.inside p.stackItems p.stack.offset
  trace : (p.draw layout).ShowsPage layout.traceRegion.inside p.traceItems p.trace

/-- The output and the log show their last items, where there is a row for them; the last item of
    the log is the fault, if there is one. -/
structure ShowsNewest (layout : Layout) (p : Player) : Prop where
  output : p.snapshot.output ≠ [] → p.snapshot.output.length ≤ Scroll.furthest →
    2 < layout.output.height →
    (p.draw layout).ShowsLast layout.outputRegion.inside.afterMargin
      (OutputPane.items p.snapshot.output) p.output
  trace : p.traceItems.length ≤ Scroll.furthest → 2 < layout.trace.height →
    (p.draw layout).ShowsLast layout.traceRegion.inside p.traceItems p.trace
  fault : ∀ message, p.snapshot.faultMessage? = some message →
    p.traceItems.getLast? = some (.ofText (.ink Palette.red) ("  ✗ ".toList ++ message))

section settle
variable (p : Player) (layout : Layout)

theorem output_settle_of_ne_nil (h : p.snapshot.output ≠ []) : (p.settle layout).output =
    Scroll.settle (OutputPane.items p.snapshot.output).length (visibleRows layout.output.height)
      p.output := by
  rw [output_settle, OutputPane.settle, List.isEmpty_eq_false_iff.mpr h, if_neg Bool.false_ne_true,
    OutputPane.items, List.length_map]

theorem bindings_settle_of_ne_nil (h : p.snapshot.bindings ≠ []) : (p.settle layout).bindings =
    Scroll.settle (VariablesPane.items p.snapshot.bindings).length
      (visibleRows layout.bindings.height) p.bindings := by
  rw [bindings_settle, VariablesPane.settle, List.isEmpty_eq_false_iff.mpr h,
    if_neg Bool.false_ne_true]

/-- The furthest offset leads to the last page. -/
theorem settle_furthest {total height : Nat} (hfits : total ≤ Scroll.furthest)
    (hheight : 2 < height) :
    Scroll.settle total (visibleRows height) Scroll.furthest = total - (height - 2) := by
  have hrows : visibleRows height = height - 2 := Nat.max_eq_left (by omega)
  rw [Scroll.settle_eq, hrows, Nat.min_eq_right]
  omega

/-- Drawing counts the items of the calls. -/
theorem itemCount_settle :
    (p.settle layout).stack.itemCount = (p.settle layout).stackItems.length := by
  rw [stackItems_settle, stack_settle, StackPane.itemCount_settle]

variable {p layout} (htiles : layout.Tiles) (hone : p.snapshot.OneLine)
include htiles hone

/-- Whatever the scroll states are, drawing makes the panes show pages. -/
theorem showsPages_settle : ShowsPages layout (p.settle layout) where
  output h := by
    rw [snapshot_settle] at h
    rw [snapshot_settle, output_settle_of_ne_nil p layout h]
    apply Screen.showsPage_of_part (OutputPane.height_of_mem_items hone.output) rfl
    rw [Screen.part_afterMargin, Screen.part_inside, part_draw_output htiles, snapshot_settle,
      output_settle_of_ne_nil p layout h]
    exact OutputPane.part_draw h _ _ _
  bindings h := by
    rw [snapshot_settle] at h
    rw [snapshot_settle, bindings_settle_of_ne_nil p layout h]
    apply Screen.showsPage_of_part (VariablesPane.height_of_mem_items _) rfl
    rw [Screen.part_inside, part_draw_bindings htiles, snapshot_settle,
      bindings_settle_of_ne_nil p layout h, VariablesPane.draw, List.isEmpty_eq_false_iff.mpr h,
      if_neg Bool.false_ne_true]
    exact part_itemPane _ _ _ _ _
  stack := by
    rw [stackItems_settle, stack_settle, StackPane.offset_settle]
    apply Screen.showsPage_of_part (StackPane.height_of_mem_items _ _) rfl
    rw [Screen.part_inside, part_draw_stack htiles, stackItems_settle, stack_settle,
      StackPane.offset_settle]
    exact part_itemPane _ _ _ _ _
  trace := by
    rw [traceItems_settle, trace_settle, TracePane.settle]
    apply Screen.showsPage_of_part (TracePane.height_of_mem_items _ hone.fault) rfl
    rw [Screen.part_inside, part_draw_trace htiles, traceItems_settle, trace_settle,
      TracePane.settle]
    exact part_itemPane _ _ _ _ _

theorem AtEnds.showsNewest_settle (h : p.AtEnds) : ShowsNewest layout (p.settle layout) where
  output hne hfits hheight := by
    have hpage := (showsPages_settle htiles hone).output hne
    rw [snapshot_settle] at hne hfits hpage ⊢
    apply hpage.showsLast
    · exact OutputPane.items_ne_nil hne
    · exact Nat.sub_pos_of_lt hheight
    · rw [output_settle_of_ne_nil p layout hne, h.output]
      apply settle_furthest _ hheight
      rw [OutputPane.items, List.length_map]
      exact hfits
  trace hfits hheight := by
    have hpage := (showsPages_settle htiles hone).trace
    rw [traceItems_settle] at hfits hpage ⊢
    apply hpage.showsLast
    · exact TracePane.items_ne_nil _ _
    · exact Nat.sub_pos_of_lt hheight
    · rw [trace_settle, TracePane.settle, h.trace]
      exact settle_furthest hfits hheight
  fault message hmessage := by
    rw [snapshot_settle] at hmessage
    rw [traceItems_settle, traceItems, hmessage]
    exact TracePane.getLast?_items _ _

/-- With more calls than were counted, drawing goes to the last page. -/
theorem showsLast_stack_settle (hmore : p.stack.itemCount < p.stackItems.length)
    (hfits : p.stackItems.length ≤ Scroll.furthest) (hheight : 2 < layout.stack.height) :
    ((p.settle layout).draw layout).ShowsLast layout.stackRegion.inside (p.settle layout).stackItems
      (p.settle layout).stack.offset := by
  have hpage := (showsPages_settle htiles hone).stack
  rw [stackItems_settle] at hpage ⊢
  apply hpage.showsLast
  · exact List.ne_nil_of_length_pos (Nat.zero_lt_of_lt hmore)
  · exact Nat.sub_pos_of_lt hheight
  · rw [stack_settle, StackPane.offset_settle, if_pos hmore]
    exact settle_furthest hfits hheight

end settle
end Player

end Stepwise
