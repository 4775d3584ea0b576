import Stepwise.Player.Viewer

/-!
# Parts of screens

What stands in a rectangle of a screen is cut out of it by `Screen.part`. A screen that is put
together from others has them as its parts, if each fills its rectangle (`Screen.HasSize`):

- `part_beside_left`, `part_beside_right`, `part_above_top`, `part_above_bottom` for screens beside
  and above each other,
- `part_bordered`: inside a border stands what was put there,
- `rows_ofItems`: items of one row each stand below each other, and the rows after them are blank.

So the panes of a player are found again on its screen, where its layout has put them
(`Player.part_draw_output` and the others). This needs a layout whose columns have the same height
and whose panes are as wide as their columns (`Layout.Tiles`).
-/

namespace Stepwise

/-! ### Rows -/

namespace Row

/-- The cells of a row from a column on, at most `width` of them. -/
def part (column width : Nat) (row : Row) : Row := (row.drop column).take width

theorem length_writeSymbols (row : Row) (symbols : List (Char × Style)) :
    (row.writeSymbols symbols).length = row.length := by
  fun_induction writeSymbols row symbols with
  | case1 row => rfl
  | case2 symbol rest => rfl
  | case3 => rfl
  | case4 => rfl
  | case5 cell next row c style rest hwide ih =>
    simp only [List.length_cons, ih]
  | case6 cell next row c style rest hwide ih =>
    simp only [List.length_cons] at ih ⊢
    rw [ih]

theorem length_write (line : Line) (row : Row) : (row.write line).length = row.length :=
  length_writeSymbols row _

theorem length_restyle (style : Style) (row : Row) : (row.restyle style).length = row.length :=
  List.length_map _

theorem length_blank (width : Nat) : (blank width).length = width := List.length_replicate

/-- What is written on a row before others is not cut by them. -/
theorem part_append_left {left right : Row} {column width : Nat}
    (h : column + width ≤ left.length) :
    part column width (left ++ right) = part column width left := by
  unfold part
  rw [List.drop_append_of_le_length (by omega), List.take_append_of_le_length]
  rw [List.length_drop]
  omega

theorem part_append_right (left right : Row) (column width : Nat) :
    part (left.length + column) width (left ++ right) = part column width right := by
  unfold part
  rw [List.drop_length_add_append]

end Row

/-! ### Sizes -/

namespace Screen

/-- The screen fills a rectangle. -/
structure HasSize (screen : Screen) (size : Size) : Prop where
  length_rows : screen.rows.length = size.height
  length_row : ∀ row ∈ screen.rows, row.length = size.width

theorem eq_of_rows {screen screen' : Screen} (h : screen.rows = screen'.rows) :
    screen = screen' := by
  cases screen
  exact congrArg mk h

theorem hasSize_blank (size : Size) : (blank size).HasSize size where
  length_rows := List.length_replicate
  length_row := by
    intro row hrow
    rw [List.eq_of_mem_replicate hrow]
    exact Row.length_blank _

variable {screen left right top bottom : Screen} {size : Size}

theorem HasSize.restyle (h : screen.HasSize size) (style : Style) :
    (screen.restyle style).HasSize size where
  length_rows := (List.length_map _).trans h.length_rows
  length_row := by
    intro row hrow
    obtain ⟨before, hbefore, rfl⟩ := List.mem_map.mp hrow
    exact (Row.length_restyle style before).trans (h.length_row before hbefore)

theorem HasSize.overlay (h : screen.HasSize size) {rows : List Row}
    (hrows : ∀ row ∈ rows, row.length = size.width) : (screen.overlay rows).HasSize size where
  length_rows := by
    unfold Screen.overlay
    simp only [List.length_take, List.length_append, List.length_drop, h.length_rows]
    omega
  length_row := by
    intro row hrow
    rcases List.mem_append.mp (List.mem_of_mem_take hrow) with hnew | hold
    · exact hrows row hnew
    · exact h.length_row row (List.mem_of_mem_drop hold)

theorem HasSize.write (h : screen.HasSize size) (lines : List Line) :
    (screen.write lines).HasSize size := by
  apply h.overlay
  intro row hrow
  obtain ⟨i, hi⟩ := List.mem_iff_getElem?.mp hrow
  obtain ⟨line, before, _, hbefore, rfl⟩ := List.getElem?_zipWith_eq_some.mp hi
  exact (Row.length_write line before).trans (h.length_row before (List.mem_of_getElem? hbefore))

theorem HasSize.beside {width width' height : Nat} (hleft : left.HasSize ⟨width, height⟩)
    (hright : right.HasSize ⟨width', height⟩) :
    (left.beside right).HasSize ⟨width + width', height⟩ where
  length_rows := by
    unfold Screen.beside
    rw [List.length_zipWith, hleft.length_rows, hright.length_rows, Nat.min_self]
  length_row := by
    intro row hmem
    obtain ⟨i, hi⟩ := List.mem_iff_getElem?.mp hmem
    obtain ⟨first, second, hfirst, hsecond, rfl⟩ := List.getElem?_zipWith_eq_some.mp hi
    rw [List.length_append, hleft.length_row first (List.mem_of_getElem? hfirst),
      hright.length_row second (List.mem_of_getElem? hsecond)]

theorem HasSize.above {width height height' : Nat} (htop : top.HasSize ⟨width, height⟩)
    (hbottom : bottom.HasSize ⟨width, height'⟩) :
    (top.above bottom).HasSize ⟨width, height + height'⟩ where
  length_rows := by
    unfold Screen.above
    rw [List.length_append, htop.length_rows, hbottom.length_rows]
  length_row := by
    intro row hrow
    rcases List.mem_append.mp hrow with hmem | hmem
    · exact htop.length_row row hmem
    · exact hbottom.length_row row hmem

theorem length_edge (first last : Char) (title : Text) (width : Nat) :
    (edge first last title width).length = width := by
  rcases width with _ | _ | width
  · rfl
  · rfl
  · simp only [edge, List.length_append, List.length_cons, List.length_take, List.length_nil,
      List.length_replicate]
    omega

theorem length_symbolRow (style : Style) (symbols : Text) :
    (symbolRow style symbols).length = symbols.length := List.length_map _

/-- A border fits around what fills its inside. -/
theorem hasSize_bordered {content : Screen} (title : Text) (style : Style)
    (h : content.HasSize size.inside) : (bordered title style size content).HasSize size := by
  obtain ⟨width, height⟩ := size
  have hedge : ∀ first last title,
      (symbolRow style (edge first last title width)).length = width := by
    intro first last title
    rw [length_symbolRow, length_edge]
  rcases height with _ | _ | height
  · exact ⟨rfl, fun row hrow => by cases hrow⟩
  · refine ⟨rfl, fun row hrow => ?_⟩
    rw [List.mem_singleton.mp hrow]
    exact hedge _ _ _
  · have hrows : content.rows.length = height := h.length_rows
    have hwidth : ∀ row ∈ content.rows, row.length = width - 2 := h.length_row
    constructor
    · simp only [bordered, List.cons_append, List.length_cons, List.length_append, List.length_map,
        List.length_nil, hrows]
    · intro row hrow
      rcases List.mem_append.mp hrow with hrow | hrow
      · rcases List.mem_cons.mp hrow with rfl | hrow
        · exact hedge _ _ _
        · -- a row between the two sides
          obtain ⟨inner, hinner, rfl⟩ := List.mem_map.mp hrow
          simp only [List.length_take, List.length_append, length_symbolRow, List.length_cons,
            List.length_nil, hwidth inner hinner]
          omega
      · rw [List.mem_singleton.mp hrow]
        exact hedge _ _ _

end Screen

/-! ### Parts -/

/-- A rectangle on a screen. -/
structure Region where
  column : Nat
  row : Nat
  size : Size
deriving DecidableEq, Repr

namespace Region

/-- The region inside a border. -/
def inside (r : Region) : Region := ⟨r.column + 1, r.row + 1, r.size.inside⟩

/-- The region after an empty column. -/
def afterMargin (r : Region) : Region :=
  ⟨r.column + min 1 r.size.width, r.row, ⟨r.size.width - 1, r.size.height⟩⟩

end Region

namespace Screen

/-- What stands in a region of a screen. -/
def part (screen : Screen) (r : Region) : Screen :=
  ⟨((screen.rows.drop r.row).take r.size.height).map (Row.part r.column r.size.width)⟩

variable {screen left right top bottom : Screen} {size : Size} {r : Region}

/-- A screen is a part of itself. -/
theorem part_whole (h : screen.HasSize size) : screen.part ⟨0, 0, size⟩ = screen := by
  apply eq_of_rows
  show (screen.rows.take size.height).map (Row.part 0 size.width) = screen.rows
  rw [List.take_of_length_le (Nat.le_of_eq h.length_rows)]
  refine (List.map_congr_left (g := id) ?_).trans (List.map_id _)
  intro row hrow
  exact List.take_of_length_le (Nat.le_of_eq (h.length_row row hrow))

/-- A part of a part is a part. -/
theorem part_part {r' : Region} (hheight : r'.size.height ≤ r.size.height - r'.row)
    (hwidth : r'.size.width ≤ r.size.width - r'.column) :
    (screen.part r).part r' =
      screen.part ⟨r.column + r'.column, r.row + r'.row, r'.size⟩ := by
  have hrow : ∀ row : Row, Row.part r'.column r'.size.width (Row.part r.column r.size.width row) =
      Row.part (r.column + r'.column) r'.size.width row := by
    intro row
    unfold Row.part
    rw [List.drop_take, List.take_take, List.drop_drop, Nat.min_eq_left hwidth]
  apply eq_of_rows
  unfold part
  simp only [← List.map_drop, ← List.map_take, List.map_map]
  rw [List.drop_take, List.take_take, List.drop_drop, Nat.min_eq_left hheight]
  apply List.map_congr_left
  intro row _
  exact hrow row

theorem part_inside (screen : Screen) (r : Region) :
    screen.part r.inside = (screen.part r).part (Region.inside ⟨0, 0, r.size⟩) := by
  rw [part_part]
  · rfl
  · exact Nat.sub_le_sub_left (Nat.le_succ 1) _
  · exact Nat.sub_le_sub_left (Nat.le_succ 1) _

theorem part_afterMargin (screen : Screen) (r : Region) :
    screen.part r.afterMargin = (screen.part r).part (Region.afterMargin ⟨0, 0, r.size⟩) := by
  have hcolumn : r.column + (0 + min 1 r.size.width) = r.column + min 1 r.size.width := by
    rw [Nat.zero_add]
  rw [part_part]
  · show _ = screen.part ⟨r.column + (0 + min 1 r.size.width), r.row, _⟩
    rw [hcolumn]
    rfl
  · exact Nat.le_refl _
  · show r.size.width - 1 ≤ r.size.width - (0 + min 1 r.size.width)
    omega

theorem part_above_top (h : r.row + r.size.height ≤ top.rows.length) :
    (top.above bottom).part r = top.part r := by
  unfold part above
  rw [List.drop_append_of_le_length (by omega), List.take_append_of_le_length]
  rw [List.length_drop]
  omega

theorem part_above_bottom (column row : Nat) (size : Size) :
    (top.above bottom).part ⟨column, top.rows.length + row, size⟩ =
      bottom.part ⟨column, row, size⟩ := by
  unfold part above
  rw [List.drop_length_add_append]

/-- Where one of two lists decides, the other one only has to be long enough. -/
theorem zipWith_eq_map_left {α β γ : Type} {f : α → β → γ} {g : α → γ} {as : List α} {bs : List β}
    (hlength : as.length = bs.length) (h : ∀ a ∈ as, ∀ b ∈ bs, f a b = g a) :
    List.zipWith f as bs = as.map g := by
  induction as generalizing bs with
  | nil => exact List.zipWith_nil_left
  | cons a as ih =>
    cases bs with
    | nil => cases hlength
    | cons b bs =>
      rw [List.zipWith_cons_cons, List.map_cons, h a List.mem_cons_self b List.mem_cons_self,
        ih (Nat.succ.inj hlength)]
      intro a ha b hb
      exact h a (List.mem_cons_of_mem _ ha) b (List.mem_cons_of_mem _ hb)

/-- The rows of a part of two screens beside each other, cut out of both at once. -/
theorem rows_part_beside (left right : Screen) (r : Region) : ((left.beside right).part r).rows =
    List.zipWith (fun row row' => Row.part r.column r.size.width (row ++ row'))
      ((left.rows.drop r.row).take r.size.height) ((right.rows.drop r.row).take r.size.height) := by
  unfold part beside
  rw [List.drop_zipWith, List.take_zipWith, List.map_zipWith]

section beside
variable {width width' height : Nat} (hleft : left.HasSize ⟨width, height⟩)
  (hright : right.HasSize ⟨width', height⟩)
include hleft hright

theorem part_beside_left (h : r.column + r.size.width ≤ width) :
    (left.beside right).part r = left.part r := by
  apply eq_of_rows
  rw [rows_part_beside]
  apply zipWith_eq_map_left
  · simp only [List.length_take, List.length_drop, hleft.length_rows, hright.length_rows]
  · intro row hrow row' _
    apply Row.part_append_left
    rw [hleft.length_row row (List.mem_of_mem_drop (List.mem_of_mem_take hrow))]
    exact h

theorem part_beside_right (column row : Nat) (size : Size) :
    (left.beside right).part ⟨width + column, row, size⟩ = right.part ⟨column, row, size⟩ := by
  apply eq_of_rows
  rw [rows_part_beside, List.zipWith_comm]
  apply zipWith_eq_map_left
  · simp only [List.length_take, List.length_drop, hleft.length_rows, hright.length_rows]
  · intro row' _ row hrow
    have hwidth : row.length = width :=
      hleft.length_row row (List.mem_of_mem_drop (List.mem_of_mem_take hrow))
    rw [← hwidth]
    exact Row.part_append_right row row' column size.width

end beside

/-- Inside a border stands what was put there. -/
theorem part_bordered {content : Screen} (title : Text) (style : Style)
    (h : content.HasSize size.inside) :
    (bordered title style size content).part (Region.inside ⟨0, 0, size⟩) = content := by
  obtain ⟨width, height⟩ := size
  apply eq_of_rows
  rcases height with _ | _ | height
  · have hrows : content.rows = [] := List.eq_nil_of_length_eq_zero h.length_rows
    rw [hrows]
    rfl
  · have hrows : content.rows = [] := List.eq_nil_of_length_eq_zero h.length_rows
    rw [hrows]
    rfl
  · have hrows : content.rows.length = height := h.length_rows
    have hwidth : ∀ row ∈ content.rows, row.length = width - 2 := h.length_row
    -- the first and the last row are the edges
    show ((content.rows.map _ ++ [_]).take height).map (Row.part (0 + 1) (width - 2)) = _
    rw [List.take_append_of_le_length (Nat.le_of_eq ((List.length_map _).trans hrows).symm),
      List.take_of_length_le (Nat.le_of_eq ((List.length_map _).trans hrows)), List.map_map]
    refine (List.map_congr_left (g := id) ?_).trans (List.map_id _)
    intro row hrow
    show Row.part 1 (width - 2) ((_ :: (row ++ _)).take width) = row
    unfold Row.part
    rw [List.drop_take, List.take_take, Nat.min_eq_left (by omega), List.drop_succ_cons,
      List.drop_zero, List.take_append_of_le_length (Nat.le_of_eq (hwidth row hrow).symm),
      List.take_of_length_le (Nat.le_of_eq (hwidth row hrow))]

end Screen

/-! ### Items -/

namespace Item

theorem length_rows (width : Nat) (item : Item) : (item.rows width).length = item.height :=
  List.length_map _

theorem length_of_mem_rows {width : Nat} {item : Item} {row : Row} (h : row ∈ item.rows width) :
    row.length = width := by
  obtain ⟨line, _, rfl⟩ := List.mem_map.mp h
  rw [Row.length_write, Row.length_restyle, Row.length_blank]

/-- The first row of an item; the only one, if it has one. -/
def row (width : Nat) (item : Item) : Row := (item.rows width).headD []

theorem rows_eq_row {width : Nat} {item : Item} (h : item.height = 1) :
    item.rows width = [item.row width] := by
  obtain ⟨row, hrow⟩ := List.length_eq_one_iff.mp ((length_rows width item).trans h)
  rw [Item.row, hrow]
  rfl

variable {items : List Item} (h : ∀ item ∈ items, item.height = 1)
include h

/-- As many items of one row fit as there are rows. -/
theorem fitting_eq_take (height : Nat) : fitting height items = items.take height := by
  induction items generalizing height with
  | nil => rw [fitting, List.take_nil]
  | cons item rest ih =>
    obtain ⟨hitem, hrest⟩ := List.forall_mem_cons.mp h
    rw [fitting, hitem]
    cases height with
    | zero => rfl
    | succ height =>
      rw [if_pos (Nat.succ_le_succ (Nat.zero_le height)), Nat.add_sub_cancel, ih hrest,
        List.take_succ_cons]

theorem flatMap_rows (width : Nat) : items.flatMap (rows width) = items.map (row width) := by
  induction items with
  | nil => rfl
  | cons item rest ih =>
    obtain ⟨hitem, hrest⟩ := List.forall_mem_cons.mp h
    rw [List.flatMap_cons, rows_eq_row hitem, ih hrest, List.map_cons, List.singleton_append]

end Item

namespace Screen

variable {size : Size}

theorem hasSize_ofItems (size : Size) (items : List Item) : (ofItems size items).HasSize size := by
  apply (hasSize_blank size).overlay
  intro row hrow
  obtain ⟨item, _, hrow⟩ := List.mem_flatMap.mp hrow
  exact Item.length_of_mem_rows hrow

/-- Items of one row stand below each other. The rows after them are blank. -/
theorem rows_ofItems {items : List Item} (h : ∀ item ∈ items, item.height = 1) :
    (ofItems size items).rows = (items.take size.height).map (Item.row size.width) ++
      List.replicate (size.height - items.length) (Row.blank size.width) := by
  have htake : ∀ item ∈ items.take size.height, item.height = 1 := fun item hitem =>
    h item (List.mem_of_mem_take hitem)
  have hlength : ((items.take size.height).map (Item.row size.width)).length =
      min size.height items.length := by
    rw [List.length_map, List.length_take]
  unfold ofItems overlay blank
  dsimp only
  rw [Item.fitting_eq_take h, Item.flatMap_rows htake, List.drop_replicate, hlength,
    List.length_replicate, List.take_of_length_le]
  · rw [show size.height - min size.height items.length = size.height - items.length by omega]
  · rw [List.length_append, hlength, List.length_replicate]
    omega

end Screen

/-! ### Panes -/

section panes
variable (title : Text) (isFocused : Bool) {size : Size}

theorem hasSize_pane {content : Size → Screen} (h : (content size.inside).HasSize size.inside) :
    (pane title isFocused size content).HasSize size :=
  Screen.hasSize_bordered title _ h

theorem part_pane {content : Size → Screen} (h : (content size.inside).HasSize size.inside) :
    (pane title isFocused size content).part (Region.inside ⟨0, 0, size⟩) = content size.inside :=
  Screen.part_bordered title _ h

theorem hasSize_itemPane (items : List Item) (size : Size) (offset : Nat) :
    (itemPane title items isFocused size offset).HasSize size :=
  hasSize_pane title isFocused (Screen.hasSize_ofItems _ _)

theorem part_itemPane (items : List Item) (size : Size) (offset : Nat) :
    (itemPane title items isFocused size offset).part (Region.inside ⟨0, 0, size⟩) =
      .ofItems size.inside (Scroll.window (visibleRows size.height) offset items) :=
  part_pane title isFocused (Screen.hasSize_ofItems _ _)

end panes

theorem SourcePane.hasSize_draw (listing : Listing) (current : Nat) (isFailed isFocused : Bool)
    (size : Size) (scroll : SourceScroll) :
    (draw listing current isFailed isFocused size scroll).HasSize size := by
  apply hasSize_pane
  exact (Screen.hasSize_blank size.inside).write _

theorem VariablesPane.hasSize_draw (bindings : List Variable) (isFocused : Bool) (size : Size)
    (offset : Nat) : (draw bindings isFocused size offset).HasSize size := by
  unfold draw
  split
  · exact hasSize_itemPane _ _ _ _ _
  · exact hasSize_itemPane _ _ _ _ _

namespace OutputPane

/-- The printed texts as items. -/
def items (output : List Text) : List Item := output.map (Item.ofText (.ink Palette.ink))

/-- The rows after the empty column. -/
def texts (output : List Text) (size : Size) (offset : Nat) : Screen :=
  .ofItems ⟨size.inside.width - 1, size.inside.height⟩
    (Scroll.window (visibleRows size.height) offset (items output))

theorem draw_of_ne_nil {output : List Text} (h : output ≠ []) (isFocused : Bool) (size : Size)
    (offset : Nat) :
    draw output isFocused size offset = pane " Output " isFocused size fun inside =>
      (Screen.blank ⟨min 1 inside.width, inside.height⟩).beside (texts output size offset) := by
  unfold draw texts items Scroll.window pane
  rw [← List.map_drop, ← List.map_take, List.isEmpty_eq_false_iff.mpr h]
  rfl

theorem hasSize_texts (output : List Text) (size : Size) (offset : Nat) :
    (texts output size offset).HasSize ⟨size.inside.width - 1, size.inside.height⟩ :=
  Screen.hasSize_ofItems _ _

theorem hasSize_beside (output : List Text) (size : Size) (offset : Nat) :
    ((Screen.blank ⟨min 1 size.inside.width, size.inside.height⟩).beside
      (texts output size offset)).HasSize size.inside := by
  have hwidth : min 1 size.inside.width + (size.inside.width - 1) = size.inside.width := by omega
  have hbeside := (Screen.hasSize_blank ⟨min 1 size.inside.width, size.inside.height⟩).beside
    (hasSize_texts output size offset)
  rw [hwidth] at hbeside
  exact hbeside

theorem hasSize_draw (output : List Text) (isFocused : Bool) (size : Size) (offset : Nat) :
    (draw output isFocused size offset).HasSize size := by
  by_cases h : output = []
  · subst h
    exact hasSize_pane _ _ (((Screen.hasSize_blank _).restyle _).write _)
  · rw [draw_of_ne_nil h]
    exact hasSize_pane _ _ (hasSize_beside output size offset)

/-- The texts stand inside the border, after the margin. -/
theorem part_draw {output : List Text} (h : output ≠ []) (isFocused : Bool) (size : Size)
    (offset : Nat) :
    ((draw output isFocused size offset).part (Region.inside ⟨0, 0, size⟩)).part
      (Region.afterMargin ⟨0, 0, size.inside⟩) = texts output size offset := by
  have htexts := hasSize_texts output size offset
  have hcolumn : 0 + min 1 size.inside.width = min 1 size.inside.width + 0 := Nat.add_comm _ _
  rw [draw_of_ne_nil h, part_pane _ _ (hasSize_beside output size offset), Region.afterMargin]
  dsimp only
  rw [hcolumn, Screen.part_beside_right (Screen.hasSize_blank _) htexts]
  exact Screen.part_whole htexts

end OutputPane

/-! ### Layouts -/

namespace Layout

/-- The panes stand in two columns of one height, and each is as wide as its column. -/
structure Tiles (layout : Layout) : Prop where
  output_width : layout.output.width = layout.source.width
  stack_width : layout.stack.width = layout.bindings.width
  trace_width : layout.trace.width = layout.bindings.width
  height_eq : layout.source.height + layout.output.height =
    layout.bindings.height + (layout.stack.height + layout.trace.height)

variable (layout : Layout)

/-- Where the pane of the output stands: below the source. -/
def outputRegion : Region := ⟨0, layout.source.height, layout.output⟩

/-- Where the pane of the variables stands: beside the source. -/
def bindingsRegion : Region := ⟨layout.source.width, 0, layout.bindings⟩

/-- Where the pane of the calls stands: below the variables. -/
def stackRegion : Region := ⟨layout.source.width, layout.bindings.height, layout.stack⟩

/-- Where the pane of the log stands: below the calls. -/
def traceRegion : Region :=
  ⟨layout.source.width, layout.bindings.height + layout.stack.height, layout.trace⟩

/-- The panes of a viewer tile its screen. -/
theorem tiles_ofSize (size : Size) : (ofSize size).Tiles where
  output_width := rfl
  stack_width := rfl
  trace_width := rfl
  height_eq := by
    simp only [ofSize, percentEdge]
    omega

end Layout

namespace Player

variable {p : Player} {layout : Layout}

section columns
variable (p) (layout)

/-- The source above the output. -/
def leftColumn : Screen :=
  (SourcePane.draw p.recording.listing p.snapshot.line p.snapshot.fault.isSome (p.focus = .source)
    layout.source p.source).above
    (OutputPane.draw p.snapshot.output (p.focus = .output) layout.output p.output)

/-- The calls above the log. -/
def lowerRight : Screen :=
  (StackPane.draw p.stackItems (p.focus = .stack) layout.stack p.stack.offset).above
    (TracePane.draw p.traceItems (p.focus = .trace) layout.trace p.trace)

/-- The variables above the calls and the log. -/
def rightColumn : Screen :=
  (VariablesPane.draw p.snapshot.bindings (p.focus = .bindings) layout.bindings p.bindings).above
    (p.lowerRight layout)

theorem draw_eq : p.draw layout =
    ((p.leftColumn layout).beside (p.rightColumn layout)).above (p.status.draw layout.status) := rfl

end columns

variable (h : layout.Tiles)
include h

theorem hasSize_leftColumn : (p.leftColumn layout).HasSize ⟨layout.source.width,
    layout.bindings.height + (layout.stack.height + layout.trace.height)⟩ := by
  rw [← h.height_eq]
  apply (SourcePane.hasSize_draw _ _ _ _ _ _).above
  rw [← h.output_width]
  exact OutputPane.hasSize_draw _ _ _ _

theorem hasSize_lowerRight : (p.lowerRight layout).HasSize
    ⟨layout.bindings.width, layout.stack.height + layout.trace.height⟩ := by
  have hstack := hasSize_itemPane " Call Stack ".toList (p.focus = .stack) p.stackItems layout.stack
    p.stack.offset
  have htrace := hasSize_itemPane " Trace ".toList (p.focus = .trace) p.traceItems layout.trace
    p.trace
  rw [← h.stack_width] at *
  apply hstack.above
  rw [h.stack_width, ← h.trace_width]
  exact htrace

theorem hasSize_rightColumn : (p.rightColumn layout).HasSize
    ⟨layout.bindings.width,
      layout.bindings.height + (layout.stack.height + layout.trace.height)⟩ :=
  (VariablesPane.hasSize_draw _ _ _ _).above (hasSize_lowerRight h)

/-- A part above the status bar is a part of the two columns. -/
theorem part_draw_columns {r : Region} (hheight : r.row + r.size.height ≤
      layout.bindings.height + (layout.stack.height + layout.trace.height)) :
    (p.draw layout).part r = ((p.leftColumn layout).beside (p.rightColumn layout)).part r := by
  have hcolumns := (hasSize_leftColumn (p := p) h).beside (hasSize_rightColumn (p := p) h)
  rw [draw_eq, Screen.part_above_top]
  rw [hcolumns.length_rows]
  exact hheight

theorem part_draw_right {row : Nat} {size : Size} (hheight : row + size.height ≤
      layout.bindings.height + (layout.stack.height + layout.trace.height)) :
    (p.draw layout).part ⟨layout.source.width, row, size⟩ =
      (p.rightColumn layout).part ⟨0, row, size⟩ := by
  rw [part_draw_columns h hheight]
  exact Screen.part_beside_right (hasSize_leftColumn h) (hasSize_rightColumn h) 0 row size

/-- The pane of the output stands in its region. -/
theorem part_draw_output : (p.draw layout).part layout.outputRegion =
    OutputPane.draw p.snapshot.output (p.focus = .output) layout.output p.output := by
  have hsource := SourcePane.hasSize_draw p.recording.listing p.snapshot.line
    p.snapshot.fault.isSome (p.focus = .source) layout.source p.source
  rw [part_draw_columns h (Nat.le_of_eq h.height_eq),
    Screen.part_beside_left (hasSize_leftColumn h) (hasSize_rightColumn h)]
  · show (p.leftColumn layout).part ⟨0, layout.source.height + 0, layout.output⟩ = _
    rw [← hsource.length_rows]
    exact (Screen.part_above_bottom 0 0 layout.output).trans
      (Screen.part_whole (OutputPane.hasSize_draw _ _ _ _))
  · show 0 + layout.output.width ≤ _
    exact Nat.le_of_eq ((Nat.zero_add _).trans h.output_width)

/-- The pane of the variables stands in its region. -/
theorem part_draw_bindings : (p.draw layout).part layout.bindingsRegion =
    VariablesPane.draw p.snapshot.bindings (p.focus = .bindings) layout.bindings p.bindings := by
  have hbindings := VariablesPane.hasSize_draw p.snapshot.bindings (p.focus = .bindings)
    layout.bindings p.bindings
  unfold Layout.bindingsRegion
  rw [part_draw_right h (by omega), rightColumn, Screen.part_above_top]
  · exact Screen.part_whole hbindings
  · rw [hbindings.length_rows]
    exact Nat.le_of_eq (Nat.zero_add _)

theorem part_draw_lowerRight {row : Nat} {size : Size}
    (hheight : row + size.height ≤ layout.stack.height + layout.trace.height) :
    (p.draw layout).part ⟨layout.source.width, layout.bindings.height + row, size⟩ =
      (p.lowerRight layout).part ⟨0, row, size⟩ := by
  have hbindings := VariablesPane.hasSize_draw p.snapshot.bindings (p.focus = .bindings)
    layout.bindings p.bindings
  rw [part_draw_right h (by omega), ← hbindings.length_rows]
  exact Screen.part_above_bottom 0 row size

/-- The pane of the calls stands in its region. -/
theorem part_draw_stack : (p.draw layout).part layout.stackRegion =
    StackPane.draw p.stackItems (p.focus = .stack) layout.stack p.stack.offset := by
  have hstack := hasSize_itemPane " Call Stack ".toList (p.focus = .stack) p.stackItems layout.stack
    p.stack.offset
  show (p.draw layout).part ⟨_, layout.bindings.height + 0, layout.stack⟩ = _
  rw [part_draw_lowerRight h (by omega), lowerRight, Screen.part_above_top]
  · exact Screen.part_whole hstack
  · show 0 + layout.stack.height ≤ _
    rw [Nat.zero_add]
    exact Nat.le_of_eq hstack.length_rows.symm

/-- The pane of the log stands in its region. -/
theorem part_draw_trace : (p.draw layout).part layout.traceRegion =
    TracePane.draw p.traceItems (p.focus = .trace) layout.trace p.trace := by
  have hstack := hasSize_itemPane " Call Stack ".toList (p.focus = .stack) p.stackItems layout.stack
    p.stack.offset
  have htrace := hasSize_itemPane " Trace ".toList (p.focus = .trace) p.traceItems layout.trace
    p.trace
  show (p.draw layout).part
    ⟨_, layout.bindings.height + (layout.stack.height + 0), layout.trace⟩ = _
  rw [part_draw_lowerRight h (by omega), ← hstack.length_rows]
  exact (Screen.part_above_bottom 0 0 layout.trace).trans (Screen.part_whole htrace)

end Player
end Stepwise
