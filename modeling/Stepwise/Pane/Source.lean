import Stepwise.Highlight
import Stepwise.Listing
import Stepwise.Pane.Basic

/-!
# The source pane

The source pane shows the listing with its line numbers. It marks the current line and keeps it on
one row of the window, the target row, as long as the ends of the listing permit that.
-/

namespace Stepwise

/-- Which part of the listing the source pane shows. -/
structure SourceScroll where
  offset : Nat
  /-- The row for the current line. It is first chosen when the pane is drawn. -/
  target : Option Nat
deriving DecidableEq, Repr

namespace SourceScroll

/-- The scroll state before the pane is drawn. -/
def start : SourceScroll := ⟨0, none⟩

/-- Moves the listing down by one row, and so the target row. -/
def up (s : SourceScroll) : SourceScroll := { s with target := s.target.map Scroll.down }

/-- Moves the listing up by one row, and so the target row. -/
def down (s : SourceScroll) : SourceScroll := { s with target := s.target.map Scroll.up }

/-- The scroll state for drawing a pane of the given height on `total` lines. The window moves if
there is a current line. -/
def settle (total line height : Nat) (s : SourceScroll) : SourceScroll :=
  let rows := visibleRows height
  let target := min (s.target.getD (rows / 2)) (rows - 1)
  { offset :=
      if 0 < line ∧ line ≤ total then Scroll.settle total rows (line - 1 - target) else s.offset
    target := some target }

end SourceScroll

namespace SourcePane

/-- How a line of the listing is shown. -/
inductive Mark where
  | none
  | current
  /-- The current line, on which the run failed. -/
  | failed
deriving DecidableEq, Repr

namespace Mark

/-- The mark of a line number. -/
def ofNumber (current : Nat) (isFailed : Bool) (number : Nat) : Mark :=
  if number ≠ current then none else if isFailed then failed else .current

/-- The sign in front of the line number. -/
def sign : Mark → Text
  | none => " "
  | _ => "▶"

/-- The style of the line number. -/
def numberStyle : Mark → Style
  | none => .ink Palette.gray
  | current => (Style.ink Palette.orange).bold
  | failed => (Style.ink Palette.red).bold

/-- The style of a token, given its style on lines without a mark. -/
def tokenStyle : Mark → Style → Style
  | none, style => style
  | current, style => style.on Palette.slate
  | failed, _ => ((Style.ink .white).on Palette.red).bold

end Mark

/-- The row of a line. -/
def line (mark : Mark) (number : Nat) (text : Text) : Line :=
  ⟨mark.sign, mark.numberStyle⟩ ::
    ⟨Text.padStart ' ' 4 (Text.ofNat number) ++ [' '], mark.numberStyle⟩ ::
    Line.mapStyle mark.tokenStyle (Highlight.highlighted text)

/-- The source pane with the given line as current line. -/
def draw (listing : Listing) (current : Nat) (isFailed isFocused : Bool) (size : Size)
    (scroll : SourceScroll) : Screen :=
  pane " Source " isFocused size fun inside =>
    (Screen.blank inside).write <|
      (Scroll.window (visibleRows size.height) scroll.offset listing.numbered).map
        fun (text, number) => line (.ofNumber current isFailed number) number text

end SourcePane
end Stepwise
