import Stepwise.Screen.Basic

/-!
# Panes

A pane is a bordered part of the screen with a title. One pane at a time has the focus, which its
border shows. A pane that has more items than rows shows a window of them, which begins at its
scroll offset.

An offset is not limited when it is changed: it may even be `Scroll.furthest`, which stands for the
last page. Only when the pane is drawn, `Scroll.settle` moves it to where the window is full.
-/

namespace Stepwise

/-- A pane of the given size around `content`. -/
def pane (title : Text) (isFocused : Bool) (size : Size) (content : Size → Screen) : Screen :=
  let style := if isFocused then (Style.ink Palette.yellow).bold else .ink Palette.gray
  .bordered title style size (content size.inside)

/-- The rows inside a pane of the given height; one that has no room still counts as one row. -/
def visibleRows (height : Nat) : Nat := max (height - 2) 1

namespace Scroll

/-- The largest offset. -/
def furthest : Nat := Nat.pow 2 64 - 1

/-- One item up. -/
def up (offset : Nat) : Nat := offset - 1

/-- One item down. -/
def down (offset : Nat) : Nat := min (offset + 1) furthest

/-- The offset nearest to the given one where a window of `rows` rows on `total` items is full. If
there are fewer items than rows, the window begins with the first one. -/
def settle (total rows offset : Nat) : Nat := if rows < total then min offset (total - rows) else 0

/-- The items in a window. -/
def window {α : Type} (rows offset : Nat) (items : List α) : List α := (items.drop offset).take rows

end Scroll
end Stepwise
