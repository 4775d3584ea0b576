import Stepwise.Screen.Row

/-!
# Screens

A `Screen` is a rectangle of cells. Larger screens are put together from smaller ones, beside or
above each other.

- `Screen.bordered` draws a titled border around a screen,
- `Screen.ofItems` writes items below each other,
- `percentEdge` is where a part of a length ends that is given as a percentage.
-/

namespace Stepwise

/-- The size of a rectangle of cells. -/
structure Size where
  width : Nat
  height : Nat
deriving DecidableEq, Repr

/-- The rectangle inside a border. -/
def Size.inside (size : Size) : Size := ⟨size.width - 2, size.height - 2⟩

/-- Where the first `percent` hundredths of a length end, rounded with halves up. Parts that follow
each other are cut at these edges, so that together they take the whole length. -/
def percentEdge (length percent : Nat) : Nat := (2 * length * percent + 100) / 200

/-- A rectangle of cells. -/
structure Screen where
  rows : List Row
deriving DecidableEq, Repr

namespace Screen

/-- A screen that nothing was drawn on. -/
def blank (size : Size) : Screen := ⟨List.replicate size.height (.blank size.width)⟩

/-- The screen with a style laid over all of it. -/
def restyle (style : Style) (screen : Screen) : Screen := ⟨screen.rows.map (Row.restyle style)⟩

/-- Two screens of one height beside each other. -/
def beside (left right : Screen) : Screen := ⟨List.zipWith (· ++ ·) left.rows right.rows⟩

/-- One screen above another. -/
def above (top bottom : Screen) : Screen := ⟨top.rows ++ bottom.rows⟩

/-- What a display shows in place of `shown` after it was sent a screen. -/
def refresh (shown sent : Screen) : Screen := ⟨List.zipWith Row.refresh shown.rows sent.rows⟩

/-- The screen with its first rows replaced. Rows that do not fit are dropped. -/
def overlay (rows : List Row) (screen : Screen) : Screen :=
  ⟨(rows ++ screen.rows.drop rows.length).take screen.rows.length⟩

/-- The screen with lines written on its rows, from the first one on. Lines that do not fit are
dropped. -/
def write (lines : List Line) (screen : Screen) : Screen :=
  screen.overlay (List.zipWith Row.write lines screen.rows)

/-! ### Borders -/

/-- The symbols of a horizontal edge: a corner at each end, and a title after the first one. -/
def edge (left right : Char) (title : Text) : (width : Nat) → Text
  | 0 => []
  | 1 => [left]
  | width + 2 => left :: (title ++ List.replicate width '─').take width ++ [right]

/-- A row of symbols in one style. -/
def symbolRow (style : Style) (symbols : Text) : Row := symbols.map fun c => Cell.blank.put c style

/-- A screen of the given size: a border, and `content` inside it. Of a single row there is only the
edge at the top. -/
def bordered (title : Text) (style : Style) (size : Size) (content : Screen) : Screen :=
  let top := symbolRow style (edge '┌' '┐' title size.width)
  let side := symbolRow style ['│']
  let bottom := symbolRow style (edge '└' '┘' [] size.width)
  match size.height with
  | 0 => ⟨[]⟩
  | 1 => ⟨[top]⟩
  | _ => ⟨top :: content.rows.map (fun row => (side ++ row ++ side).take size.width) ++ [bottom]⟩

end Screen

/-! ### Items -/

/-- Some lines that are shown together, and a style for their rows. -/
structure Item where
  style : Style
  lines : List Line
deriving DecidableEq, Repr

namespace Item

/-- An item of one line. -/
def ofLine (line : Line) : Item := ⟨.plain, [line]⟩

/-- A text in one style. It has a row for each of its lines. -/
def ofText (style : Style) (text : Text) : Item := ⟨style, text.lines.map fun line => [.plain line]⟩

/-- The number of rows. -/
def height (item : Item) : Nat := item.lines.length

/-- The rows of an item. Its style covers them to the end. -/
def rows (width : Nat) (item : Item) : List Row :=
  item.lines.map fun line => ((Row.blank width).restyle item.style).write line

/-- The items that fit in the given height, up to the first one that does not. -/
def fitting : (height : Nat) → List Item → List Item
  | _, [] => []
  | height, item :: rest =>
    if item.height ≤ height then item :: fitting (height - item.height) rest else []

end Item

/-- A screen with items below each other. -/
def Screen.ofItems (size : Size) (items : List Item) : Screen :=
  (Screen.blank size).overlay ((Item.fitting size.height items).flatMap (Item.rows size.width))

end Stepwise
