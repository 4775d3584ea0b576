import Stepwise.Screen.Style

/-!
# Rows of the screen

A screen is made of rows, and a row of cells with one symbol each. Text is written on a row as a
`Line`, a sequence of spans with a style for each.

- `Row.write` puts a line on a row. What does not fit is cut off.
- `Row.refresh` is what a display shows after it was sent a row.

A wide symbol stands in the first of its two cells and hides the second one, which is blank.
-/

namespace Stepwise

/-- A place for one symbol. -/
structure Cell where
  symbol : Char
  look : Look
deriving DecidableEq, Repr

namespace Cell

/-- A cell that nothing was drawn on. -/
def blank : Cell := ⟨' ', .blank⟩

/-- The cell with a style laid over it. -/
def restyle (style : Style) (cell : Cell) : Cell := { cell with look := cell.look.apply style }

/-- The cell with another symbol and a style laid over it. -/
def put (cell : Cell) (symbol : Char) (style : Style) : Cell := ⟨symbol, cell.look.apply style⟩

end Cell

/-- A piece of text in one style. -/
structure Span where
  text : Text
  style : Style
deriving DecidableEq, Repr

namespace Span

/-- A text without a style. -/
def plain (text : Text) : Span := ⟨text, .plain⟩

/-- The symbols of a span with their style. A line feed is not a symbol. -/
def symbols (span : Span) : List (Char × Style) :=
  (span.text.filter (· ≠ '\n')).map fun c => (c, span.style)

end Span

/-- The text of a row. -/
abbrev Line := List Span

namespace Line

/-- The symbols of a line, each with the style of its span. -/
def symbols (line : Line) : List (Char × Style) := line.flatMap Span.symbols

/-- The number of columns that the line takes. -/
def columns (line : Line) : Nat :=
  line.symbols.foldr (fun (c, _) count => Stepwise.columns c + count) 0

/-- The line with every span's style changed. -/
def mapStyle (f : Style → Style) (line : Line) : Line :=
  line.map fun s => { s with style := f s.style }

end Line

/-- A row of cells. -/
abbrev Row := List Cell

namespace Row

/-- A row that nothing was drawn on. -/
def blank (width : Nat) : Row := List.replicate width .blank

/-- The row with a style laid over all of it. -/
def restyle (style : Style) (row : Row) : Row := row.map (Cell.restyle style)

/-- Writes symbols on the row from its first cell on. The first one that does not fit ends the
writing. -/
def writeSymbols : Row → List (Char × Style) → Row
  | row, [] => row
  | [], _ :: _ => []
  | [cell], (c, style) :: _ => if isWide c then [cell] else [cell.put c style]
  | cell :: next :: row, (c, style) :: rest =>
    if isWide c then cell.put c style :: .blank :: writeSymbols row rest
    else cell.put c style :: writeSymbols (next :: row) rest

/-- Writes a line on the row from its first cell on. -/
def write (line : Line) (row : Row) : Row := writeSymbols row (Line.symbols line)

/-- Writes a line so that it ends with the row; one that is too long is written from the first cell
on. -/
def writeAtEnd (line : Line) (row : Row) : Row :=
  let start := row.length - Line.columns line
  row.take start ++ write line (row.drop start)

/-- What a display shows in place of `shown` after it was sent a row. A hidden cell is not sent, so
it keeps what it showed. -/
def refresh : (shown sent : Row) → Row
  | _ :: hidden :: shown, cell :: next :: sent =>
    if isWide cell.symbol then cell :: hidden :: refresh shown sent
    else cell :: refresh (hidden :: shown) (next :: sent)
  | _, sent => sent

/-- The symbols of a row. -/
def text (row : Row) : Text := row.map Cell.symbol

/-- The looks of a row, with the number of consecutive cells that have each. -/
def looks : Row → List (Look × Nat)
  | [] => []
  | cell :: rest =>
    match looks rest with
    | (look, count) :: others =>
      if cell.look = look then (look, count + 1) :: others
      else (cell.look, 1) :: (look, count) :: others
    | [] => [(cell.look, 1)]

end Row
end Stepwise
