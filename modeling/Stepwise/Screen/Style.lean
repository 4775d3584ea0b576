import Stepwise.Text.Columns

/-!
# Styles

A `Look` is how a cell of the screen appears. A `Style` says which parts of a look to change:
whatever it does not name stays as it is, so styles can be laid over each other.

`Palette` has the colours of this library's screens.
-/

namespace Stepwise

/-- A colour of the screen. -/
inductive Color where
  /-- The colour that the screen has of its own. -/
  | standard
  | black
  | white
  | rgb (red green blue : UInt8)
deriving DecidableEq, Repr

namespace Palette

/-- Text without a meaning of its own. -/
def ink : Color := .rgb 205 214 244

/-- Keywords, brackets and step counters. -/
def blue : Color := .rgb 137 180 250

/-- Numbers and strings. -/
def orange : Color := .rgb 250 179 135

/-- What stands in the background: comments, borders, remarks. -/
def gray : Color := .rgb 108 112 134

/-- What is new. -/
def green : Color := .rgb 166 227 161

/-- Faults, and the end of a run. -/
def red : Color := .rgb 243 139 168

/-- Functions, and the border of the pane in use. -/
def yellow : Color := .rgb 249 226 175

/-- The background of the current line and of the status bar. -/
def slate : Color := .rgb 50 50 70

/-- The text of a call. -/
def khaki : Color := .rgb 180 165 120

/-- Kinds of values, and output. -/
def teal : Color := .rgb 148 226 213

/-- What was modified. -/
def pink : Color := .rgb 245 194 231

end Palette

/-- A change to the look of a cell. -/
structure Style where
  foreground : Option Color
  background : Option Color
  isBold : Bool
deriving DecidableEq, Repr

namespace Style

/-- The style that changes nothing. -/
def plain : Style := ⟨none, none, false⟩

/-- Writing in a colour. -/
def ink (color : Color) : Style := { plain with foreground := some color }

/-- The style with a background. -/
def on (style : Style) (color : Color) : Style := { style with background := some color }

/-- The style with bold symbols. -/
def bold (style : Style) : Style := { style with isBold := true }

end Style

/-- How a cell appears. -/
structure Look where
  foreground : Color
  background : Color
  isBold : Bool
deriving DecidableEq, Repr

namespace Look

/-- The look of a cell that nothing was drawn on. -/
def blank : Look := ⟨.standard, .standard, false⟩

/-- The look after a style was laid over it. -/
def apply (look : Look) (style : Style) : Look :=
  ⟨style.foreground.getD look.foreground, style.background.getD look.background,
    look.isBold || style.isBold⟩

end Look
end Stepwise
