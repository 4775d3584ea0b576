import Stepwise.Screen.Basic

/-!
# Terminals

The control sequences that show a screen on a terminal.
-/

namespace Stepwise

/-- The parameter of a control sequence that selects a colour; `base` is 30 for the foreground and
40 for the background. -/
def Color.parameter (base : Nat) : Color → Text
  | .standard => Text.ofNat (base + 9)
  | .black => Text.ofNat base
  | .white => Text.ofNat (base + 7)
  | .rgb red green blue =>
    List.intercalate [';']
      ([base + 8, 2, red.toNat, green.toNat, blue.toNat].map Text.ofNat)

/-- The control sequence for a look. -/
def Look.sequence (look : Look) : Text :=
  "\x1b[0;".toList ++ (if look.isBold then "1;".toList else []) ++
    look.foreground.parameter 30 ++ ';' :: look.background.parameter 40 ++ ['m']

namespace Row

/-- The symbols of a row without the cells that a wide symbol hides. -/
def visible : Row → Row
  | cell :: next :: rest =>
    if isWide cell.symbol then cell :: visible rest else cell :: visible (next :: rest)
  | row => row

/-- The text that shows a row on a terminal. -/
def sequence (row : Row) : Text :=
  (visible row).flatMap fun cell => cell.look.sequence ++ [cell.symbol]

end Row

namespace Screen

/-- The text that opens a screen of its own on a terminal. -/
def enterSequence : Text := "\x1b[?1049h\x1b[?25l"

/-- The text that gives the terminal back. -/
def leaveSequence : Text := "\x1b[0m\x1b[?25h\x1b[?1049l"

/-- The text that shows a screen on a terminal, from its upper left corner on. -/
def sequence (screen : Screen) : Text :=
  "\x1b[H".toList ++ List.intercalate "\r\n".toList (screen.rows.map Row.sequence)

end Screen
end Stepwise
