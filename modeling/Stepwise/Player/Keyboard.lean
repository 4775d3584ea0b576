import Stepwise.Player.Basic

/-!
# The keyboard

What a terminal sends for the keys.
-/

namespace Stepwise

/-- The key of the last character of a control sequence. -/
def Key.ofFinal? : Char → Option Key
  | 'A' => some .up
  | 'B' => some .down
  | 'C' => some .right
  | 'D' => some .left
  | 'H' => some .home
  | 'Z' => some .backTab
  | _ => none

/-- The key of a single character. -/
def Key.ofChar (c : Char) : Key :=
  if c = '\r' then .enter
  else if c = '\t' then .tab
  else if c.toNat = 0x08 ∨ c.toNat = 0x7F then .backspace
  else if c.toNat = 0x1B then .escape
  else .char c

/-- The keys of what a terminal sent. A line feed only ends a line of input. -/
def Key.ofInput : Text → List Key
  | '\x1b' :: '[' :: c :: rest =>
    match Key.ofFinal? c with
    | some key => key :: ofInput rest
    | none => ofInput rest
  | '\n' :: rest => ofInput rest
  | c :: rest => .ofChar c :: ofInput rest
  | [] => []

end Stepwise
