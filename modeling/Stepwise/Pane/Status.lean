import Stepwise.Pane.Basic

/-!
# The status bar

The status bar has two halves. The left one shows the position in the history and a message, the
right one the keys and whether the player is playing or at an end of the history.
-/

namespace Stepwise

/-- What the status bar shows. -/
structure Status where
  message : Text
  position : Nat
  total : Nat
  /-- The message of the fault of the snapshot, which is shown in place of `message`. -/
  fault : Option Text
  isPlaying : Bool
deriving DecidableEq, Repr

namespace Status

/-- The style of the parts without a meaning of their own. -/
def barStyle (color : Color) : Style := (Style.ink color).on Palette.slate

/-- The position and the message. -/
def report (s : Status) : Line :=
  let (color, message, messageColor) := match s.fault with
    | some fault => (Palette.red, fault, Palette.red)
    | none => (Palette.blue, s.message, Palette.ink)
  [⟨" Step ".toList ++ Text.ofNat s.position ++ ['/'] ++ Text.ofNat s.total ++ [' '],
      ((Style.ink .black).on color).bold⟩,
    ⟨" | ", barStyle Palette.gray⟩, ⟨' ' :: message ++ [' '], barStyle messageColor⟩]

/-- The keys, each with what it does. -/
def keys : Line :=
  let key (text : Text) : Span := ⟨text, (Style.ink .black).on Palette.gray⟩
  let action (text : Text) : Span := ⟨text, barStyle Palette.ink⟩
  let bar : Span := ⟨"│", barStyle Palette.gray⟩
  [key " ←/→ ", action " step ", bar, action " ",
    key " ⎵ ", action " play ", bar, action " ",
    key " ↵ / ⌫ ", action " end/start ", bar, action " ",
    key "q", action " quit "]

/-- The word for what the player is doing, or for the end of the history that it is at, in its
colour. -/
def indicator? (s : Status) : Option (Text × Color) :=
  if s.isPlaying then some (" ▶ PLAYING ", Palette.orange)
  else if s.total ≤ s.position then some (" END ", Palette.red)
  else if s.position = 0 then some (" START ", Palette.green)
  else none

/-- The keys and the indicator. -/
def help (s : Status) : Line :=
  match s.indicator? with
  | some (label, color) =>
    keys ++ [⟨"│", barStyle Palette.gray⟩, ⟨label, ((Style.ink .black).on color).bold⟩]
  | none => keys

/-- The status bar. Of an odd width the left half is the larger one. -/
def draw (size : Size) (s : Status) : Screen :=
  let left := percentEdge size.width 50
  let half (width : Nat) :=
    (Screen.blank ⟨width, size.height⟩).restyle (Style.plain.on Palette.slate)
  let right := half (size.width - left)
  ((half left).write [s.report]).beside
    (right.overlay ((right.rows.take 1).map (Row.writeAtEnd s.help)))

end Status
end Stepwise
