import Stepwise.Pane.Items
import Stepwise.Pane.Source
import Stepwise.Recording

/-!
# The player

A player walks through the history of a recording. It is controlled by keys, and it can go on by
itself, one step after each interval of time. It also knows the focus and the scroll states of the
panes.

- `Player.press` is what a key does,
- `Player.tick` is one step of automatic play, `Player.playOn` makes it when it is due,
- `Player.settle` fixes the scroll states for drawing.

Times are in milliseconds from any fixed moment.
-/

namespace Stepwise

/-- The panes that can have the focus. -/
inductive Focus where
  | source
  | output
  | bindings
  | stack
  | trace
deriving DecidableEq, Repr

namespace Focus

/-- The next pane, clockwise. -/
def next : Focus → Focus
  | source => output
  | output => bindings
  | bindings => stack
  | stack => trace
  | trace => source

/-- The previous pane. -/
def previous : Focus → Focus
  | source => trace
  | output => source
  | bindings => output
  | stack => bindings
  | trace => stack

end Focus

/-- The keys of a keyboard. -/
inductive Key where
  | char (c : Char)
  | left
  | right
  | up
  | down
  | tab
  | backTab
  | enter
  | backspace
  | escape
  | home
deriving DecidableEq, Repr

/-- A player of a recording. -/
structure Player where
  recording : Recording
  cursor : Cursor
  focus : Focus
  source : SourceScroll
  bindings : Nat
  stack : StackScroll
  output : Nat
  trace : Nat
  hasQuit : Bool
  message : Text
  isPlaying : Bool
  /-- The time between two steps of automatic play. -/
  interval : Nat
  /-- When the last step of automatic play was made. -/
  lastTick : Int
  /-- When play was last switched on or off by the space key. -/
  lastSwitch : Int

namespace Player

/-- The time that has to pass before the space key is accepted again. -/
def switchDelay : Nat := 200

/-- The player of a recording, before the first step. -/
def start (recording : Recording) (interval : Nat) (now : Int) : Player where
  recording
  cursor := .start recording.history.totalSteps
  focus := .source
  source := .start
  bindings := 0
  stack := ⟨0, 0⟩
  output := 0
  trace := 0
  hasQuit := false
  message := "Ready!"
  isPlaying := false
  interval
  lastTick := now
  lastSwitch := now - 1000

/-- The snapshot at the cursor. -/
def snapshot (p : Player) : Snapshot := p.recording.history.get p.cursor.step

/-! ### Moving -/

/-- Lets the output and the log show their last pages. -/
def followEnd (p : Player) : Player :=
  { p with output := Scroll.furthest, trace := Scroll.furthest }

/-- Moves the cursor and tells about it. -/
def move (p : Player) (cursor : Cursor) (message : Text) : Player :=
  followEnd { p with cursor, message }

/-- Ends automatic play. -/
def stop (p : Player) : Player := { p with isPlaying := false }

/-- One step forward. -/
def stepForward (p : Player) : Player :=
  if p.cursor.atEnd then { p with message := "Cannot step forward: already at the last step" }
  else p.move p.cursor.forward "Stepped forward"

/-- One step back. -/
def stepBackward (p : Player) : Player :=
  if p.cursor.atStart then { p with message := "Cannot step backward: already at the first step" }
  else p.move p.cursor.backward "Stepped backward"

/-- Up to `n` steps forward. -/
def stepBy (p : Player) (n : Nat) : Player :=
  p.move (p.cursor.advance n)
    ("Stepped forward ".toList ++ Text.ofNat (p.cursor.available n) ++ " step(s)".toList)

/-! ### Automatic play -/

/-- One step of automatic play, which ends at the last snapshot. -/
def tick (p : Player) : Player :=
  if p.cursor.atEnd then { p with isPlaying := false, message := "Playback complete" }
  else p.move p.cursor.forward "Playing..."

/-- Whether an interval has passed since the last step of automatic play. -/
def isDue (p : Player) (now : Int) : Bool := p.interval ≤ now - p.lastTick

/-- Makes a step of automatic play if one is due. -/
def playOn (p : Player) (now : Int) : Player :=
  if p.isPlaying && p.isDue now then { p.tick with lastTick := now } else p

/-- Switches automatic play on or off. When it is switched on, a step is due. -/
def switch (p : Player) (now : Int) : Player :=
  if p.isPlaying then { p with isPlaying := false, message := "Paused" }
  else { p with isPlaying := true, message := "Playing...", lastTick := now - p.interval }

/-- Switches automatic play, unless that was done just before, which may be the same key held
down. -/
def pressSpace (p : Player) (now : Int) : Player :=
  if switchDelay ≤ now - p.lastSwitch then switch { p with lastSwitch := now } now else p

/-! ### Keys -/

/-- Scrolls the pane with the focus up. -/
def scrollUp (p : Player) : Player :=
  match p.focus with
  | .source => { p with source := p.source.up }
  | .output => { p with output := Scroll.up p.output }
  | .bindings => { p with bindings := Scroll.up p.bindings }
  | .stack => { p with stack.offset := Scroll.up p.stack.offset }
  | .trace => { p with trace := Scroll.up p.trace }

/-- Scrolls the pane with the focus down. -/
def scrollDown (p : Player) : Player :=
  match p.focus with
  | .source => { p with source := p.source.down }
  | .output => { p with output := Scroll.down p.output }
  | .bindings => { p with bindings := Scroll.down p.bindings }
  | .stack => { p with stack.offset := Scroll.down p.stack.offset }
  | .trace => { p with trace := Scroll.down p.trace }

/-- What a character key does. -/
def pressChar (p : Player) (now : Int) (c : Char) : Player :=
  if c = 'q' ∨ c = 'Q' then { p with hasQuit := true }
  else if '1' ≤ c ∧ c ≤ '9' then p.stop.stepBy (c.toNat - '0'.toNat)
  else if c = ' ' then p.pressSpace now
  else p

/-- What a key does. -/
def press (p : Player) (now : Int) : Key → Player
  | .char c => p.pressChar now c
  | .left => p.stop.stepBackward
  | .right => p.stop.stepForward
  | .up => p.scrollUp
  | .down => p.scrollDown
  | .tab => { p with focus := p.focus.next }
  | .backTab => { p with focus := p.focus.previous }
  | .enter => p.stop.move p.cursor.toEnd "Jumped to end"
  | .backspace => p.stop.move p.cursor.rewind "Jumped to start"
  | .escape | .home => p

end Player
end Stepwise
