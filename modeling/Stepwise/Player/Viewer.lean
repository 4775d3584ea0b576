import Stepwise.Pane.Status
import Stepwise.Player.Basic

/-!
# The viewer

The viewer shows a player on a screen. The panes stand in two columns above the status bar: the
source and the output in the left one; the variables, the calls and the log in the right one.

The viewer works in rounds: it draws, goes on with automatic play, and waits for an event.
`Viewer.run` is a sequence of rounds. It ends when the player has quit, or when there are no more
events.
-/

namespace Stepwise

/-! ### Layout -/

/-- The sizes of the panes on a screen. -/
structure Layout where
  source : Size
  output : Size
  bindings : Size
  stack : Size
  trace : Size
  status : Size
deriving DecidableEq, Repr

/-- The layout of a screen of the given size. -/
def Layout.ofSize (size : Size) : Layout :=
  let height := size.height - 1
  let left := percentEdge size.width 55
  let right := size.width - left
  let sourceEnd := percentEdge height 70
  let variablesEnd := percentEdge height 35
  let stackEnd := percentEdge height 60
  { source := ⟨left, sourceEnd⟩
    output := ⟨left, height - sourceEnd⟩
    bindings := ⟨right, variablesEnd⟩
    stack := ⟨right, stackEnd - variablesEnd⟩
    trace := ⟨right, height - stackEnd⟩
    status := ⟨size.width, min size.height 1⟩ }

namespace Player

/-- The items of the pane of the calls. -/
def stackItems (p : Player) : List Item := StackPane.items p.recording.listing p.snapshot.callStack

/-- The items of the pane of the log. -/
def traceItems (p : Player) : List Item := TracePane.items p.snapshot.log p.snapshot.faultMessage?

/-- The player with the scroll states for drawing. -/
def settle (p : Player) (layout : Layout) : Player :=
  let s := p.snapshot
  { p with
    source := p.source.settle p.recording.listing.size s.line layout.source.height
    output := OutputPane.settle s.output layout.output.height p.output
    bindings := VariablesPane.settle s.bindings layout.bindings.height p.bindings
    stack := StackPane.settle p.stackItems.length layout.stack.height p.stack
    trace := TracePane.settle p.traceItems.length layout.trace.height p.trace }

/-- What the status bar shows. -/
def status (p : Player) : Status :=
  ⟨p.message, p.cursor.position, p.cursor.total, p.snapshot.faultMessage?, p.isPlaying⟩

/-- The screen of a player whose scroll states are settled. -/
def draw (p : Player) (layout : Layout) : Screen :=
  let s := p.snapshot
  let left :=
    (SourcePane.draw p.recording.listing s.line s.fault.isSome (p.focus = .source) layout.source
      p.source).above
    (OutputPane.draw s.output (p.focus = .output) layout.output p.output)
  let right :=
    (VariablesPane.draw s.bindings (p.focus = .bindings) layout.bindings p.bindings).above <|
    (StackPane.draw p.stackItems (p.focus = .stack) layout.stack p.stack.offset).above <|
    TracePane.draw p.traceItems (p.focus = .trace) layout.trace p.trace
  (left.beside right).above (p.status.draw layout.status)

end Player

/-! ### Rounds -/

/-- What can happen while the viewer waits. -/
inductive Event where
  | press (key : Key)
  /-- A key held down. -/
  | hold (key : Key)
  | release (key : Key)
  | resize
  /-- Nothing, for a while. -/
  | idle
deriving DecidableEq, Repr

/-- A player and the screen that shows it. -/
structure Viewer where
  player : Player
  size : Size
  /-- What the display shows. -/
  shown : Screen

namespace Viewer

/-- A viewer that has not drawn anything. -/
def start (player : Player) (size : Size) : Viewer := ⟨player, size, .blank size⟩

/-- Draws the player. -/
def draw (v : Viewer) : Viewer :=
  let layout := Layout.ofSize v.size
  let player := v.player.settle layout
  { v with player, shown := v.shown.refresh (player.draw layout) }

/-- Goes on with automatic play. -/
def playOn (v : Viewer) (now : Int) : Viewer := { v with player := v.player.playOn now }

/-- Takes an event. Only a key that is pressed does something. -/
def take (v : Viewer) (now : Int) : Event → Viewer
  | .press key => { v with player := v.player.press now key }
  | .hold _ | .release _ | .resize | .idle => v

/-- Runs the viewer at the time `now` on a sequence of events, one in each round. The result tells
whether the player has quit; otherwise the viewer waits for one more event. -/
def run (now : Int) : List Event → Viewer → Viewer × Bool
  | [], v =>
    let v := v.draw
    if v.player.hasQuit then (v, true) else (v.playOn now, false)
  | event :: rest, v =>
    let v := v.draw
    if v.player.hasQuit then (v, true) else run now rest ((v.playOn now).take now event)

end Viewer
end Stepwise
