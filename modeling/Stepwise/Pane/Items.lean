import Stepwise.Listing
import Stepwise.Pane.Basic
import Stepwise.Snapshot

/-!
# The item panes

Four panes show parts of a snapshot as items below each other: the variables, the calls, the output
and the log. For each of them there are

- the items,
- the scroll state for drawing the pane (`settle`),
- the pane itself, drawn with a settled scroll state (`draw`).

The panes of the variables and of the output keep their offsets while they are empty. The pane of
the calls goes to its last page whenever it has more items than when it was last drawn.
-/

namespace Stepwise

/-- A pane that shows the window of the items which begins at the offset. -/
def itemPane (title : Text) (items : List Item) (isFocused : Bool) (size : Size) (offset : Nat) :
    Screen :=
  pane title isFocused size fun inside =>
    .ofItems inside (Scroll.window (visibleRows size.height) offset items)

/-! ### Variables -/

/-- The colour of a value. -/
def Value.color : Value → Color
  | .number _ | .string _ => Palette.orange
  | .boolean _ => Palette.blue
  | .undefined | .null => Palette.gray
  | .raw _ => Palette.ink

namespace Variable

/-- The colour for a variable that the step created or modified, and the word for that. -/
def changeMark? (v : Variable) : Option (Color × Text) :=
  if v.isNew then some (Palette.green, "new")
  else if v.isModified then some (Palette.pink, "modified")
  else none

/-- A line with the name, the kind and the value of a variable, and what the step did to it. -/
def line (indent : Nat) (v : Variable) : Line :=
  let remark := Style.ink Palette.gray
  let nameStyle := match v.changeMark? with
    | some (color, _) => (Style.ink color).bold
    | none => .ink Palette.ink
  [.plain (List.replicate indent ' '), ⟨v.name, nameStyle⟩, ⟨": ", remark⟩,
    ⟨v.kind.name, .ink Palette.teal⟩, ⟨" = ", remark⟩, ⟨v.value.literal, .ink v.value.color⟩] ++
    v.changeMark?.toList.map fun (color, word) => ⟨"  ".toList ++ word, .ink color⟩

end Variable

namespace VariablesPane

/-- The scope, and one item for each variable. Without variables there are no items. -/
def items : List Variable → List Item
  | [] => []
  | v :: rest =>
    .ofLine [⟨"scope ", .ink Palette.gray⟩, ⟨v.scope, .ink Palette.yellow⟩] ::
      (v :: rest).map fun w => .ofLine (w.line 1)

/-- The offset for drawing a pane of the given height. -/
def settle (bindings : List Variable) (height offset : Nat) : Nat :=
  if bindings.isEmpty then offset
  else Scroll.settle (items bindings).length (visibleRows height) offset

/-- The variables. -/
def draw (bindings : List Variable) (isFocused : Bool) (size : Size) (offset : Nat) : Screen :=
  if bindings.isEmpty then
    itemPane " Variables " [.ofText (.ink Palette.gray) "(none)"] isFocused size 0
  else itemPane " Variables " (items bindings) isFocused size offset

end VariablesPane

/-! ### Calls -/

/-- Which items the pane of the calls shows. -/
structure StackScroll where
  offset : Nat
  /-- The number of items when the pane was last drawn. -/
  itemCount : Nat
deriving DecidableEq, Repr

namespace StackPane

/-- The items of a call: the function, the line of the call, the parameters and the returned
value. -/
def callItems (listing : Listing) (depth : Nat) (call : Frame) : List Item :=
  let remark := Style.ink Palette.gray
  let function : Line :=
    [⟨"▸ ", .ink Palette.orange⟩, ⟨"Frame ".toList ++ Text.ofNat depth ++ [' '], remark⟩,
      ⟨"│ ", remark⟩, ⟨call.function ++ "()".toList, (Style.ink Palette.yellow).bold⟩]
  let site : Line :=
    [⟨"  ↪ line ".toList ++ Text.ofNat call.line ++ " → ".toList, remark⟩,
      ⟨(listing.get? call.line).getD "???", .ink Palette.khaki⟩]
  let returned (value : Value) : Line :=
    [⟨"    ↖ return ", remark⟩, ⟨value.literal, .ink Palette.pink⟩]
  ([function, site] ++ call.parameters.map (Variable.line 4) ++
    call.returned.toList.map returned).map Item.ofLine

/-- The items of all calls, the first call first. -/
def items (listing : Listing) (stack : CallStack) : List Item :=
  if stack.isEmpty then [.ofText (.ink Palette.gray) "(global scope)"]
  else stack.zipIdx.flatMap fun (call, depth) => callItems listing depth call

/-- The scroll state for drawing `total` items in a pane of the given height. -/
def settle (total height : Nat) (s : StackScroll) : StackScroll :=
  let offset := if s.itemCount < total then Scroll.furthest else s.offset
  ⟨Scroll.settle total (visibleRows height) offset, total⟩

/-- The calls. -/
def draw (items : List Item) (isFocused : Bool) (size : Size) (offset : Nat) : Screen :=
  itemPane " Call Stack " items isFocused size offset

end StackPane

/-! ### Output -/

namespace OutputPane

/-- The offset for drawing a pane of the given height. -/
def settle (output : List Text) (height offset : Nat) : Nat :=
  if output.isEmpty then offset else Scroll.settle output.length (visibleRows height) offset

/-- The printed texts, after an empty column. -/
def draw (output : List Text) (isFocused : Bool) (size : Size) (offset : Nat) : Screen :=
  pane " Output " isFocused size fun inside =>
    if output.isEmpty then
      ((Screen.blank inside).restyle (.ink Palette.gray)).write [[.plain "(no output)"]]
    else
      let margin := Screen.blank ⟨min 1 inside.width, inside.height⟩
      margin.beside <| .ofItems ⟨inside.width - 1, inside.height⟩ <|
        (Scroll.window (visibleRows size.height) offset output).map (Item.ofText (.ink Palette.ink))

end OutputPane

/-! ### Log -/

/-- The colour of an action. -/
def Action.color : Action → Color
  | .assignment => Palette.green
  | .functionCall => Palette.yellow
  | .condition | .loop => Palette.blue
  | .consoleOutput => Palette.teal
  | .expression => Palette.gray

/-- A line with the step, the line and the action of a log entry, and its details. -/
def Entry.row (e : Entry) : Line :=
  [⟨Text.padStart ' ' 3 (Text.ofNat e.step) ++ [' '], .ink Palette.gray⟩,
    ⟨'L' :: Text.padEnd ' ' 3 (Text.ofNat e.line) ++ [' '], .ink Palette.orange⟩,
    ⟨Text.padEnd ' ' 14 e.action.label ++ [' '], .ink e.action.color⟩,
    ⟨e.details, .ink Palette.ink⟩]

namespace TracePane

/-- The log entries, and the fault if there is one. There is always an item. -/
def items (log : List Entry) (fault : Option Text) : List Item :=
  let fault := fault.toList.map fun message => .ofText (.ink Palette.red) ("  ✗ ".toList ++ message)
  let rows := log.map (fun e => .ofLine e.row) ++ fault
  if rows.isEmpty then [.ofText (.ink Palette.gray) "(no steps yet)"] else rows

/-- The offset for drawing `total` items in a pane of the given height. -/
def settle (total height offset : Nat) : Nat := Scroll.settle total (visibleRows height) offset

/-- The log. -/
def draw (items : List Item) (isFocused : Bool) (size : Size) (offset : Nat) : Screen :=
  itemPane " Trace " items isFocused size offset

end TracePane
end Stepwise
