import Stepwise.Snapshot

/-!
# Histories

A history is the sequence of the snapshots of a run. It begins with the initial snapshot and takes
no more snapshots after a complete one. A `Cursor` walks through the steps of a history.
-/

namespace Stepwise

/-- The snapshots of a run. -/
structure History where
  /-- The snapshots after the initial one. -/
  later : List Snapshot
deriving DecidableEq, BEq

namespace History

/-- The history of a run before its first step. -/
def start : History := ⟨[]⟩

/-- All snapshots, the initial one first. -/
def snapshots (h : History) : List Snapshot := .initial :: h.later

/-- The number of steps. -/
def totalSteps (h : History) : Nat := h.snapshots.length - 1

/-- The index of a step: steps before the first and after the last are cut to these. -/
def index (h : History) (step : Int) : Fin h.snapshots.length :=
  ⟨min step.toNat h.totalSteps, by simp only [totalSteps, snapshots, List.length_cons]; omega⟩

/-- The snapshot of a step, or the nearest one. -/
def get (h : History) (step : Int) : Snapshot := h.snapshots.get (h.index step)

/-- The snapshot of the last step. -/
def last (h : History) : Snapshot := h.get h.totalSteps

/-- Whether the run has ended. -/
def isFinished (h : History) : Bool := h.last.isComplete

/-- The history with one more snapshot; a history that is finished stays as it is. -/
def push (h : History) (s : Snapshot) : History := if h.isFinished then h else ⟨h.later ++ [s]⟩

/-- Pushes a snapshot, and tells whether the history took it. -/
def offer (h : History) (s : Snapshot) : Bool × History := (!h.isFinished, h.push s)

/-- The history of a sequence of snapshots. -/
def ofSnapshots (snapshots : List Snapshot) : History := snapshots.foldl push start

end History

/-! ### Cursors -/

/-- A position in a history of `total` steps. -/
structure Cursor where
  position : Nat
  total : Nat
deriving DecidableEq, Repr

namespace Cursor

/-- The cursor before the first step. -/
def start (total : Nat) : Cursor := ⟨0, total⟩

/-- The position as a signed number of 64 bits. -/
def step (c : Cursor) : Int := Int.bmod c.position (Nat.pow 2 64)

/-- Whether the cursor is before the first step. -/
def atStart (c : Cursor) : Bool := c.position == 0

/-- Whether the cursor is at the last step. -/
def atEnd (c : Cursor) : Bool := c.total ≤ c.position

/-- One step forward, unless at the end. -/
def forward (c : Cursor) : Cursor := if c.atEnd then c else { c with position := c.position + 1 }

/-- One step back, unless at the start. -/
def backward (c : Cursor) : Cursor := if c.atStart then c else { c with position := c.position - 1 }

/-- The steps that are left to take, at most `n`. -/
def available (c : Cursor) (n : Nat) : Nat := min n (c.total - c.position)

/-- Up to `n` steps forward. -/
def advance (c : Cursor) (n : Nat) : Cursor := { c with position := c.position + c.available n }

/-- Back to the start. -/
def rewind (c : Cursor) : Cursor := { c with position := 0 }

/-- On to the end. -/
def toEnd (c : Cursor) : Cursor := { c with position := c.total }

/-- What can be done with a cursor. -/
inductive Operation where
  | forward
  | backward
  | advance (n : Nat)
  | rewind
  | toEnd
deriving DecidableEq, Repr

/-- What an operation tells. -/
inductive Answer where
  /-- Whether the step was taken. -/
  | moved (taken : Bool)
  /-- How many steps were taken. -/
  | steps (taken : Nat)
  /-- Nothing. -/
  | done
deriving DecidableEq, Repr

/-- What an operation tells, and the cursor after it. -/
def operate (c : Cursor) : Operation → Answer × Cursor
  | .forward => (.moved (!c.atEnd), c.forward)
  | .backward => (.moved (!c.atStart), c.backward)
  | .advance n => (.steps (c.available n), c.advance n)
  | .rewind => (.done, c.rewind)
  | .toEnd => (.done, c.toEnd)

end Cursor
end Stepwise
