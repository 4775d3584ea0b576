import Stepwise.Proofs.Playback

/-!
# Laws of cursors

A cursor is moved by any sequence of operations from the first step of a history on.

- `moves_operate`: each operation is one of the moves that stay within the history, so that all
  positions of a run are steps of it (`run_within`),
- `operateWords` makes the same operations in words of 64 bits, whose sums and differences may wrap
  around; within the history none does (`operateWords_eq`, `runWords_eq`),
- `advance_advance` and `available_add`: advancing is additive, and a step forward is to advance by
  one (`forward_eq_advance`), so that advancing is the same as stepping forward again and again
  (`run_forward`).
-/

namespace Stepwise
namespace Cursor

/-! ### Sequences of operations -/

/-- What a sequence of operations tells, and the cursor after it, where `operate` makes a single
    one. -/
def runWith (operate : Cursor → Operation → Answer × Cursor) (c : Cursor) :
    List Operation → List Answer × Cursor
  | [] => ([], c)
  | operation :: rest =>
    let later := runWith operate (operate c operation).2 rest
    ((operate c operation).1 :: later.1, later.2)

/-- What a sequence of operations tells, and the cursor after it. -/
def run (c : Cursor) (operations : List Operation) : List Answer × Cursor :=
  c.runWith operate operations

variable {c : Cursor}

theorem moves_operate (c : Cursor) (operation : Operation) : c.Moves (c.operate operation).2 := by
  cases operation with
  | forward => exact .forward
  | backward => exact .backward
  | advance n => exact .advance n
  | rewind => exact .rewind
  | toEnd => exact .toEnd

/-- No sequence of operations leads out of the history. -/
theorem run_within (hle : c.position ≤ c.total) (operations : List Operation) :
    (c.run operations).2.total = c.total ∧ (c.run operations).2.position ≤ c.total := by
  induction operations generalizing c with
  | nil => exact ⟨rfl, hle⟩
  | cons operation rest ih =>
    obtain ⟨htotal, hle'⟩ := (c.moves_operate operation).within hle
    rw [← htotal]
    exact ih hle'

/-! ### Words -/

/-- The sum in words of 64 bits, which begin again at zero. -/
def wordAdd (a b : Nat) : Nat := (UInt64.ofNat a + UInt64.ofNat b).toNat

/-- The difference in words of 64 bits, which go on below zero from the greatest one. -/
def wordSub (a b : Nat) : Nat := (UInt64.ofNat a - UInt64.ofNat b).toNat

theorem wordAdd_eq {a b : Nat} (h : a + b < Nat.pow 2 64) : wordAdd a b = a + b := by
  have hpow : Nat.pow 2 64 = 18446744073709551616 := rfl
  unfold wordAdd
  rw [UInt64.toNat_add, UInt64.toNat_ofNat', UInt64.toNat_ofNat']
  omega

theorem wordSub_eq {a b : Nat} (ha : a < Nat.pow 2 64) (hle : b ≤ a) : wordSub a b = a - b := by
  have hpow : Nat.pow 2 64 = 18446744073709551616 := rfl
  unfold wordSub
  rw [UInt64.toNat_sub, UInt64.toNat_ofNat', UInt64.toNat_ofNat']
  omega

/-- The operations of a cursor, with all sums and differences made in words. -/
def operateWords (c : Cursor) : Operation → Answer × Cursor
  | .forward =>
    if c.atEnd then (.moved false, c)
    else (.moved true, { c with position := wordAdd c.position 1 })
  | .backward =>
    if c.atStart then (.moved false, c)
    else (.moved true, { c with position := wordSub c.position 1 })
  | .advance n =>
    let taken := min n (wordSub c.total c.position)
    (.steps taken, { c with position := wordAdd c.position taken })
  | .rewind => (.done, { c with position := 0 })
  | .toEnd => (.done, { c with position := c.total })

/-- Within a history whose number of steps is a word, no sum or difference wraps around. -/
theorem operateWords_eq (hle : c.position ≤ c.total) (hfits : c.total < Nat.pow 2 64)
    (operation : Operation) :
    c.operateWords operation = c.operate operation := by
  cases operation with
  | forward =>
    unfold operateWords operate forward
    cases hend : c.atEnd with
    | true => rfl
    | false =>
      have hlt : ¬ c.total ≤ c.position := of_decide_eq_false hend
      rw [wordAdd_eq (by omega)]
      rfl
  | backward =>
    unfold operateWords operate backward
    cases hstart : c.atStart with
    | true => rfl
    | false =>
      have hne : c.position ≠ 0 := beq_eq_false_iff_ne.mp hstart
      rw [wordSub_eq (by omega) (by omega)]
      rfl
  | advance n =>
    show (Answer.steps (min n (wordSub c.total c.position)),
      { c with position := wordAdd c.position (min n (wordSub c.total c.position)) }) = _
    rw [wordSub_eq hfits hle, wordAdd_eq (by omega)]
    rfl
  | rewind => rfl
  | toEnd => rfl

theorem runWords_eq (hle : c.position ≤ c.total) (hfits : c.total < Nat.pow 2 64)
    (operations : List Operation) :
    c.runWith operateWords operations = c.run operations := by
  induction operations generalizing c with
  | nil => rfl
  | cons operation rest ih =>
    obtain ⟨htotal, hle'⟩ := (c.moves_operate operation).within hle
    have hlater := ih hle' (htotal ▸ hfits)
    show ((c.operateWords operation).1 ::
        (runWith operateWords (c.operateWords operation).2 rest).1,
        (runWith operateWords (c.operateWords operation).2 rest).2) = _
    rw [operateWords_eq hle hfits, hlater]
    rfl

/-! ### Advancing -/

theorem advance_advance (c : Cursor) (m n : Nat) : (c.advance m).advance n = c.advance (m + n) := by
  unfold advance available
  rw [Cursor.mk.injEq]
  refine ⟨?_, rfl⟩
  show c.position + min m (c.total - c.position) +
      min n (c.total - (c.position + min m (c.total - c.position))) = _
  omega

theorem available_add (c : Cursor) (m n : Nat) :
    c.available m + (c.advance m).available n = c.available (m + n) := by
  show min m (c.total - c.position) +
      min n (c.total - (c.position + min m (c.total - c.position))) = _
  unfold available
  omega

/-- A step forward is to advance by one. -/
theorem forward_eq_advance (hle : c.position ≤ c.total) : c.forward = c.advance 1 := by
  rw [forward_eq hle]
  unfold advance available
  rw [Cursor.mk.injEq]
  refine ⟨?_, rfl⟩
  omega

/-- Whether a step forward is taken is how many steps are left, of at most one. -/
theorem available_one (c : Cursor) : c.available 1 = if c.atEnd then 0 else 1 := by
  unfold available atEnd
  split
  · rename_i hend
    have hle := of_decide_eq_true hend
    omega
  · rename_i hend
    have hlt : ¬ c.total ≤ c.position := fun hle => hend (decide_eq_true hle)
    omega

/-- Stepping forward `n` times leads to where advancing by `n` does, and takes as many steps. -/
theorem run_forward (hle : c.position ≤ c.total) (n : Nat) :
    (c.run (List.replicate n .forward)).2 = c.advance n ∧
      (c.run (List.replicate n .forward)).1.count (.moved true) = c.available n := by
  induction n generalizing c with
  | zero =>
    have hnone : c.available 0 = 0 := Nat.zero_min _
    refine ⟨?_, hnone.symm⟩
    unfold advance
    rw [hnone]
    rfl
  | succ n ih =>
    -- the first step, and then `n` more from where it leads
    obtain ⟨_, hle'⟩ := (Moves.forward (c := c)).within hle
    obtain ⟨hcursor, hcount⟩ := ih hle'
    rw [forward_eq_advance hle] at hcursor hcount
    have hrun : c.run (List.replicate (n + 1) .forward) =
        (.moved (!c.atEnd) :: ((c.advance 1).run (List.replicate n .forward)).1,
          ((c.advance 1).run (List.replicate n .forward)).2) := by
      rw [← forward_eq_advance hle]
      rfl
    rw [hrun, Nat.add_comm n 1, ← advance_advance, ← available_add, List.count_cons]
    refine ⟨hcursor, ?_⟩
    rw [hcount, available_one, Nat.add_comm]
    cases c.atEnd <;> rfl

/-! ### Steps back -/

/-- A step back undoes a step forward. -/
theorem operate_backward_forward (h : c.atEnd = false) :
    c.forward.operate .backward = (.moved true, c) := by
  have hforward : c.forward = { c with position := c.position + 1 } := by
    unfold forward
    rw [h]
    rfl
  rw [hforward]
  rfl

/-- A step forward undoes a step back. -/
theorem operate_forward_backward (hle : c.position ≤ c.total) (h : c.atStart = false) :
    c.backward.operate .forward = (.moved true, c) := by
  have hne : c.position ≠ 0 := beq_eq_false_iff_ne.mp h
  have hbackward : c.backward = { c with position := c.position - 1 } := by
    unfold backward
    rw [h]
    rfl
  have hend : Cursor.atEnd { c with position := c.position - 1 } = false := by
    show decide (c.total ≤ c.position - 1) = false
    exact decide_eq_false (by omega)
  rw [hbackward]
  unfold operate forward
  rw [hend]
  show (Answer.moved true, (⟨c.position - 1 + 1, c.total⟩ : Cursor)) = _
  rw [Nat.sub_add_cancel (Nat.pos_of_ne_zero hne)]

/-- The laws of cursors. Whatever is done with the cursor of a history, it stays within the history,
    also when it is computed in words of 64 bits, where no sum or difference wraps around. To
    advance is to step forward as often, and it tells how many of these steps were taken; to advance
    twice is to advance by the sum. A step that was taken is undone by a step in the other
    direction. -/
theorem cursor_laws (total : Nat) (operations : List Operation) :
    let c := ((start total).run operations).2
    c.total = total ∧ c.position ≤ total ∧
    (total < Nat.pow 2 64 → (start total).runWith operateWords operations =
      (start total).run operations) ∧
    (∀ n, c.operate (.advance n) =
      (.steps ((c.run (List.replicate n .forward)).1.count (.moved true)),
        (c.run (List.replicate n .forward)).2)) ∧
    (∀ m n, (c.advance m).advance n = c.advance (m + n) ∧
      c.available m + (c.advance m).available n = c.available (m + n)) ∧
    ((c.operate .forward).1 = .moved true →
      (c.operate .forward).2.operate .backward = (.moved true, c)) ∧
    ((c.operate .backward).1 = .moved true →
      (c.operate .backward).2.operate .forward = (.moved true, c)) := by
  intro c
  have hstart : (start total).position ≤ (start total).total := Nat.zero_le total
  obtain ⟨htotal, hle⟩ : c.total = total ∧ c.position ≤ total := run_within hstart operations
  have hwithin : c.position ≤ c.total := htotal.symm ▸ hle
  refine ⟨htotal, hle, fun hfits => runWords_eq hstart hfits operations, ?_,
    fun m n => ⟨c.advance_advance m n, c.available_add m n⟩, ?_, ?_⟩
  · intro n
    obtain ⟨hcursor, hcount⟩ := run_forward hwithin n
    rw [hcursor, hcount]
    rfl
  · intro h
    exact operate_backward_forward ((Bool.not_eq_true' _).mp (Answer.moved.inj h))
  · intro h
    exact operate_forward_backward hwithin ((Bool.not_eq_true' _).mp (Answer.moved.inj h))

end Cursor
end Stepwise
