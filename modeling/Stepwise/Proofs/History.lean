import Stepwise.History

/-!
# Laws of histories

- a step between zero and the last one is the index of its snapshot (`getElem?_snapshots`),
- `Keeps` says which of the pushed snapshots are kept, without speaking of pushes; after `k` pushes
  the history has the first `k` of them (`Keeps.ofSnapshots_take`),
- a history keeps every snapshot that is pushed when none but the last is complete
  (`later_ofSnapshots`), since no push then finds the history finished
  (`isFinished_ofSnapshots_take`).
-/

namespace Stepwise
namespace History

/-! ### Access -/

theorem totalSteps_eq (h : History) : h.totalSteps = h.later.length := rfl

/-- Within the history, a step is the index of its snapshot. -/
theorem getElem?_snapshots (h : History) {k : Nat} (hk : k ≤ h.totalSteps) :
    h.snapshots[k]? = some (h.get k) := by
  have hlen : k < h.snapshots.length := by
    have : h.snapshots.length = h.totalSteps + 1 := rfl
    omega
  have hindex : h.index (k : Int) = ⟨k, hlen⟩ := by
    apply Fin.ext
    show min (Int.toNat (k : Int)) h.totalSteps = k
    rw [Int.toNat_natCast]
    omega
  rw [List.getElem?_eq_getElem hlen]
  show some h.snapshots[k] = some (h.snapshots.get (h.index (k : Int)))
  rw [hindex]
  rfl

@[simp] theorem get_zero (h : History) : h.get 0 = .initial := by
  have := h.getElem?_snapshots (Nat.zero_le _)
  exact (Option.some.inj this).symm

/-- The snapshots after the initial one are those of the steps from the first on. -/
theorem getElem?_later (h : History) {k : Nat} (hk : k < h.totalSteps) :
    h.later[k]? = some (h.get (k + 1 : Nat)) := h.getElem?_snapshots hk

theorem get_succ {h : History} {k : Nat} {s : Snapshot} (hs : h.later[k]? = some s) :
    h.get (k + 1 : Nat) = s := by
  have hk : k < h.totalSteps := (List.getElem?_eq_some_iff.mp hs).1
  rw [h.getElem?_later hk] at hs
  exact Option.some.inj hs

theorem last_eq (h : History) : h.last = h.get h.totalSteps := rfl

/-- After the first step, the last snapshot is that of a step. -/
theorem getLast?_later {h : History} (hpos : 0 < h.totalSteps) :
    h.later.getLast? = some h.last := by
  have htotal : h.totalSteps = h.later.length - 1 + 1 := by
    rw [totalSteps_eq] at hpos ⊢
    omega
  have hlt : h.later.length - 1 < h.later.length := by
    rw [totalSteps_eq] at hpos
    omega
  rw [last_eq, htotal, List.getLast?_eq_getElem?, List.getElem?_eq_getElem hlt]
  exact congrArg some (get_succ (List.getElem?_eq_getElem hlt)).symm

/-! ### Pushes -/

theorem isFinished_start : start.isFinished = false := rfl

/-- A history is finished when its last snapshot is complete. -/
theorem isFinished_append (later : List Snapshot) (s : Snapshot) :
    (⟨later ++ [s]⟩ : History).isFinished = s.isComplete := by
  have hlast : (⟨later ++ [s]⟩ : History).last = s := by
    have hs : (⟨later ++ [s]⟩ : History).later[later.length]? = some s := by simp
    have htotal : (⟨later ++ [s]⟩ : History).totalSteps = later.length + 1 := by
      simp [totalSteps_eq]
    rw [last_eq, htotal]
    exact get_succ hs
  unfold isFinished
  rw [hlast]

/-- The snapshots are pushed one by one. -/
theorem ofSnapshots_append (snapshots : List Snapshot) (s : Snapshot) :
    ofSnapshots (snapshots ++ [s]) = (ofSnapshots snapshots).push s := by
  simp only [ofSnapshots, List.foldl_append, List.foldl_cons, List.foldl_nil]

/-- None of the snapshots but the last is complete. -/
def OpenUntilLast (snapshots : List Snapshot) : Prop :=
  ∀ s ∈ snapshots.dropLast, s.isComplete = false

/-- As long as snapshots are left, the history of the first ones is not finished. -/
theorem isFinished_take {snapshots : List Snapshot} (hopen : OpenUntilLast snapshots) {k : Nat}
    (hk : k < snapshots.length) : (⟨snapshots.take k⟩ : History).isFinished = false := by
  cases k with
  | zero => exact isFinished_start
  | succ k =>
    have hlt : k < snapshots.length := by omega
    rw [List.take_succ_eq_append_getElem hlt, isFinished_append]
    apply hopen
    -- the snapshot is not the last one
    rw [List.mem_iff_getElem]
    refine ⟨k, by rw [List.length_dropLast]; omega, ?_⟩
    rw [List.getElem_dropLast]

/-- Of the pushed snapshots the first ones are kept: all of them, or those up to the first complete
    one. -/
structure Keeps (pushed kept : List Snapshot) : Prop where
  begins : kept <+: pushed
  openUntilLast : OpenUntilLast kept
  ends : kept = pushed ∨ (⟨kept⟩ : History).isFinished = true

namespace Keeps

variable {pushed kept : List Snapshot} (h : Keeps pushed kept)
include h

/-- While snapshots are left, the history is finished when it has all that are kept. -/
theorem isFinished_take_eq {k : Nat} (hk : k < pushed.length) :
    (⟨kept.take k⟩ : History).isFinished = !decide (k < kept.length) := by
  by_cases hkept : k < kept.length
  · rw [isFinished_take h.openUntilLast hkept, decide_eq_true hkept, Bool.not_true]
  · rw [decide_eq_false hkept, Bool.not_false, List.take_of_length_le (Nat.le_of_not_lt hkept)]
    rcases h.ends with rfl | hfinished
    · exact absurd hk hkept
    · exact hfinished

/-- After `k` pushes, the history has the first `k` of the kept snapshots. -/
theorem ofSnapshots_take (k : Nat) : ofSnapshots (pushed.take k) = ⟨kept.take k⟩ := by
  induction k with
  | zero => rfl
  | succ k ih =>
    rcases Nat.lt_or_ge k pushed.length with hk | hk
    · rw [List.take_succ_eq_append_getElem hk, ofSnapshots_append, ih, push,
        h.isFinished_take_eq hk]
      by_cases hkept : k < kept.length
      · rw [List.take_succ_eq_append_getElem hkept, h.begins.getElem hkept, decide_eq_true hkept]
        rfl
      · -- all that are kept have been pushed before
        rw [decide_eq_false hkept, List.take_of_length_le (Nat.le_of_not_lt hkept),
          List.take_of_length_le (Nat.le_succ_of_le (Nat.le_of_not_lt hkept))]
        rfl
    · have hkept : kept.length ≤ k := Nat.le_trans h.begins.length_le hk
      rw [List.take_of_length_le hk, List.take_of_length_le hkept] at ih
      rw [List.take_of_length_le (Nat.le_succ_of_le hk),
        List.take_of_length_le (Nat.le_succ_of_le hkept), ih]

theorem ofSnapshots_eq : ofSnapshots pushed = ⟨kept⟩ := by
  have hall := h.ofSnapshots_take pushed.length
  rwa [List.take_length, List.take_of_length_le h.begins.length_le] at hall

end Keeps

section openUntilLast
variable {snapshots : List Snapshot} (hopen : OpenUntilLast snapshots)
include hopen

/-- When none but the last is complete, all snapshots are kept. -/
theorem keeps_all : Keeps snapshots snapshots := ⟨List.prefix_refl _, hopen, .inl rfl⟩

theorem later_ofSnapshots : (ofSnapshots snapshots).later = snapshots := by
  rw [(keeps_all hopen).ofSnapshots_eq]

/-- No push finds the history finished. -/
theorem isFinished_ofSnapshots_take {k : Nat} (hk : k < snapshots.length) :
    (ofSnapshots (snapshots.take k)).isFinished = false := by
  rw [(keeps_all hopen).ofSnapshots_take]
  exact isFinished_take hopen hk

end openUntilLast

end History
end Stepwise
