import Stepwise.Proofs.History

/-!
# Pushes

Snapshots may be pushed to a history in any number and any order. A history takes them one by one
until it has taken a complete one, and from then on it stays as it is.

- `exists_keeps`: whatever is pushed, some snapshots are kept, and they are the longest beginning in
  which none but the last is complete (`Keeps.longest`),
- `Keeps.offer_eq`: the answer to a push is told by its place,
- `getElem?_snapshots_clamp`: every step, however far out, is looked up at an index of the history.
-/

namespace Stepwise
namespace History

/-! ### What is kept -/

theorem isFinished_cons (s : Snapshot) {kept : List Snapshot} (hne : kept ≠ []) :
    (⟨s :: kept⟩ : History).isFinished = (⟨kept⟩ : History).isFinished := by
  obtain ⟨others, last, rfl⟩ : ∃ others last, kept = others ++ [last] :=
    ⟨_, _, (List.dropLast_concat_getLast hne).symm⟩
  rw [← List.cons_append, isFinished_append, isFinished_append]

/-- Some snapshots are kept, whichever are pushed. -/
theorem exists_keeps (pushed : List Snapshot) : ∃ kept, Keeps pushed kept := by
  induction pushed with
  | nil => exact ⟨[], List.prefix_refl _, fun s hs => absurd hs List.not_mem_nil, .inl rfl⟩
  | cons s rest ih =>
    cases hs : s.isComplete with
    | true =>
      refine ⟨[s], List.prefix_append [s] rest, fun s' hs' => absurd hs' List.not_mem_nil, .inr ?_⟩
      exact (isFinished_append [] s).trans hs
    | false =>
      obtain ⟨kept, hkeeps⟩ := ih
      refine ⟨s :: kept, (List.prefix_cons_inj s).mpr hkeeps.begins, ?_, ?_⟩
      · intro s' hs'
        cases kept with
        | nil => exact absurd hs' List.not_mem_nil
        | cons next kept =>
          rcases List.mem_cons.mp hs' with rfl | hs'
          · exact hs
          · exact hkeeps.openUntilLast s' hs'
      · rcases hkeeps.ends with rfl | hfinished
        · exact .inl rfl
        · -- a history without steps is not finished
          have hne : kept ≠ [] := by
            rintro rfl
            exact Bool.false_ne_true hfinished
          exact .inr ((isFinished_cons s hne).trans hfinished)

namespace Keeps

variable {pushed kept : List Snapshot} (h : Keeps pushed kept)
include h

/-- A push is answered by whether the snapshot is among those that are kept. -/
theorem offer_eq {k : Nat} {s : Snapshot} (hs : pushed[k]? = some s) :
    (ofSnapshots (pushed.take k)).offer s =
      (decide (k < kept.length), ofSnapshots (pushed.take (k + 1))) := by
  obtain ⟨hk, rfl⟩ := List.getElem?_eq_some_iff.mp hs
  rw [List.take_succ_eq_append_getElem hk, ofSnapshots_append, offer, h.ofSnapshots_take,
    h.isFinished_take_eq hk, Bool.not_not]

/-- No longer beginning has all but its last snapshot open. -/
theorem longest {other : List Snapshot} (hbegins : other <+: pushed) (hopen : OpenUntilLast other) :
    other <+: kept := by
  refine List.prefix_of_prefix_length_le hbegins h.begins (Nat.le_of_not_lt fun hlt => ?_)
  have hkept : other.take kept.length = kept :=
    (List.prefix_iff_eq_take.mp
      (List.prefix_of_prefix_length_le h.begins hbegins (Nat.le_of_lt hlt))).symm
  have hopen' := isFinished_take hopen hlt
  rw [hkept] at hopen'
  rcases h.ends with rfl | hfinished
  · exact absurd hbegins.length_le (Nat.not_le.mpr hlt)
  · exact Bool.false_ne_true (hopen'.symm.trans hfinished)

end Keeps

/-! ### Look-up -/

/-- Every step is looked up at the nearest index. -/
theorem getElem?_snapshots_clamp (h : History) (step : Int) :
    h.snapshots[(max 0 (min step h.totalSteps)).toNat]? = some (h.get step) := by
  have hindex : (max 0 (min step h.totalSteps)).toNat = (h.index step).val := by
    show _ = min step.toNat h.totalSteps
    omega
  rw [hindex, List.getElem?_eq_getElem (h.index step).isLt]
  rfl

/-- Steps after the last one are looked up as the last one. -/
theorem get_of_totalSteps_le (h : History) {step : Int} (hstep : h.totalSteps ≤ step) :
    h.get step = h.last := by
  have hsame : h.index step = h.index h.totalSteps := by
    apply Fin.ext
    show min step.toNat h.totalSteps = min (Int.toNat h.totalSteps) h.totalSteps
    omega
  rw [last, get, get, hsame]

theorem getLast?_snapshots (h : History) : h.snapshots.getLast? = some h.last := by
  rw [List.getLast?_eq_getElem?]
  exact h.getElem?_snapshots (Nat.le_refl _)

/-! ### Sequences of pushes -/

/-- Pushes are kept until one of them is complete. Whatever snapshots are pushed, fewer than
    `2 ^ 63 - 1` of them, the history has the initial snapshot and the longest beginning of the
    pushed ones in which none but the last is complete. The pushes of these are answered by yes; all
    later ones are answered by no and change nothing. Every step, however far out, is looked up at
    the nearest index, the greatest number of 64 bits at the last one, and the history is finished
    when its last snapshot is complete. -/
theorem pushes_kept_until_complete (pushed : List Snapshot)
    (hsize : pushed.length < Nat.pow 2 63 - 1) :
    let history := ofSnapshots pushed
    ∃ kept : List Snapshot, history.snapshots = .initial :: kept ∧
      kept <+: pushed ∧ OpenUntilLast kept ∧
      (∀ other, other <+: pushed → OpenUntilLast other → other <+: kept) ∧
      (∀ (k : Nat) (s : Snapshot), pushed[k]? = some s →
        (ofSnapshots (pushed.take k)).offer s =
          (decide (k < kept.length), ofSnapshots (pushed.take (k + 1)))) ∧
      (∀ k : Nat, kept.length ≤ k → ofSnapshots (pushed.take k) = history) ∧
      history.snapshots.length = history.totalSteps + 1 ∧
      (∀ step : Int, history.snapshots[(max 0 (min step history.totalSteps)).toNat]? =
        some (history.get step)) ∧
      history.get (Nat.pow 2 63 - 1 : Nat) = history.last ∧
        history.snapshots.getLast? = some history.last ∧
      (history.isFinished = true ↔ ∃ s, history.snapshots.getLast? = some s ∧
        s.isComplete = true) := by
  intro history
  obtain ⟨kept, hkeeps⟩ := exists_keeps pushed
  have hhistory : history = ⟨kept⟩ := hkeeps.ofSnapshots_eq
  have htotal : history.totalSteps ≤ Nat.pow 2 63 - 1 := by
    rw [hhistory, totalSteps_eq]
    exact Nat.le_trans hkeeps.begins.length_le (Nat.le_of_lt hsize)
  refine ⟨kept, by rw [hhistory]; rfl, hkeeps.begins, hkeeps.openUntilLast,
    fun other => hkeeps.longest, fun k s => hkeeps.offer_eq, ?_, rfl,
    history.getElem?_snapshots_clamp, history.get_of_totalSteps_le (Int.ofNat_le.mpr htotal),
    history.getLast?_snapshots, ?_⟩
  · intro k hk
    rw [hkeeps.ofSnapshots_take, List.take_of_length_le hk, hhistory]
  · rw [history.getLast?_snapshots]
    constructor
    · intro hfinished
      exact ⟨history.last, rfl, hfinished⟩
    · rintro ⟨s, hs, hcomplete⟩
      cases hs
      exact hcomplete

/-- Of four pushes the second is complete: the third one is refused although it is open, and the
    steps before the first and after the last are looked up as these. -/
theorem pushes_kept_until_complete_second :
    let state : Nat → Bool → Snapshot :=
      fun step isComplete => { Snapshot.initial with step, isComplete }
    let pushed := [state 1 false, state 2 true, state 3 false, state 4 true]
    pushed.length < Nat.pow 2 63 - 1 ∧
      (ofSnapshots pushed).snapshots = [.initial, state 1 false, state 2 true] ∧
      (ofSnapshots (pushed.take 1)).offer (state 2 true) = (true, ofSnapshots (pushed.take 2)) ∧
      (ofSnapshots (pushed.take 2)).offer (state 3 false) = (false, ofSnapshots (pushed.take 3)) ∧
      ofSnapshots (pushed.take 2) = ofSnapshots pushed ∧
      (ofSnapshots pushed).snapshots[0]? = some ((ofSnapshots pushed).get (-Nat.pow 2 63)) ∧
      (ofSnapshots pushed).get (Nat.pow 2 63 - 1 : Nat) = state 2 true := by
  intro state pushed
  have hsize : pushed.length < Nat.pow 2 63 - 1 := by decide
  have hsnapshots : (ofSnapshots pushed).snapshots = [.initial, state 1 false, state 2 true] := by
    decide +kernel
  obtain ⟨kept, hkept, _, _, _, hoffer, hsame, _, hget, hgreatest, hlast, _⟩ :=
    pushes_kept_until_complete pushed hsize
  obtain rfl : kept = [state 1 false, state 2 true] :=
    (List.cons.inj (hkept.symm.trans hsnapshots)).2
  refine ⟨hsize, hsnapshots, hoffer 1 _ rfl, hoffer 2 _ rfl, hsame 2 (Nat.le_refl 2),
    hget (-Nat.pow 2 63), ?_⟩
  rw [hgreatest]
  rw [hsnapshots] at hlast
  exact (Option.some.inj hlast).symm

end History
end Stepwise
