import Stepwise.Expression

/-!
# Comparisons

Values are compared in two ways: `looseEq` tells whether they are equal, `compare?` how they are
ordered, and each of the six operators asks one of the two. The two look at the kinds of the values
in their own ways, so it has to be shown that they tell the same:

- `Number.compare?_swap`, `Value.compare?_swap`: exchanging the sides reverses the order,
- `looseEq_eq_compare?`: two values are loosely equal when they are ordered as equal, nothing apart,
- `looseEq_comm`, `looseEq_of_beq`: loose equality is symmetric, and strictly equal values are
  loosely equal.
-/

namespace Stepwise

/-! ### Orders -/

/-- Exchanging the sides reverses the order of numbers; without an order there is none either
    way. -/
theorem Number.compare?_swap (a b : Number) : b.compare? a = (a.compare? b).map Ordering.swap := by
  unfold compare?
  cases a.place? with
  | none => cases b.place? <;> rfl
  | some x =>
    cases b.place? with
    | none => rfl
    | some y =>
      show some (compare y x) = some (compare x y).swap
      exact congrArg some Std.OrientedCmp.eq_swap

namespace Value

/-- Exchanging the sides reverses the order of values. -/
theorem compare?_swap (a b : Value) : b.compare? a = (a.compare? b).map Ordering.swap := by
  unfold compare?
  cases a.text? with
  | none => cases b.text? <;> exact Number.compare?_swap _ _
  | some s =>
    cases b.text? with
    | none => exact Number.compare?_swap _ _
    | some t =>
      show some (compare t s) = some (compare s t).swap
      exact congrArg some Std.OrientedCmp.eq_swap

/-! ### Loose equality -/

/-- The numbers of the truth values are as different as the truth values. -/
theorem boolean_beq (p q : Bool) : (p == q) = ((boolean p).toNumber == (boolean q).toNumber) := by
  cases p <;> cases q <;> decide +kernel

/-- Texts are the same when neither comes before the other. -/
theorem text_beq (s t : Text) : (s == t) = (some (compare s t) == some Ordering.eq) := by
  rw [Bool.eq_iff_iff, beq_iff_eq, beq_iff_eq, Option.some.injEq, Std.compare_eq_iff_eq]

/-- Values that are something are loosely equal when they are ordered as equal. -/
theorem looseEq_eq_compare? {a b : Value} (ha : a.isNothing = false) (hb : b.isNothing = false) :
    a.looseEq b = (a.compare? b == some .eq) := by
  have hsome : (a.isNothing || b.isNothing) = false := by rw [ha, hb, Bool.or_self]
  unfold looseEq
  rw [hsome, if_neg Bool.false_ne_true]
  split
  · rfl
  · exact boolean_beq _ _
  · unfold compare?
    split
    · exact text_beq _ _
    · rfl

/-- Nothing is loosely equal to nothing, and only to that. -/
theorem looseEq_of_isNothing {a b : Value} (h : (a.isNothing || b.isNothing) = true) :
    a.looseEq b = (a.isNothing && b.isNothing) := by
  unfold looseEq
  rw [if_pos h]

theorem looseEq_comm (a b : Value) : a.looseEq b = b.looseEq a := by
  by_cases h : (a.isNothing || b.isNothing) = true
  · have h' : (b.isNothing || a.isNothing) = true := by rwa [Bool.or_comm]
    rw [looseEq_of_isNothing h, looseEq_of_isNothing h', Bool.and_comm]
  · -- The order of two values is `eq` when the reverse order is.
    obtain ⟨ha, hb⟩ : a.isNothing = false ∧ b.isNothing = false := by simpa using h
    rw [looseEq_eq_compare? ha hb, looseEq_eq_compare? hb ha, compare?_swap a b]
    cases a.compare? b with
    | none => rfl
    | some order => cases order <;> rfl

/-- Strictly equal values are loosely equal. -/
theorem looseEq_of_beq {a b : Value} (h : (a == b) = true) : a.looseEq b = true := by
  have hequal : equal a b = true := h
  unfold equal at hequal
  split at hequal
  · exact hequal
  · exact hequal
  · exact hequal
  · rfl
  · rfl
  · exact hequal
  · cases hequal

/-! ### Operators -/

/-- The comparisons of two values hang together, whatever their kinds are. Equality is symmetric,
    exchanging the sides reverses the order, and the operators are what the two make of them: `!=`
    is the negation of `==`, `<` is `>` with the sides exchanged, `<=` is `<` or equality of order,
    and of `<` and `>=` at most one holds, and none only for values without an order. Values that
    are strictly equal are loosely equal, and values that are something are loosely equal exactly
    when they are ordered as equal. -/
theorem comparisons_consistent (a b : Value) :
    a.looseEq b = b.looseEq a ∧
    b.compare? a = (a.compare? b).map Ordering.swap ∧
    Comparison.ne.holds a b = !Comparison.eq.holds a b ∧
    Comparison.lt.holds a b = Comparison.gt.holds b a ∧
    (Comparison.le.holds a b = true ↔ Comparison.lt.holds a b = true ∨ a.compare? b = some .eq) ∧
    ¬(Comparison.lt.holds a b = true ∧ Comparison.ge.holds a b = true) ∧
    (Comparison.lt.holds a b = false ∧ Comparison.ge.holds a b = false ↔ a.compare? b = none) ∧
    ((a == b) = true → a.looseEq b = true) ∧
    (a.isNothing = false → b.isNothing = false →
      (a.looseEq b = true ↔ a.compare? b = some .eq)) := by
  refine ⟨looseEq_comm a b, compare?_swap a b, rfl, ?_, ?_, ?_, ?_, looseEq_of_beq, ?_⟩
  · show (a.compare? b == some .lt) = (b.compare? a == some .gt)
    rw [compare?_swap a b]
    cases a.compare? b with
    | none => rfl
    | some order => cases order <;> rfl
  · simp only [Comparison.holds, Bool.or_eq_true, beq_iff_eq]
  · simp only [Comparison.holds]
    cases a.compare? b with
    | none => simp
    | some order => cases order <;> simp
  · simp only [Comparison.holds]
    cases a.compare? b with
    | none => simp
    | some order => cases order <;> simp
  · intro ha hb
    rw [looseEq_eq_compare? ha hb, beq_iff_eq]

/-- The two zeros are equal in every way. -/
theorem comparisons_consistent_zeros :
    let a := number (.zero false)
    let b := number (.zero true)
    (a == b) = true ∧ a.isNothing = false ∧ b.isNothing = false ∧ a.looseEq b = true ∧
      a.compare? b = some .eq := by
  intro a b
  have hequal : (a == b) = true := by decide +kernel
  obtain ⟨_, _, _, _, _, _, _, hbeq, hiff⟩ := comparisons_consistent a b
  have hloose := hbeq hequal
  exact ⟨hequal, rfl, rfl, hloose, (hiff rfl rfl).mp hloose⟩

end Value
end Stepwise
