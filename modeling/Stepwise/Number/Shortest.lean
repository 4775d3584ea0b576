import Stepwise.Number.Decimal

/-!
# Shortest decimals

The decimal that is written for a number is the one with the fewest digits among those that read
back as the number, and of these the nearest to it. For each count of digits only two decimals come
into question, the neighbours of the magnitude on the grid of that many digits.
-/

namespace Stepwise

/-- Which of two equally near decimals is written. -/
inductive Tie where
  /-- The greater one. -/
  | up
  /-- The one whose coefficient is even. -/
  | toEven
deriving DecidableEq, Repr

/-- The exponent `k` with `10 ^ k ≤ num / den < 10 ^ (k + 1)`, for positive `num` and `den`. -/
def decimalExponent (num den : Nat) : Int :=
  if den ≤ num then (Text.ofNat (num / den)).length - 1
  else
    let size := (Text.ofNat (den / num)).length
    if den ≤ num * Nat.pow 10 (size - 1) then 1 - (size : Int) else -(size : Int)

namespace Decimal

/-- Of the decimals with `count` digits next to the magnitude of `rank`, the nearest that reads back
as `rank`. -/
def nearest? (tie : Tie) (rank count : Nat) : Option Decimal :=
  let num := units rank
  let exponent := decimalExponent num unitsOfOne - count + 1
  let (num, den) := match exponent with
    | .ofNat e => (num, unitsOfOne * Nat.pow 10 e)
    | .negSucc e => (num * Nat.pow 10 (e + 1), unitsOfOne)
  let lower : Decimal := ⟨num / den, exponent⟩
  let upper : Decimal := ⟨num / den + 1, exponent⟩
  let remainder := num % den
  let preferUpper :=
    den < 2 * remainder ∨
      (2 * remainder = den ∧ (tie = .up ∨ lower.coefficient % 2 = 1))
  let (first, second) := if preferUpper then (upper, lower) else (lower, upper)
  if first.rank = rank then some first
  else if second.rank = rank then some second
  else none

/-- The magnitude of a rank with all its digits. -/
def exact (rank : Nat) : Decimal := ⟨units rank * Nat.pow 5 1074, -1074⟩

/-- The shortest decimal that reads back as `rank`. Seventeen digits are enough for every rank. -/
def shortest (tie : Tie) (rank : Nat) : Decimal :=
  ((List.range 17).findSome? fun i => nearest? tie rank (i + 1)).getD (exact rank)

end Decimal
end Stepwise
