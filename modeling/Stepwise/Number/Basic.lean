/-!
# Numbers

Numbers are the binary floating-point numbers of 64 bits. The magnitudes that such a number can have
are listed in increasing order, and a number is its sign together with the place of its magnitude in
that list, its *rank*: rank 0 is zero, rank 1 the least positive magnitude, `topRank` infinity.

- `units` gives the magnitude of a rank as a whole number of least magnitudes, so that all
  arithmetic can be done exactly on natural numbers.
- `nearestRank` is the one place where an exact result is rounded: to the nearest magnitude, and to
  the one of even rank when two are equally near.
- `compare?` and `==` are the order and equality of numbers: both zeros are equal, and what is not a
  number is equal to nothing and is not comparable with anything.
-/

namespace Stepwise

/-- The rank of infinity. -/
def topRank : Nat := 2047 * Nat.pow 2 52

/-- A binary floating-point number. -/
inductive Number where
  /-- The result of an operation that has no numeric result. -/
  | nan
  /-- A sign and a magnitude, zero and infinity included. -/
  | ranked (negative : Bool) (rank : Nat) (rank_le : rank ≤ topRank)
deriving DecidableEq

/-! ### Magnitudes -/

/-- The magnitude of a rank below `topRank`, as a multiple of the least positive magnitude. Up to
rank `2 ^ 53` the magnitudes are evenly spaced; beyond it the spacing doubles every `2 ^ 52`
ranks. -/
def units (rank : Nat) : Nat :=
  let step := Nat.pow 2 52
  if rank < step then rank else (step + rank % step) * Nat.pow 2 (rank / step - 1)

/-- The units in the number one. -/
def unitsOfOne : Nat := Nat.pow 2 1074

/-- The natural number nearest to `num / den`; of two equally near ones the even one. -/
def roundDiv (num den : Nat) : Nat :=
  let quotient := num / den
  let remainder := num % den
  if den < 2 * remainder ∨ (2 * remainder = den ∧ quotient % 2 = 1) then quotient + 1 else quotient

/-- The rank whose magnitude is nearest to `num / den` units; of two equally near ones the even one.
The spacing of the magnitudes near `num / den` is `2 ^ gap` units. Results from `topRank` on stand
for infinity. -/
def nearestRank (num den : Nat) : Nat :=
  let gap := Nat.log2 (num / den) - 52
  gap * Nat.pow 2 52 + roundDiv num (den * Nat.pow 2 gap)

namespace Number

/-- The number of a sign and a rank; ranks beyond infinity are infinity. -/
def ofRank (negative : Bool) (rank : Nat) : Number :=
  .ranked negative (min rank topRank) (Nat.min_le_right rank topRank)

/-- Zero, with a sign. -/
def zero (negative : Bool) : Number := ofRank negative 0

/-- Infinity, with a sign. -/
def infinity (negative : Bool) : Number := ofRank negative topRank

/-- The number nearest to `num / den` units, with a sign. -/
def ofUnits (negative : Bool) (num den : Nat) : Number := ofRank negative (nearestRank num den)

/-- The number nearest to a natural number. -/
def ofNat (n : Nat) : Number := ofUnits false (n * unitsOfOne) 1

/-- Whether the number is neither infinite nor `nan`. -/
def isFinite : Number → Bool
  | nan => false
  | ranked _ rank _ => rank < topRank

/-! ### Order and equality -/

/-- The place of the number on the number line: its rank, counted downwards for negative numbers. -/
def place? : Number → Option Int
  | nan => none
  | ranked negative rank _ => some (if negative then -(rank : Int) else rank)

/-- The order of two numbers, if they are comparable. -/
def compare? (a b : Number) : Option Ordering := do
  let x ← a.place?
  let y ← b.place?
  return compare x y

/-- Equality of numbers: the same place on the number line. -/
def equal (a b : Number) : Bool := a.compare? b == some .eq

instance : BEq Number := ⟨equal⟩

/-! ### Arithmetic -/

/-- The number with the opposite sign. -/
def neg : Number → Number
  | nan => nan
  | ranked negative rank h => ranked (!negative) rank h

/-- The units of a finite number with its sign. -/
def signedUnits (negative : Bool) (rank : Nat) : Int :=
  if negative then -(units rank : Int) else units rank

/-- The sum: exact, then rounded. A sum of zero is negative only when both numbers are. -/
def add : Number → Number → Number
  | nan, _ => nan
  | _, nan => nan
  | ranked s a _, ranked t b _ =>
    if a = topRank then
      if b = topRank ∧ s ≠ t then nan else infinity s
    else if b = topRank then infinity t
    else
      let sum := signedUnits s a + signedUnits t b
      if sum = 0 then zero (s && t) else ofUnits (decide (sum < 0)) sum.natAbs 1

/-- The difference. -/
def sub (a b : Number) : Number := add a (neg b)

/-- The product: exact, then rounded. -/
def mul : Number → Number → Number
  | nan, _ => nan
  | _, nan => nan
  | ranked s a _, ranked t b _ =>
    let negative := s != t
    if a = topRank ∨ b = topRank then
      if a = 0 ∨ b = 0 then nan else infinity negative
    else ofUnits negative (units a * units b) unitsOfOne

/-- The quotient: exact, then rounded. -/
def div : Number → Number → Number
  | nan, _ => nan
  | _, nan => nan
  | ranked s a _, ranked t b _ =>
    let negative := s != t
    if a = topRank then
      if b = topRank then nan else infinity negative
    else if b = topRank then zero negative
    else if b = 0 then
      if a = 0 then nan else infinity negative
    else ofUnits negative (units a * unitsOfOne) (units b)

/-! ### Bit patterns -/

/-- The 64 bits of the number as a natural number: the sign bit, then the rank. -/
def bits? : Number → Option Nat
  | nan => none
  | ranked negative rank _ => some (if negative then Nat.pow 2 63 + rank else rank)

end Number
end Stepwise
