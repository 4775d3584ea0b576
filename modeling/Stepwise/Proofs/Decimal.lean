import Mathlib.Tactic.Ring
import Stepwise.Number.Shortest

/-!
# Decimals read back

The decimal that is chosen for a rank has that rank again, however many digits it has.

- `digitsValue_ofNat`: the digits of a number denote it,
- `rank_shift`: zeros at the end of a coefficient do not change the rank of a decimal,
- `nearestRank_units`: a magnitude is its own nearest magnitude,
- `rank_exact`, `rank_shortest`: so the decimal with all its digits reads back, and with it the
  shortest one.
-/

namespace Stepwise
namespace Text

/-! ### Digits -/

theorem digitsValue_ofNat (n : Nat) : digitsValue (ofNat n) = n := Nat.ofDigitChars_ten_toDigits

theorem isDigit_of_mem_ofNat {n : Nat} {c : Char} (h : c ∈ ofNat n) : c.isDigit = true :=
  Nat.isDigit_of_mem_toDigits (by decide) (by decide) h

theorem isDigits_ofNat (n : Nat) : (ofNat n).isDigits = true := by
  have hne : ofNat n ≠ [] := Nat.toDigits_ne_nil
  have hall : ∀ c ∈ ofNat n, c.isDigit = true := fun c => isDigit_of_mem_ofNat
  simpa [isDigits, hne] using hall

theorem digitsValue_append (a b : Text) :
    digitsValue (a ++ b) = digitsValue a * 10 ^ b.length + digitsValue b := by
  have happend : digitsValue (a ++ b) = Nat.ofDigitChars 10 b (digitsValue a) :=
    Nat.ofDigitChars_append 0
  rw [happend, Nat.ofDigitChars_eq_ofDigitChars_zero, Nat.mul_comm]
  rfl

theorem isDigit_of_mem_zeros {n : Nat} {c : Char} (h : c ∈ List.replicate n '0') :
    c.isDigit = true :=
  List.eq_of_mem_replicate h ▸ rfl

theorem digitsValue_zeros (n : Nat) : digitsValue (List.replicate n '0') = 0 := by
  have hzeros : digitsValue (List.replicate n '0') = 10 ^ n * 0 := Nat.ofDigitChars_replicate_zero
  simpa using hzeros

theorem digitsValue_append_zeros (text : Text) (n : Nat) :
    digitsValue (text ++ List.replicate n '0') = digitsValue text * 10 ^ n := by
  rw [digitsValue_append, digitsValue_zeros, List.length_replicate, Nat.add_zero]

theorem ofNat_mul_ten {n : Nat} (h : n ≠ 0) : ofNat (n * 10) = ofNat n ++ ['0'] := by
  have hlast : n * 10 / 10 = n ∧ n * 10 % 10 = 0 := by omega
  have hsplit : ofNat (n * 10) = ofNat (n * 10 / 10) ++ [Nat.digitChar (n * 10 % 10)] :=
    Nat.toDigits_of_base_le (by decide) (by omega)
  rwa [hlast.1, hlast.2] at hsplit

theorem ofNat_mul_pow_ten {n : Nat} (h : n ≠ 0) (k : Nat) :
    ofNat (n * 10 ^ k) = ofNat n ++ List.replicate k '0' := by
  induction k with
  | zero => simp
  | succ k ih =>
    have hne : n * 10 ^ k ≠ 0 := Nat.mul_ne_zero h (Nat.pow_pos (by decide)).ne'
    rw [Nat.pow_succ, ← Nat.mul_assoc, ofNat_mul_ten hne, ih, List.append_assoc,
      ← List.replicate_succ']

theorem length_ofNat_le_iff {n k : Nat} (h : 0 < k) : (ofNat n).length ≤ k ↔ n < 10 ^ k :=
  Nat.length_toDigits_le_iff (by decide) h

/-- Only zero begins with a zero. -/
theorem head?_ofNat {n : Nat} (h : n ≠ 0) : (ofNat n).head? ≠ some '0' := by
  -- The first digit of a number is that of a tenth of it, down to a single digit.
  induction n using Nat.strongRecOn with
  | _ n ih =>
    by_cases hn : n < 10
    · have hdigits : ofNat n = [Nat.digitChar n] := Nat.toDigits_of_lt_base hn
      have hdigit : ∀ d < 10, d ≠ 0 → Nat.digitChar d ≠ '0' := by decide
      rw [hdigits]
      simpa using hdigit n hn h
    · have hdigits : ofNat n = ofNat (n / 10) ++ [Nat.digitChar (n % 10)] :=
        Nat.toDigits_of_base_le (by decide) (by omega)
      have hne : ofNat (n / 10) ≠ [] := Nat.toDigits_ne_nil
      have hhead := ih (n / 10) (by omega) (by omega)
      rw [hdigits]
      cases hcases : ofNat (n / 10) with
      | nil => exact absurd hcases hne
      | cons first others => simpa [hcases] using hhead

end Text

/-! ### Rounding -/

theorem roundDiv_mul (num den : Nat) {k : Nat} (hk : 0 < k) :
    roundDiv (num * k) (den * k) = roundDiv num den := by
  have hhalf : den * k < 2 * (num % den * k) ↔ den < 2 * (num % den) := by
    rw [← Nat.mul_assoc]
    exact Nat.mul_lt_mul_right hk
  have htie : 2 * (num % den * k) = den * k ↔ 2 * (num % den) = den := by
    rw [← Nat.mul_assoc]
    exact Nat.mul_left_inj (by omega)
  simp only [roundDiv, Nat.mul_div_mul_right _ _ hk, Nat.mul_mod_mul_right, hhalf, htie]

theorem roundDiv_one (num : Nat) : roundDiv num 1 = num := by
  simp [roundDiv, Nat.mod_one]

/-- Only the quotient counts. -/
theorem nearestRank_mul (num den : Nat) {k : Nat} (hk : 0 < k) :
    nearestRank (num * k) (den * k) = nearestRank num den := by
  have hden (gap : Nat) : den * k * Nat.pow 2 gap = den * Nat.pow 2 gap * k := by ring
  simp only [nearestRank, Nat.mul_div_mul_right _ _ hk, hden, roundDiv_mul _ _ hk]

/-- A magnitude is its own nearest magnitude. -/
theorem nearestRank_units (rank : Nat) : nearestRank (units rank) 1 = rank := by
  simp only [nearestRank, units, Nat.div_one, Nat.pow_eq, Nat.one_mul]
  by_cases hsmall : rank < 2 ^ 52
  · -- Among the evenly spaced magnitudes nothing is rounded.
    have hgap : Nat.log2 rank - 52 = 0 := by
      by_cases hzero : rank = 0
      · subst hzero
        rfl
      · have hlog := (Nat.log2_lt hzero).mpr hsmall
        omega
    rw [if_pos hsmall, hgap]
    simp [roundDiv_one]
  · -- Above the evenly spaced ranks the magnitude is `fraction * 2 ^ gap`, and `fraction` has 53
    -- digits.
    obtain ⟨gap, hgap⟩ : ∃ gap, rank / 2 ^ 52 = gap + 1 := ⟨rank / 2 ^ 52 - 1, by omega⟩
    obtain ⟨fraction, hfraction⟩ : ∃ fraction, 2 ^ 52 + rank % 2 ^ 52 = fraction := ⟨_, rfl⟩
    have hrange : 2 ^ 52 ≤ fraction ∧ fraction < 2 ^ 53 := by omega
    -- So the spacing that is found is the one the magnitude was made with, and the quotient is
    -- exact.
    have hlog : Nat.log2 (fraction * 2 ^ gap) = 52 + gap := by
      have hpos : fraction * 2 ^ gap ≠ 0 := by
        have := Nat.two_pow_pos gap
        have hne : fraction ≠ 0 := by omega
        exact Nat.mul_ne_zero hne (by omega)
      refine (Nat.log2_eq_iff hpos).mpr ⟨?_, ?_⟩
      · rw [Nat.pow_add]
        exact Nat.mul_le_mul_right _ hrange.1
      · rw [show 52 + gap + 1 = 53 + gap by omega, Nat.pow_add]
        exact Nat.mul_lt_mul_of_pos_right hrange.2 (Nat.two_pow_pos gap)
    rw [if_neg hsmall, hgap, hfraction, Nat.add_sub_cancel, hlog, Nat.add_sub_cancel_left]
    have hround : roundDiv (fraction * 2 ^ gap) (2 ^ gap) = fraction := by
      have h := roundDiv_mul fraction 1 (Nat.two_pow_pos gap)
      rwa [Nat.one_mul, roundDiv_one] at h
    rw [hround]
    omega

theorem units_pos {rank : Nat} (h : rank ≠ 0) : 0 < units rank := by
  simp only [units, Nat.pow_eq]
  split
  · omega
  · exact Nat.mul_pos (by omega) (Nat.two_pow_pos _)

/-- The number one as a power of two. The exponent is kept as a name, since the power is too great
    to be computed. -/
theorem unitsOfOne_eq {places : Nat} (h : places = 1074) : unitsOfOne = 2 ^ places := by
  unfold unitsOfOne
  rw [← h]
  rfl

/-- A finite magnitude lies below the first power of two that is too great, `2 ^ 1024`. -/
theorem units_lt {rank : Nat} (h : rank < topRank) : units rank < 2 ^ 1024 * unitsOfOne := by
  obtain ⟨places, hplaces⟩ : ∃ n, n = 1074 := ⟨_, rfl⟩
  have htop : topRank = 2047 * 2 ^ 52 := rfl
  rw [unitsOfOne_eq hplaces, ← Nat.pow_add]
  simp only [units, Nat.pow_eq]
  split
  · rename_i hsmall
    exact Nat.lt_of_lt_of_le hsmall (Nat.pow_le_pow_right (by decide) (by omega))
  · have hgap : rank / 2 ^ 52 - 1 ≤ 2045 := by omega
    have hfraction : 2 ^ 52 + rank % 2 ^ 52 < 2 ^ 53 := by omega
    calc (2 ^ 52 + rank % 2 ^ 52) * 2 ^ (rank / 2 ^ 52 - 1)
        < 2 ^ 53 * 2 ^ (rank / 2 ^ 52 - 1) :=
          Nat.mul_lt_mul_of_pos_right hfraction (Nat.two_pow_pos _)
      _ = 2 ^ (53 + (rank / 2 ^ 52 - 1)) := (Nat.pow_add ..).symm
      _ ≤ 2 ^ (1024 + places) := Nat.pow_le_pow_right (by decide) (by omega)

namespace Decimal

/-! ### Ranks of decimals -/

/-- The rank of a decimal, with the power of ten on the side of the fraction where it belongs. -/
theorem rank_eq {c : Nat} (hc : c ≠ 0) (e : Int) :
    rank ⟨c, e⟩ =
      if 310 < (Text.ofNat c).length + e then topRank
      else if (Text.ofNat c).length + e < -330 then 0
      else nearestRank (c * 10 ^ e.toNat * unitsOfOne) (10 ^ (-e).toNat) := by
  cases e with
  | ofNat n => simp [rank, hc]
  | negSucc n =>
    simp [rank, hc]

/-- Zeros at the end of the coefficient do not count. -/
theorem rank_shift (c : Nat) (e : Int) (k : Nat) : rank ⟨c * 10 ^ k, e - k⟩ = rank ⟨c, e⟩ := by
  by_cases hc : c = 0
  · simp [rank, hc]
  have hne : c * 10 ^ k ≠ 0 := Nat.mul_ne_zero hc (Nat.pow_pos (by decide)).ne'
  have hsize : (Text.ofNat (c * 10 ^ k)).length + (e - k) = (Text.ofNat c).length + e := by
    rw [Text.ofNat_mul_pow_ten hc, List.length_append, List.length_replicate]
    omega
  -- Both sides of the fraction are multiplied by the same power of ten.
  obtain ⟨j, hnum, hden⟩ : ∃ j, k + (e - k).toNat = e.toNat + j ∧
      (-(e - k)).toNat = (-e).toNat + j :=
    ⟨k + (e - k).toNat - e.toNat, by omega, by omega⟩
  have hscale : nearestRank (c * 10 ^ k * 10 ^ (e - k).toNat * unitsOfOne) (10 ^ (-(e - k)).toNat) =
      nearestRank (c * 10 ^ e.toNat * unitsOfOne) (10 ^ (-e).toNat) := by
    have hpowers : c * 10 ^ k * 10 ^ (e - k).toNat * unitsOfOne =
        c * 10 ^ e.toNat * unitsOfOne * 10 ^ j := by
      rw [Nat.mul_assoc c, ← Nat.pow_add, hnum, Nat.pow_add]
      ring
    rw [hpowers, hden, Nat.pow_add]
    exact nearestRank_mul _ _ (Nat.pow_pos (by decide))
  rw [rank_eq hne, rank_eq hc, hsize, hscale]

/-! ### The decimals of a rank -/

theorem exact_eq {places : Nat} (h : places = 1074) (rank : Nat) :
    exact rank = ⟨units rank * 5 ^ places, -(places : Int)⟩ := by
  unfold exact
  rw [← h, Nat.pow_eq, Decimal.mk.injEq]
  exact ⟨rfl, by omega⟩

/-- With all its digits a finite magnitude is neither too great nor too small to be rounded. -/
theorem rank_exact {rank : Nat} (h : rank < topRank) : (exact rank).rank = rank := by
  obtain ⟨places, hplaces⟩ : ∃ n, n = 1074 := ⟨_, rfl⟩
  by_cases hzero : rank = 0
  · simp [exact_eq hplaces, hzero, units, Decimal.rank]
  have hpos := units_pos hzero
  have hfinite := units_lt h
  have hgreat : 2 ^ 1024 < 10 ^ 310 := by decide +kernel
  have hsmall : 10 ^ 743 ≤ 5 ^ places := by
    subst hplaces
    decide +kernel
  rw [exact_eq hplaces]
  rw [unitsOfOne_eq hplaces] at hfinite
  have hpower : 10 ^ places = 5 ^ places * 2 ^ places := by rw [← Nat.mul_pow]
  have hne : units rank * 5 ^ places ≠ 0 := Nat.mul_ne_zero hpos.ne' (Nat.pow_pos (by decide)).ne'
  -- The size of the decimal lies between the two bounds beyond which nothing is computed.
  have hlong : 743 < (Text.ofNat (units rank * 5 ^ places)).length := by
    by_contra hshort
    have hfew := (Text.length_ofNat_le_iff (by decide)).mp (Nat.le_of_not_lt hshort)
    have hmany : 1 * 5 ^ places ≤ units rank * 5 ^ places := Nat.mul_le_mul_right _ hpos
    omega
  have hshort : (Text.ofNat (units rank * 5 ^ places)).length ≤ 310 + places := by
    refine (Text.length_ofNat_le_iff (by omega)).mpr ?_
    calc units rank * 5 ^ places
        < 2 ^ 1024 * 2 ^ places * 5 ^ places :=
          Nat.mul_lt_mul_of_pos_right hfinite (Nat.pow_pos (by decide))
      _ = 2 ^ 1024 * 10 ^ places := by rw [hpower, Nat.mul_assoc, Nat.mul_comm (2 ^ places)]
      _ ≤ 10 ^ 310 * 10 ^ places := Nat.mul_le_mul_right _ hgreat.le
      _ = 10 ^ (310 + places) := by rw [← Nat.pow_add]
  rw [rank_eq hne, if_neg (by omega), if_neg (by omega)]
  -- What is left to be rounded is the magnitude itself, with numerator and denominator times
  -- `10 ^ places`.
  have hnum : units rank * 5 ^ places * 10 ^ (-(places : Int)).toNat * unitsOfOne =
      units rank * 10 ^ places := by
    have hnone : (-(places : Int)).toNat = 0 := by omega
    rw [hnone, unitsOfOne_eq hplaces, hpower]
    ring
  have hden : 10 ^ (-(-(places : Int))).toNat = 1 * 10 ^ places := by simp
  rw [hnum, hden, nearestRank_mul _ _ (Nat.pow_pos (by decide)), nearestRank_units]

/-- Whichever of two decimals is tried first, only one that reads back is taken. -/
theorem rank_of_choice {rank : Nat} {first second d : Decimal}
    (h : (if first.rank = rank then some first
      else if second.rank = rank then some second else none) = some d) : d.rank = rank := by
  split at h
  · obtain rfl := Option.some.inj h
    assumption
  · obtain ⟨hrank, hd⟩ := Option.ite_none_right_eq_some.mp h
    rwa [← Option.some.inj hd]

theorem rank_nearest? {tie : Tie} {rank count : Nat} {d : Decimal}
    (h : nearest? tie rank count = some d) : d.rank = rank := by
  unfold nearest? at h
  dsimp only at h
  exact rank_of_choice h

/-- The shortest decimal of a finite rank reads back. -/
theorem rank_shortest (tie : Tie) {rank : Nat} (h : rank < topRank) :
    (shortest tie rank).rank = rank := by
  unfold shortest
  -- No count of digits is known to be enough here: whatever the search finds reads back, and so
  -- does the decimal that is taken when it finds nothing.
  cases hfound : (List.range 17).findSome? fun i => nearest? tie rank (i + 1) with
  | none => exact rank_exact h
  | some d =>
    obtain ⟨i, -, hd⟩ := List.exists_of_findSome?_eq_some hfound
    exact rank_nearest? hd

theorem coefficient_ne_zero {d : Decimal} (h : d.rank ≠ 0) : d.coefficient ≠ 0 := by
  intro hzero
  exact h (by simp [rank, hzero])

end Decimal
end Stepwise
