import Stepwise.Number.Numeral
import Stepwise.Proofs.Decimal

/-!
# Rounding keeps the order

A greater fraction is not rounded to a smaller rank. So a decimal can be compared with a power of
ten by its rank, which places the shortest decimal of a number between the powers of ten that the
number lies between:

- `nearestRank_le`, `le_nearestRank`: the ranks that fractions of one spacing can have,
- `nearestRank_mono`: rounding is monotone, within one spacing and from one to the next,
- `rank_le_rank_power`, `rank_power_le_rank`: a decimal below or above a power of ten,
- `leading_shortest_iff`: the first digit counts a millionth at least and `10 ^ 20` at most exactly
  from a millionth up to `10 ^ 21`.
-/

namespace Stepwise

/-! ### Fractions -/

theorem roundDiv_le_roundDiv (den : Nat) {num num' : Nat} (h : num ≤ num') :
    roundDiv num den ≤ roundDiv num' den := by
  have hquotient : num / den ≤ num' / den := Nat.div_le_div_right h
  rcases Nat.lt_or_eq_of_le hquotient with hlt | heq
  · -- Rounding adds at most one to the quotient, and takes nothing away.
    unfold roundDiv
    dsimp only
    split <;> split <;> omega
  · -- With the same quotient the remainder decides.
    have hremainder : num % den ≤ num' % den := by
      have hnum := Nat.div_add_mod num den
      have hnum' := Nat.div_add_mod num' den
      rw [heq] at hnum
      omega
    unfold roundDiv
    dsimp only
    rw [heq]
    split <;> split <;> omega

/-- The greatest rank that is reached with a spacing. -/
theorem nearestRank_le (num den : Nat) :
    nearestRank num den ≤ (Nat.log2 (num / den) - 52 + 2) * 2 ^ 52 := by
  unfold nearestRank
  simp only [Nat.pow_eq]
  generalize hgap : Nat.log2 (num / den) - 52 = gap
  have hfloor : num / den < 2 ^ (53 + gap) :=
    Nat.lt_of_lt_of_le Nat.lt_log2_self (Nat.pow_le_pow_right (by decide) (by omega))
  have hquotient : num / (den * 2 ^ gap) < 2 ^ 53 := by
    rw [← Nat.div_div_eq_div_mul, Nat.div_lt_iff_lt_mul (Nat.two_pow_pos gap), ← Nat.pow_add]
    exact hfloor
  have hround : roundDiv num (den * 2 ^ gap) ≤ num / (den * 2 ^ gap) + 1 := by
    unfold roundDiv
    dsimp only
    split <;> omega
  omega

/-- The least rank that is reached with a spacing, if a narrower spacing comes before it. -/
theorem le_nearestRank {num den : Nat} (h : 52 < Nat.log2 (num / den)) :
    (Nat.log2 (num / den) - 52 + 1) * 2 ^ 52 ≤ nearestRank num den := by
  have hpos : num / den ≠ 0 := by
    intro hzero
    rw [hzero] at h
    exact absurd h (by decide)
  unfold nearestRank
  simp only [Nat.pow_eq]
  generalize hgap : Nat.log2 (num / den) - 52 = gap
  have hfloor : 2 ^ (52 + gap) ≤ num / den := (Nat.le_log2 hpos).mp (by omega)
  have hquotient : 2 ^ 52 ≤ num / (den * 2 ^ gap) := by
    rw [← Nat.div_div_eq_div_mul, Nat.le_div_iff_mul_le (Nat.two_pow_pos gap), ← Nat.pow_add]
    exact hfloor
  have hround : num / (den * 2 ^ gap) ≤ roundDiv num (den * 2 ^ gap) := by
    unfold roundDiv
    dsimp only
    split <;> omega
  omega

/-- With one denominator, a greater numerator has no smaller rank. -/
theorem nearestRank_le_nearestRank (den : Nat) {num num' : Nat} (h : num ≤ num') :
    nearestRank num den ≤ nearestRank num' den := by
  have hfloor : num / den ≤ num' / den := Nat.div_le_div_right h
  have hlog : Nat.log2 (num / den) ≤ Nat.log2 (num' / den) := by
    by_cases hzero : num / den = 0
    · rw [hzero]
      exact Nat.zero_le _
    · have hpower : 2 ^ Nat.log2 (num / den) ≤ num' / den :=
        Nat.le_trans (Nat.log2_self_le hzero) hfloor
      have hpos := Nat.two_pow_pos (Nat.log2 (num / den))
      exact (Nat.le_log2 (Nat.lt_of_lt_of_le hpos hpower).ne').mpr hpower
  by_cases hgap : Nat.log2 (num / den) - 52 = Nat.log2 (num' / den) - 52
  · unfold nearestRank
    dsimp only
    rw [hgap]
    exact Nat.add_le_add_left (roundDiv_le_roundDiv _ h) _
  · -- The spacings differ, and each has its own ranks.
    have hupper := nearestRank_le num den
    have hlower : (Nat.log2 (num' / den) - 52 + 1) * 2 ^ 52 ≤ nearestRank num' den :=
      le_nearestRank (by omega)
    omega

/-- A greater fraction has no smaller rank. -/
theorem nearestRank_mono {num den num' den' : Nat} (hden : 0 < den) (hden' : 0 < den')
    (h : num * den' ≤ num' * den) : nearestRank num den ≤ nearestRank num' den' := by
  calc nearestRank num den
      = nearestRank (num * den') (den * den') := (nearestRank_mul num den hden').symm
    _ ≤ nearestRank (num' * den) (den * den') := nearestRank_le_nearestRank (den * den') h
    _ = nearestRank (num' * den) (den' * den) := by rw [Nat.mul_comm den den']
    _ = nearestRank num' den' := nearestRank_mul num' den' hden

namespace Decimal

/-! ### Powers of ten -/

/-- The coefficient lies between two powers of ten, which the place of its first digit tells. -/
theorem coefficient_bounds {c : Nat} (h : c ≠ 0) :
    10 ^ ((Text.ofNat c).length - 1) ≤ c ∧ c < 10 ^ (Text.ofNat c).length := by
  have hpos : 0 < (Text.ofNat c).length := List.length_pos_iff.mpr Nat.toDigits_ne_nil
  constructor
  · by_cases hone : (Text.ofNat c).length = 1
    · rw [hone]
      exact Nat.pos_of_ne_zero h
    · by_contra hlt
      have hshort :=
        (Text.length_ofNat_le_iff (n := c) (k := (Text.ofNat c).length - 1) (by omega)).mpr
          (by omega)
      omega
  · exact (Text.length_ofNat_le_iff hpos).mp (Nat.le_refl _)

/-- Of two decimals, each with its power of ten on the side where it belongs, the greater one has no
    smaller rank. -/
theorem nearestRank_decimal_mono {c c' : Nat} {e e' : Int}
    (h : c * 10 ^ e.toNat * 10 ^ (-e').toNat ≤ c' * 10 ^ e'.toNat * 10 ^ (-e).toNat) :
    nearestRank (c * 10 ^ e.toNat * unitsOfOne) (10 ^ (-e).toNat) ≤
      nearestRank (c' * 10 ^ e'.toNat * unitsOfOne) (10 ^ (-e').toNat) := by
  apply nearestRank_mono (Nat.pow_pos (by decide)) (Nat.pow_pos (by decide))
  calc c * 10 ^ e.toNat * unitsOfOne * 10 ^ (-e').toNat
      = c * 10 ^ e.toNat * 10 ^ (-e').toNat * unitsOfOne := by ring
    _ ≤ c' * 10 ^ e'.toNat * 10 ^ (-e).toNat * unitsOfOne := Nat.mul_le_mul_right _ h
    _ = c' * 10 ^ e'.toNat * unitsOfOne * 10 ^ (-e).toNat := by ring

/-- The rank of a power of ten that is neither too great nor too small to be rounded. -/
theorem rank_power {e : Int} (he : -331 ≤ e ∧ e ≤ 309) :
    rank ⟨1, e⟩ = nearestRank (1 * 10 ^ e.toNat * unitsOfOne) (10 ^ (-e).toNat) := by
  have hone : (Text.ofNat 1).length = 1 := rfl
  rw [rank_eq Nat.one_ne_zero, hone, if_neg (by omega), if_neg (by omega)]

/-- A decimal whose first digit counts less than a power of ten has no greater rank. -/
theorem rank_le_rank_power {d : Decimal} {e : Int} (he : -331 ≤ e ∧ e ≤ 309) (h : d.leading < e) :
    d.rank ≤ rank ⟨1, e⟩ := by
  obtain ⟨c, x⟩ := d
  by_cases hc : c = 0
  · simp [rank, hc]
  obtain ⟨_, hupper⟩ := coefficient_bounds hc
  simp only [leading] at h
  rw [rank_eq hc, if_neg (by omega)]
  split
  · exact Nat.zero_le _
  · rw [rank_power he]
    apply nearestRank_decimal_mono
    calc c * 10 ^ x.toNat * 10 ^ (-e).toNat
        ≤ 10 ^ (Text.ofNat c).length * 10 ^ x.toNat * 10 ^ (-e).toNat :=
          Nat.mul_le_mul_right _ (Nat.mul_le_mul_right _ hupper.le)
      _ = 10 ^ ((Text.ofNat c).length + x.toNat + (-e).toNat) := by
        rw [← Nat.pow_add, ← Nat.pow_add]
      _ ≤ 10 ^ (e.toNat + (-x).toNat) := Nat.pow_le_pow_right (by decide) (by omega)
      _ = 1 * 10 ^ e.toNat * 10 ^ (-x).toNat := by rw [Nat.one_mul, ← Nat.pow_add]

/-- A decimal whose first digit counts a power of ten or more has no smaller rank. -/
theorem rank_power_le_rank {d : Decimal} {e : Int} (he : -331 ≤ e ∧ e ≤ 309)
    (hfinite : rank ⟨1, e⟩ ≤ topRank) (hd : d.coefficient ≠ 0) (h : e ≤ d.leading) :
    rank ⟨1, e⟩ ≤ d.rank := by
  obtain ⟨c, x⟩ := d
  have hc : c ≠ 0 := hd
  obtain ⟨hlower, _⟩ := coefficient_bounds hc
  have hpos : 0 < (Text.ofNat c).length := List.length_pos_iff.mpr Nat.toDigits_ne_nil
  simp only [leading] at h
  rw [rank_eq hc]
  split
  · exact hfinite
  · rw [if_neg (by omega), rank_power he]
    apply nearestRank_decimal_mono
    calc 1 * 10 ^ e.toNat * 10 ^ (-x).toNat
        = 10 ^ (e.toNat + (-x).toNat) := by rw [Nat.one_mul, ← Nat.pow_add]
      _ ≤ 10 ^ ((Text.ofNat c).length - 1 + x.toNat + (-e).toNat) :=
          Nat.pow_le_pow_right (by decide) (by omega)
      _ = 10 ^ ((Text.ofNat c).length - 1) * 10 ^ x.toNat * 10 ^ (-e).toNat := by
          rw [← Nat.pow_add, ← Nat.pow_add]
      _ ≤ c * 10 ^ x.toNat * 10 ^ (-e).toNat :=
        Nat.mul_le_mul_right _ (Nat.mul_le_mul_right _ hlower)

/-! ### Shortest decimals -/

/-- The ranks of a millionth and of `10 ^ 21`: both are finite, and the shortest decimals of the two
    are what they should be. -/
theorem rank_bounds : 0 < rank ⟨1, -6⟩ ∧ rank ⟨1, -6⟩ ≤ topRank ∧ rank ⟨1, 21⟩ ≤ topRank ∧
    (shortest .up (rank ⟨1, -6⟩)).leading = -6 ∧ (shortest .up (rank ⟨1, 21⟩)).leading = 21 := by
  decide +kernel

/-- The first digit of the shortest decimal counts a millionth at least and `10 ^ 20` at most
    exactly from a millionth up to and without `10 ^ 21`. -/
theorem leading_shortest_iff {rank : Nat} (hpos : rank ≠ 0) (htop : rank < topRank) :
    -6 ≤ (shortest .up rank).leading ∧ (shortest .up rank).leading ≤ 20 ↔
      Decimal.rank ⟨1, -6⟩ ≤ rank ∧ rank < Decimal.rank ⟨1, 21⟩ := by
  obtain ⟨_, hfinite, hfinite', hmillionth, hgreat⟩ := rank_bounds
  have hrank : (shortest .up rank).rank = rank := rank_shortest .up htop
  have hne : (shortest .up rank).coefficient ≠ 0 := coefficient_ne_zero (by omega)
  have hbelow : ∀ e : Int, -331 ≤ e ∧ e ≤ 309 → (shortest .up rank).leading < e →
      rank ≤ Decimal.rank ⟨1, e⟩ := by
    intro e he h
    have hle := rank_le_rank_power he h
    omega
  have habove : ∀ e : Int, -331 ≤ e ∧ e ≤ 309 → Decimal.rank ⟨1, e⟩ ≤ topRank →
      e ≤ (shortest .up rank).leading →
      Decimal.rank ⟨1, e⟩ ≤ rank := by
    intro e he hfinite h
    have hle := rank_power_le_rank he hfinite hne h
    omega
  -- At the two bounds themselves the order of the ranks does not decide, but there the shortest
  -- decimal is known.
  constructor
  · rintro ⟨hlow, hhigh⟩
    refine ⟨habove (-6) (by omega) hfinite hlow,
      Nat.lt_of_le_of_ne (hbelow 21 (by omega) (by omega)) ?_⟩
    intro heq
    rw [heq, hgreat] at hhigh
    omega
  · rintro ⟨hlow, hhigh⟩
    constructor
    · by_contra hless
      have heq : rank = Decimal.rank ⟨1, -6⟩ :=
        Nat.le_antisymm (hbelow (-6) (by omega) (by omega)) hlow
      rw [heq, hmillionth] at hless
      omega
    · by_contra hgreater
      have hle := habove 21 (by omega) hfinite' (by omega)
      omega

end Decimal
end Stepwise
