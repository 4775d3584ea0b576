import Stepwise.Expression
import Stepwise.Proofs.Changes
import Stepwise.Proofs.Instant
import Stepwise.Proofs.Rounding

/-!
# Printed numbers read back

A number is printed with the digits of its shortest decimal, plainly or with an exponent. Two
readers take such texts: arithmetic on texts reads every printed number, and number literals are
read where no exponent and no sign is printed.

- `ofNumericText_signText`: a numeral with its sign is a numeric text of its own number,
- `ofNumericText_display`: so a printed number is read as the number, apart from the sign of a zero,
- `IsPlain`, `exists_numeral_display`: the numbers that are printed as numerals without an exponent,
  which are number literals.
-/

namespace Stepwise

/-! ### Numerals as numeric texts -/

/-- No character of a numeral is blank. -/
theorem isBlank_of_isNumeralChar {c : Char} (h : Number.isNumeralChar c = true) :
    isBlank c = false := by
  simp only [Number.isNumeralChar, Bool.or_eq_true, beq_iff_eq] at h
  rcases h with ((((hdigit | rfl) | rfl) | rfl) | rfl) | rfl
  · exact isBlank_of_isDigit hdigit
  all_goals decide

theorem Number.isNumeralChar_of_isDigit {c : Char} (h : c.isDigit = true) :
    isNumeralChar c = true := by
  simp [isNumeralChar, h]

/-- A numeral consists of digits, and of the characters that may stand between them. -/
theorem Numeral.isNumeralChar_of_mem (m : Numeral) {c : Char} (h : c ∈ m.text) :
    Number.isNumeralChar c = true := by
  have hdigits : ∀ digits : Text, digits.isDigits = true → c ∈ digits →
      Number.isNumeralChar c = true :=
    fun digits hrun hmem => Number.isNumeralChar_of_isDigit ((Text.isDigits_iff.mp hrun).2 c hmem)
  simp only [text, List.mem_append] at h
  rcases h with (hwhole | hfraction) | hexponent
  · exact hdigits m.whole m.whole_isDigits hwhole
  · -- a point, or a digit after it
    cases hcases : m.fraction with
    | nil =>
      rw [hcases] at hfraction
      cases hfraction
    | cons first others =>
      rw [hcases] at hfraction
      rcases List.mem_cons.mp hfraction with rfl | hmem
      · rfl
      · exact Number.isNumeralChar_of_isDigit (m.fraction_digits c (hcases ▸ hmem))
  · -- the letter, the sign, or a digit of the exponent
    cases hcases : m.exponent with
    | none =>
      rw [hcases] at hexponent
      cases hexponent
    | some e =>
      rw [hcases] at hexponent
      rcases List.mem_cons.mp hexponent with rfl | hexponent
      · rfl
      · rcases List.mem_cons.mp hexponent with rfl | hmem
        · cases e.1 <;> rfl
        · exact hdigits e.2 (m.exponent_isDigits e hcases) hmem

namespace Number

/-- A numeral with its sign is read as the number nearest to its decimal. -/
theorem ofNumericText_signText (negative : Bool) (m : Numeral) :
    ofNumericText (signText negative ++ m.text) = m.decimal.toNumber negative := by
  have hread := ofNumeral?_signText negative m
  have hall : ∀ c ∈ signText negative ++ m.text, isNumeralChar c = true := by
    intro c hc
    rcases List.mem_append.mp hc with hsign | hmem
    · cases negative with
      | true =>
        rw [List.mem_singleton.mp hsign]
        rfl
      | false => cases hsign
    · exact m.isNumeralChar_of_mem hmem
  have hne : signText negative ++ m.text ≠ [] := by
    obtain ⟨first, others, hcons, _⟩ := m.exists_cons_text
    simp [hcons]
  generalize signText negative ++ m.text = text at *
  have htrim : text.trim = text :=
    Text.trim_of_not_isBlank_ends
      (fun c hc => isBlank_of_isNumeralChar (hall c (List.mem_of_head? hc)))
      fun c hc => isBlank_of_isNumeralChar (hall c (List.mem_of_getLast? hc))
  -- The texts of the infinities have letters that no numeral has.
  have hletters : ∀ other : Text, 'I' ∈ other → text ≠ other := by
    rintro other hmem rfl
    exact absurd (hall 'I' hmem) (by decide)
  have hinfinite : ¬(text = "Infinity".toList ∨ text = "+Infinity".toList) := by
    rintro (heq | heq)
    · exact hletters _ (by decide) heq
    · exact hletters _ (by decide) heq
  have hnegative : text ≠ "-Infinity".toList := hletters _ (by decide)
  unfold ofNumericText
  dsimp only
  rw [htrim, if_neg hne, if_neg hinfinite, if_neg hnegative, if_pos (List.all_eq_true.mpr hall),
    hread]
  rfl

/-- A printed number is read as the number; a negative zero is printed, and read, as zero. -/
theorem ofNumericText_display {n : Number} (h : n ≠ nan) :
    ofNumericText n.display = if n = zero true then zero false else n := by
  cases n with
  | nan => exact absurd rfl h
  | ranked negative rank rank_le =>
    by_cases hzero : rank = 0
    · subst hzero
      show ofNumericText (zero negative).display = if zero negative =
          zero true then zero false else zero negative
      cases negative <;> decide +kernel
    · have hne : ranked negative rank rank_le ≠ zero true := by
        intro heq
        injection heq with _ hrank
        omega
      rw [if_neg hne]
      by_cases htop : rank = topRank
      · subst htop
        show ofNumericText (infinity negative).display = infinity negative
        cases negative <;> decide +kernel
      · have hstyle : NumeralStyle.display.afterWhole =
            Numeral.fractionText (List.replicate 0 '0') := rfl
        obtain ⟨m, htext, hrank, _⟩ :=
          exists_numeral_magnitudeText hstyle (Nat.lt_of_le_of_ne rank_le htop)
        have hdisplay : (ranked negative rank rank_le).display = signText negative ++ m.text := by
          rw [htext]
          simp only [display, if_neg hzero, if_neg htop]
        rw [hdisplay, ofNumericText_signText, Decimal.toNumber, hrank]
        simp [ofRank, Nat.min_eq_left rank_le]

/-! ### Numbers without exponent and sign -/

/-- The numbers from a millionth up to and without `10 ^ 21`, and the two zeros. -/
def IsPlain (n : Number) : Prop :=
  (n == zero false) = true ∨
    (Comparison.le.holds (.number ((⟨1, -6⟩ : Decimal).toNumber false)) (.number n) = true ∧
      Comparison.lt.holds (.number n) (.number ((⟨1, 21⟩ : Decimal).toNumber false)) = true)

theorem compare?_eq_some_iff {a b : Number} {order : Ordering} : a.compare? b = some order ↔
    ∃ x y, a.place? = some x ∧ b.place? = some y ∧ compare x y = order := by
  unfold compare?
  cases a.place? with
  | none => simp
  | some x =>
    cases b.place? with
    | none => simp
    | some y => simp

/-- Numbers are ordered as their places on the number line. -/
theorem lt_holds_iff {a b : Number} : Comparison.lt.holds (.number a) (.number b) = true ↔
    ∃ x y, a.place? = some x ∧ b.place? = some y ∧ x < y := by
  show (a.compare? b == some .lt) = true ↔ _
  simp only [beq_iff_eq, compare?_eq_some_iff, Int.compare_eq_lt]

theorem le_holds_iff {a b : Number} : Comparison.le.holds (.number a) (.number b) = true ↔
    ∃ x y, a.place? = some x ∧ b.place? = some y ∧ x ≤ y := by
  show (a.compare? b == some .lt || a.compare? b == some .eq) = true ↔ _
  simp only [Bool.or_eq_true, beq_iff_eq, compare?_eq_some_iff, Int.compare_eq_lt,
    Std.compare_eq_iff_eq]
  constructor
  · rintro (⟨x, y, hx, hy, hlt⟩ | ⟨x, y, hx, hy, heq⟩)
    · exact ⟨x, y, hx, hy, by omega⟩
    · exact ⟨x, y, hx, hy, by omega⟩
  · rintro ⟨x, y, hx, hy, hle⟩
    rcases Int.lt_or_eq_of_le hle with hlt | heq
    · exact Or.inl ⟨x, y, hx, hy, hlt⟩
    · exact Or.inr ⟨x, y, hx, hy, heq⟩

/-- The place of a decimal whose rank is that of a finite number or of infinity. -/
theorem place?_toNumber {d : Decimal} (h : d.rank ≤ topRank) :
    (d.toNumber false).place? = some (d.rank : Int) := by
  simp [Decimal.toNumber, ofRank, place?, Nat.min_eq_left h]

/-- The ranks of these numbers, which are not negative unless they are zero. -/
theorem IsPlain.rank_cases {negative : Bool} {rank : Nat} {rank_le : rank ≤ topRank}
    (h : (ranked negative rank rank_le).IsPlain) :
    rank = 0 ∨ (negative = false ∧ Decimal.rank ⟨1, -6⟩ ≤ rank ∧ rank < Decimal.rank ⟨1, 21⟩) := by
  obtain ⟨hpos, hfinite, hfinite', _⟩ := Decimal.rank_bounds
  rcases h with hzero | ⟨hlow, hhigh⟩
  · left
    obtain ⟨place, hplace, hplace'⟩ := beq_iff.mp hzero
    have hnone : (0 : Int) = place := Option.some.inj hplace'
    have hrank : (if negative then -(rank : Int) else rank) = place := Option.some.inj hplace
    split at hrank <;> omega
  · right
    obtain ⟨x, y, hx, hy, hxy⟩ := le_holds_iff.mp hlow
    obtain ⟨y', z, hy', hz, hyz⟩ := lt_holds_iff.mp hhigh
    rw [place?_toNumber hfinite] at hx
    rw [place?_toNumber hfinite'] at hz
    have hrank : (if negative then -(rank : Int) else rank) = y := Option.some.inj hy
    have hrank' : (if negative then -(rank : Int) else rank) = y' := Option.some.inj hy'
    have hlower := Option.some.inj hx
    have hupper := Option.some.inj hz
    cases negative with
    | true =>
      simp only [if_true] at hrank
      omega
    | false =>
      simp only [Bool.false_eq_true, if_false] at hrank hrank'
      exact ⟨rfl, by omega, by omega⟩

/-- Such a number is printed as a numeral without an exponent, which denotes the number. -/
theorem exists_numeral_display {n : Number} (h : n.IsPlain) (hn : n ≠ nan) :
    ∃ m : Numeral, m.text = n.display ∧ m.exponent = none ∧
      m.decimal.toNumber false = if n = zero true then zero false else n := by
  cases n with
  | nan => exact absurd rfl hn
  | ranked negative rank rank_le =>
    have hstyle : NumeralStyle.display.afterWhole = Numeral.fractionText (List.replicate 0 '0') :=
      rfl
    by_cases hzero : rank = 0
    · subst hzero
      obtain ⟨m, htext, hrank, hexponent⟩ :=
        exists_numeral_magnitudeText hstyle (by decide : 0 < topRank)
      refine ⟨m, ?_, hexponent (Or.inl rfl), ?_⟩
      · rw [htext]
        simp only [display, magnitudeText, if_true]
        rfl
      · show ofRank false m.decimal.rank = if zero negative =
            zero true then zero false else zero negative
        rw [hrank]
        cases negative <;> decide +kernel
    · obtain ⟨rfl, hlow, hhigh⟩ := h.rank_cases.resolve_left hzero
      obtain ⟨_, _, hfinite, _⟩ := Decimal.rank_bounds
      have htop : rank < topRank := Nat.lt_of_lt_of_le hhigh hfinite
      obtain ⟨m, htext, hrank, hexponent⟩ := exists_numeral_magnitudeText hstyle htop
      have hplain := (Decimal.leading_shortest_iff hzero htop).mpr ⟨hlow, hhigh⟩
      refine ⟨m, ?_, hexponent (Or.inr hplain), ?_⟩
      · rw [htext]
        simp only [display, if_neg hzero, if_neg htop.ne]
        rfl
      · have hne : ranked false rank rank_le ≠ zero true := by
          intro heq
          injection heq with hsign _
          cases hsign
        rw [if_neg hne, Decimal.toNumber, hrank]
        simp [ofRank, Nat.min_eq_left rank_le]

/-! ### Reading back -/

/-- A number is equal to itself, and to itself without the sign of a zero. -/
theorem unsigned_beq {n : Number} (h : n ≠ nan) :
    ((if n = zero true then zero false else n) == n) = true ∧
      (n == if n = zero true then zero false else n) = true := by
  by_cases hzero : n = zero true
  · subst hzero
    decide +kernel
  · rw [if_neg hzero, and_self]
    cases n with
    | nan => exact absurd rfl h
    | ranked negative rank rank_le => exact beq_iff.mpr ⟨_, rfl, rfl⟩

/-- Printed numbers read back. Arithmetic on texts reads a printed number as the number, infinities
    included and a negative zero as zero, so that a number is loosely equal to its printed text.
    Zero, and every number from a millionth up to and without `10 ^ 21`, is printed as digits, or
    digits, a point and digits, and this is a number literal of the number. -/
theorem printed_numbers_read_back {n : Number} (h : n ≠ nan) :
    ofNumericText n.display = (if n = zero true then zero false else n) ∧
    (ofNumericText n.display == n) = true ∧
    Value.looseEq (.number n) (.string n.display) = true ∧
    (n.IsPlain →
      (n.display.isDigits = true ∨ ∃ whole fraction : Text, n.display = whole ++ '.' :: fraction ∧
        whole.isDigits = true ∧ fraction.isDigits = true) ∧
      ofLiteral? n.display = some (if n = zero true then zero false else n)) := by
  have hread := ofNumericText_display h
  obtain ⟨hequal, hequal'⟩ := unsigned_beq h
  refine ⟨hread, ?_, ?_, ?_⟩
  · rw [hread]
    exact hequal
  · show (n == ofNumericText n.display) = true
    rw [hread]
    exact hequal'
  · intro hplain
    obtain ⟨m, htext, hexponent, hnumber⟩ := exists_numeral_display hplain h
    constructor
    · rw [← htext]
      rcases Numeral.text_cases hexponent with ⟨hwhole, _⟩ | ⟨hpoint, hfraction⟩
      · left
        rw [hwhole]
        exact m.whole_isDigits
      · exact Or.inr ⟨m.whole, m.fraction, hpoint, m.whole_isDigits, hfraction⟩
    · rw [ofLiteral?, ← htext, Decimal.ofLiteral?_text hexponent, ← hnumber]
      rfl

/-- The sum of a tenth and two tenths needs seventeen digits. -/
theorem printed_numbers_read_back_seventeen_digits :
    let n := ((⟨1, -1⟩ : Decimal).toNumber false).add ((⟨2, -1⟩ : Decimal).toNumber false)
    n ≠ nan ∧ n.IsPlain ∧ n.display = "0.30000000000000004" ∧ ofNumericText n.display = n ∧
      ofLiteral? n.display = some n := by
  intro n
  have hn : n ≠ nan := by decide +kernel
  have hzero : n ≠ zero true := by decide +kernel
  have hplain : n.IsPlain := Or.inr (by decide +kernel)
  obtain ⟨hread, _, _, hliteral⟩ := printed_numbers_read_back hn
  have hliteral := (hliteral hplain).2
  rw [if_neg hzero] at hread hliteral
  exact ⟨hn, hplain, by decide +kernel, hread, hliteral⟩

end Number
end Stepwise
