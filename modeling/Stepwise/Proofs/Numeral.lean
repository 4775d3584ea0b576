import Stepwise.Json.Document
import Stepwise.Number.Numeral
import Stepwise.Proofs.Decimal
import Stepwise.Proofs.Text

/-!
# Numerals read back

A `Numeral` is a numeral of JSON without its sign, taken apart: the digits before the point, those
after it and the exponent. What it is, as text and as a decimal, is said once, and each reader and
writer is compared with it.

- `readNumeral_append`: JSON text is read up to the end of a numeral,
- `ofNumeral?_signText`: a numeral is read as the number nearest to its decimal,
- `ofLiteral?_text`: without an exponent it is a number literal of that decimal,
- `exists_numeral_write`, `exists_numeral_magnitudeText`: in every style a finite magnitude is
  written as a numeral that is read as the magnitude again,
- `isNumeral_archived`: so a finite number is archived as a numeral that is read as the number,
- `isNumeral_ofNat`: the digits of a natural number are a numeral.
-/

namespace Stepwise

/-- A numeral without its sign, in its parts. -/
structure Numeral where
  whole : Text
  /-- The digits after the point; without digits there is no point either. -/
  fraction : Text
  /-- Whether the exponent is negative, and its digits. -/
  exponent : Option (Bool × Text)
  whole_isDigits : whole.isDigits = true
  /-- No zeros stand in front of other digits. -/
  whole_head : whole.head? = some '0' → whole = ['0']
  fraction_digits : ∀ c ∈ fraction, c.isDigit = true
  exponent_isDigits : ∀ e ∈ exponent, e.2.isDigits = true

namespace Numeral

/-- The text of the digits after the point. -/
def fractionText : Text → Text
  | [] => []
  | digits => '.' :: digits

/-- The text of an exponent. -/
def exponentText : Option (Bool × Text) → Text
  | none => []
  | some (negative, digits) => 'e' :: (if negative then '-' else '+') :: digits

/-- The value of an exponent. -/
def exponentValue : Option (Bool × Text) → Int
  | none => 0
  | some (negative, digits) =>
    if negative then -(Text.digitsValue digits : Int) else Text.digitsValue digits

/-- The text of a numeral. -/
def text (m : Numeral) : Text := m.whole ++ fractionText m.fraction ++ exponentText m.exponent

/-- The decimal that a numeral denotes. -/
def decimal (m : Numeral) : Decimal :=
  ⟨Text.digitsValue (m.whole ++ m.fraction), -(m.fraction.length : Int) + exponentValue m.exponent⟩

end Numeral

/-- Whether a text is a numeral with an optional minus sign. -/
def Text.IsNumeral (text : Text) : Prop :=
  ∃ (negative : Bool) (m : Numeral), text = Number.signText negative ++ m.text

/-- Whether a numeral may end before the text. -/
def Text.EndsNumeral (rest : Text) : Prop :=
  ∀ c ∈ rest.head?, c.isDigit = false ∧ c ≠ '.' ∧ c ≠ 'e' ∧ c ≠ 'E'

namespace Text

/-! ### Runs of digits -/

theorem endsNumeral_nil : EndsNumeral [] := by
  intro c hc
  simp at hc

theorem ne_of_isDigit {c d : Char} (hc : c.isDigit = true) (hd : d.isDigit = false) : c ≠ d := by
  rintro rfl
  simp [hc] at hd

theorem isDigits_iff {text : Text} :
    text.isDigits = true ↔ text ≠ [] ∧ ∀ c ∈ text, c.isDigit = true := by
  simp [isDigits]

/-- A run of digits begins with a digit. -/
theorem exists_cons_of_isDigits {text : Text} (h : text.isDigits = true) :
    ∃ first others, text = first :: others ∧ first.isDigit = true := by
  obtain ⟨hne, hall⟩ := isDigits_iff.mp h
  obtain ⟨first, others, rfl⟩ := List.exists_cons_of_ne_nil hne
  exact ⟨first, others, rfl, hall first List.mem_cons_self⟩

section
variable {digits rest : Text} (hdigits : ∀ c ∈ digits, c.isDigit = true)
  (hrest : ∀ c ∈ rest.head?, c.isDigit = false)
include hdigits hrest

theorem takeWhile_isDigit : (digits ++ rest).takeWhile Char.isDigit = digits := by
  rw [List.takeWhile_append_of_pos hdigits]
  cases rest with
  | nil => simp
  | cons c rest => simp [hrest c rfl]

theorem dropWhile_isDigit : (digits ++ rest).dropWhile Char.isDigit = rest := by
  rw [List.dropWhile_append_of_pos hdigits]
  cases rest with
  | nil => simp
  | cons c rest => simp [hrest c rfl]

end

end Text

namespace Numeral

theorem fractionText_of_ne_nil {digits : Text} (h : digits ≠ []) :
    fractionText digits = '.' :: digits := by
  cases digits with
  | nil => exact absurd rfl h
  | cons c digits => rfl

/-- A numeral begins with a digit. -/
theorem exists_cons_text (m : Numeral) :
    ∃ first others, m.text = first :: others ∧ first.isDigit = true := by
  obtain ⟨first, others, hcons, hfirst⟩ := Text.exists_cons_of_isDigits m.whole_isDigits
  exact ⟨first, others ++ fractionText m.fraction ++ exponentText m.exponent,
    by simp [text, hcons], hfirst⟩

/-- The exponent of a numeral, and what follows it, do not go on with its digits. -/
theorem head?_exponentText_append (exponent : Option (Bool × Text)) {rest : Text}
    (hrest : rest.EndsNumeral) :
    ∀ c ∈ (exponentText exponent ++ rest).head?, c.isDigit = false ∧ c ≠ '.' := by
  intro c hc
  cases exponent with
  | none => exact ⟨(hrest c hc).1, (hrest c hc).2.1⟩
  | some e =>
    obtain rfl : 'e' = c := by simpa [exponentText] using hc
    decide

theorem head?_fractionText_append (digits : Text) {rest : Text}
    (hrest : ∀ c ∈ rest.head?, c.isDigit = false ∧ c ≠ '.') :
    ∀ c ∈ (fractionText digits ++ rest).head?, c.isDigit = false := by
  intro c hc
  cases digits with
  | nil => exact (hrest c hc).1
  | cons d digits =>
    obtain rfl : '.' = c := by simpa [fractionText] using hc
    decide

end Numeral

/-- A numeral without an exponent is a run of digits, or two of them with a point between. -/
theorem Numeral.text_cases {m : Numeral} (h : m.exponent = none) :
    (m.text = m.whole ∧ m.fraction = []) ∨
      (m.text = m.whole ++ '.' :: m.fraction ∧ m.fraction.isDigits = true) := by
  have htext : m.text = m.whole ++ fractionText m.fraction := by simp [text, h, exponentText]
  rw [htext]
  by_cases hnone : m.fraction = []
  · rw [hnone]
    exact Or.inl ⟨List.append_nil _, rfl⟩
  · rw [fractionText_of_ne_nil hnone]
    exact Or.inr ⟨rfl, Text.isDigits_iff.mpr ⟨hnone, m.fraction_digits⟩⟩

/-- A numeral with its sign begins with the sign or a digit. -/
theorem Text.IsNumeral.exists_cons {numeral : Text} (h : numeral.IsNumeral) :
    ∃ first others, numeral = first :: others ∧ (first = '-' ∨ first.isDigit = true) := by
  obtain ⟨negative, m, rfl⟩ := h
  cases negative with
  | true => exact ⟨'-', m.text, rfl, .inl rfl⟩
  | false =>
    obtain ⟨first, others, hcons, hfirst⟩ := m.exists_cons_text
    exact ⟨first, others, hcons, .inr hfirst⟩

namespace Document
open Text

/-! ### Reading JSON text -/

theorem readDigits_append {digits rest : Text} (h : digits.isDigits = true)
    (hrest : ∀ c ∈ rest.head?, c.isDigit = false) :
    readDigits (digits ++ rest) = .ok (digits, rest) := by
  have hall := (isDigits_iff.mp h).2
  obtain ⟨first, others, hcons, hfirst⟩ := exists_cons_of_isDigits h
  have hread : readDigits (digits ++ rest) =
      .ok ((digits ++ rest).takeWhile Char.isDigit, (digits ++ rest).dropWhile Char.isDigit) := by
    simp only [hcons, List.cons_append, readDigits, hfirst, if_true]
  rw [hread, takeWhile_isDigit hall hrest, dropWhile_isDigit hall hrest]

theorem readWhole_append (m : Numeral) {rest : Text}
    (hrest : ∀ c ∈ rest.head?, c.isDigit = false) :
    readWhole (m.whole ++ rest) = .ok (m.whole, rest) := by
  have hzero : ¬(m.whole.head? = some '0' ∧ m.whole ≠ ['0']) := fun h => h.2 (m.whole_head h.1)
  simp only [readWhole, readDigits_append m.whole_isDigits hrest, bind, Except.bind, if_neg hzero]
  rfl

theorem readFraction_append {digits rest : Text} (hdigits : ∀ c ∈ digits, c.isDigit = true)
    (hrest : ∀ c ∈ rest.head?, c.isDigit = false ∧ c ≠ '.') :
    readFraction (Numeral.fractionText digits ++ rest) =
      .ok (Numeral.fractionText digits, rest) := by
  cases digits with
  | nil =>
    cases rest with
    | nil => rfl
    | cons c rest =>
      have hc := (hrest c rfl).2
      simp [Numeral.fractionText, readFraction, hc]
  | cons c digits =>
    have hrun : isDigits (c :: digits) = true := isDigits_iff.mpr ⟨by simp, hdigits⟩
    have hread := readDigits_append hrun fun c hc => (hrest c hc).1
    simp only [Numeral.fractionText, readFraction, List.cons_append] at hread ⊢
    rw [hread]
    rfl

theorem readExponent_append {exponent : Option (Bool × Text)} {rest : Text}
    (hexponent : ∀ e ∈ exponent, e.2.isDigits = true) (hrest : rest.EndsNumeral) :
    readExponent (Numeral.exponentText exponent ++ rest) =
      .ok (Numeral.exponentText exponent, rest) := by
  cases exponent with
  | none =>
    cases rest with
    | nil => rfl
    | cons c rest =>
      have hc := hrest c rfl
      simp [Numeral.exponentText, readExponent, hc]
  | some e =>
    obtain ⟨negative, digits⟩ := e
    have hread := readDigits_append (hexponent _ rfl) fun c hc => (hrest c hc).1
    cases negative <;>
      simp [Numeral.exponentText, readExponent, hread, Except.map]

theorem readNumeral_signText (negative : Bool) {first : Char} (h : first.isDigit = true)
    (others : Text) :
    readNumeral (Number.signText negative ++ first :: others) = (do
      let (whole, rest) ← readWhole (first :: others)
      let (fraction, rest) ← readFraction rest
      let (exponent, rest) ← readExponent rest
      return (Number.signText negative ++ whole ++ fraction ++ exponent, rest)) := by
  cases negative with
  | true => rfl
  | false =>
    have hminus : first ≠ '-' := ne_of_isDigit h rfl
    simp [readNumeral, Number.signText, hminus]

/-- A numeral in JSON text is read up to its end. -/
theorem readNumeral_append {numeral rest : Text} (h : numeral.IsNumeral)
    (hrest : rest.EndsNumeral) :
    readNumeral (numeral ++ rest) = .ok (numeral, rest) := by
  obtain ⟨negative, m, rfl⟩ := h
  have hexponent := Numeral.head?_exponentText_append m.exponent hrest
  have hfraction := Numeral.head?_fractionText_append m.fraction hexponent
  have hsplit : m.text ++ rest = m.whole ++ (Numeral.fractionText m.fraction ++
      (Numeral.exponentText m.exponent ++ rest)) := by simp [Numeral.text]
  -- The sign is taken off at the first digit; then each part is read up to the begin of the next
  -- one.
  obtain ⟨first, others, hcons, hfirst⟩ := m.exists_cons_text
  rw [List.append_assoc, hcons, List.cons_append, readNumeral_signText negative hfirst,
    ← List.cons_append, ← hcons, hsplit]
  simp only [readWhole_append m hfraction, readFraction_append m.fraction_digits hexponent,
    readExponent_append m.exponent_isDigits hrest, bind, Except.bind]
  simp [Numeral.text, pure, Except.pure]

end Document

/-! ### Reading numbers -/

namespace Decimal
open Text

theorem readSuffix?_exponentText {exponent : Option (Bool × Text)}
    (h : ∀ e ∈ exponent, e.2.isDigits = true) :
    readSuffix? (Numeral.exponentText exponent) = some (Numeral.exponentValue exponent) := by
  cases exponent with
  | none => rfl
  | some e =>
    obtain ⟨negative, digits⟩ := e
    have hdigits : digits.isDigits = true := h _ rfl
    cases negative <;>
      simp [Numeral.exponentText, Numeral.exponentValue, readSuffix?, readExponent?, hdigits]

theorem ofNumeral?_append {whole fraction suffix : Text} (hwhole : whole.isDigits = true)
    (hfraction : ∀ c ∈ fraction, c.isDigit = true)
    (hsuffix : ∀ c ∈ suffix.head?, c.isDigit = false ∧ c ≠ '.') :
    ofNumeral? (whole ++ (Numeral.fractionText fraction ++ suffix)) =
      (readSuffix? suffix).map fun e =>
        ⟨digitsValue (whole ++ fraction), -(fraction.length : Int) + e⟩ := by
  have hdigits := isDigits_iff.mp hwhole
  have hrest := Numeral.head?_fractionText_append fraction hsuffix
  simp only [ofNumeral?, takeWhile_isDigit hdigits.2 hrest, dropWhile_isDigit hdigits.2 hrest]
  cases fraction with
  | nil =>
    -- Without a fraction the suffix must not be taken for one.
    cases suffix with
    | nil => simp [Numeral.fractionText, ofParts, hdigits.1]
    | cons c suffix => simp [Numeral.fractionText, ofParts, hdigits.1, (hsuffix c rfl).2]
  | cons c digits =>
    have htake := takeWhile_isDigit hfraction fun c hc => (hsuffix c hc).1
    have hdrop := dropWhile_isDigit hfraction fun c hc => (hsuffix c hc).1
    simp only [Numeral.fractionText, List.cons_append] at htake hdrop ⊢
    simp [ofParts, htake, hdrop]

theorem ofNumeral?_text (m : Numeral) : ofNumeral? m.text = some m.decimal := by
  have hexponent := Numeral.head?_exponentText_append m.exponent endsNumeral_nil
  rw [List.append_nil] at hexponent
  rw [Numeral.text, List.append_assoc,
    ofNumeral?_append m.whole_isDigits m.fraction_digits hexponent,
    readSuffix?_exponentText m.exponent_isDigits]
  rfl

/-- A run of digits is a number literal. -/
theorem ofLiteral?_digits {digits : Text} (h : digits.isDigits = true) :
    ofLiteral? digits = some (ofParts digits []) := by
  have hpoint : '.' ∉ digits := fun hmem => absurd ((isDigits_iff.mp h).2 '.' hmem) (by decide)
  unfold ofLiteral?
  rw [cutAt?_eq_none hpoint]
  exact if_pos h

/-- Two runs of digits with a point between them are a number literal. -/
theorem ofLiteral?_point {whole fraction : Text} (hwhole : whole.isDigits = true)
    (hfraction : fraction.isDigits = true) :
    ofLiteral? (whole ++ '.' :: fraction) = some (ofParts whole fraction) := by
  have hpoint : '.' ∉ whole := fun hmem => absurd ((isDigits_iff.mp hwhole).2 '.' hmem) (by decide)
  have hcut : (whole ++ '.' :: fraction).cutAt? '.' = some (whole, fraction) := by
    rw [cutAt?_append hpoint]
    simp [cutAt?]
  unfold ofLiteral?
  rw [hcut]
  exact if_pos (Bool.and_eq_true_iff.mpr ⟨hwhole, hfraction⟩)

/-- A numeral without an exponent is a number literal. -/
theorem ofLiteral?_text {m : Numeral} (h : m.exponent = none) :
    ofLiteral? m.text = some m.decimal := by
  have hdecimal : m.decimal = ofParts m.whole m.fraction := by
    simp [Numeral.decimal, Numeral.exponentValue, h, ofParts]
  rw [hdecimal]
  rcases Numeral.text_cases h with ⟨htext, hnone⟩ | ⟨htext, hfraction⟩
  · rw [htext, hnone]
    exact ofLiteral?_digits m.whole_isDigits
  · rw [htext]
    exact ofLiteral?_point m.whole_isDigits hfraction

end Decimal

namespace Number
open Text

/-- A numeral with its sign is read as the number nearest to its decimal. -/
theorem ofNumeral?_signText (negative : Bool) (m : Numeral) :
    ofNumeral? (signText negative ++ m.text) = some (m.decimal.toNumber negative) := by
  cases negative with
  | true => simp [signText, ofNumeral?, Decimal.ofNumeral?_text]
  | false =>
    obtain ⟨first, others, hcons, hfirst⟩ := m.exists_cons_text
    have hminus : first ≠ '-' := ne_of_isDigit hfirst rfl
    have hplus : first ≠ '+' := ne_of_isDigit hfirst rfl
    have hread := Decimal.ofNumeral?_text m
    rw [hcons] at hread ⊢
    simp [signText, ofNumeral?, hminus, hplus, hread]

end Number

/-! ### Writing numbers -/

namespace Decimal
open Text

/-- Only zeros at the end are left out, and not all digits are. -/
theorem ofNat_coefficient {d : Decimal} (h : d.coefficient ≠ 0) :
    ∃ zeros, Text.ofNat d.coefficient = d.significant ++ List.replicate zeros '0' ∧
      d.significant ≠ [] := by
  have hhead := head?_ofNat h
  have hne : Text.ofNat d.coefficient ≠ [] := Nat.toDigits_ne_nil
  unfold significant
  generalize Text.ofNat d.coefficient = digits at *
  obtain ⟨zeros, hzeros⟩ : ∃ zeros, digits.reverse.takeWhile (· == '0') =
      List.replicate zeros '0' := by
    refine ⟨_, List.eq_replicate_of_mem fun c hc => ?_⟩
    have hall := List.all_eq_true.mp (List.all_takeWhile (p := (· == '0')) (l := digits.reverse))
    simpa using hall c hc
  have hsplit : digits = (digits.reverse.dropWhile (· == '0')).reverse ++
      List.replicate zeros '0' := by
    have hreverse := congrArg List.reverse
      (List.takeWhile_append_dropWhile (p := (· == '0')) (l := digits.reverse))
    rw [hzeros, List.reverse_append, List.reverse_replicate, List.reverse_reverse] at hreverse
    exact hreverse.symm
  dsimp only
  split
  · -- If all digits were zeros, the first one would be.
    rename_i hnone
    rw [hnone, List.nil_append] at hsplit
    cases zeros with
    | zero => exact absurd hsplit hne
    | succ zeros => simp [hsplit, List.replicate_succ] at hhead
  · rename_i hkept
    exact ⟨zeros, hsplit, fun hnil => hkept hnil⟩

/-- The digits that are written begin with the first digit of the coefficient. -/
theorem isDigits_significant {d : Decimal} (h : d.coefficient ≠ 0) :
    d.significant.isDigits = true ∧ d.significant.head? ≠ some '0' := by
  obtain ⟨zeros, hdigits, hne⟩ := ofNat_coefficient h
  have hall : ∀ c ∈ d.significant, c.isDigit = true := fun c hc =>
    isDigit_of_mem_ofNat (hdigits ▸ List.mem_append_left _ hc)
  refine ⟨isDigits_iff.mpr ⟨hne, hall⟩, fun hzero => head?_ofNat h ?_⟩
  rw [hdigits, List.head?_append, hzero]
  rfl

/-- The digits that are written, with the place of the first one, have the rank of the decimal. -/
theorem rank_significant {d : Decimal} (h : d.coefficient ≠ 0) :
    rank ⟨digitsValue d.significant, d.leading + 1 - d.significant.length⟩ = d.rank := by
  obtain ⟨zeros, hdigits, -⟩ := ofNat_coefficient h
  have hvalue : d.coefficient = digitsValue d.significant * 10 ^ zeros := by
    rw [← digitsValue_append_zeros, ← hdigits, digitsValue_ofNat]
  have hexponent : d.leading + 1 - d.significant.length - zeros = d.exponent := by
    rw [leading, hdigits, List.length_append, List.length_replicate]
    omega
  rw [← rank_shift _ _ zeros, ← hvalue, hexponent]

section
variable {digits : Text} (hdigits : digits.isDigits = true)
include hdigits

/-- All digits stand after the point, behind zeros. -/
theorem exists_numeral_below_one (zeros : Nat) :
    ∃ m : Numeral, m.text = '0' :: '.' :: List.replicate zeros '0' ++ digits ∧ m.exponent = none ∧
      m.decimal = ⟨digitsValue digits, -(zeros : Int) - digits.length⟩ := by
  obtain ⟨hne, hall⟩ := isDigits_iff.mp hdigits
  have hfraction : ∀ c ∈ List.replicate zeros '0' ++ digits, c.isDigit = true := fun c hc =>
    (List.mem_append.mp hc).elim isDigit_of_mem_zeros (hall c)
  refine ⟨⟨['0'], List.replicate zeros '0' ++ digits, none, rfl, fun _ => rfl, hfraction, by simp⟩,
    ?_, rfl, ?_⟩
  · have hsome : List.replicate zeros '0' ++ digits ≠ [] := by simp [hne]
    simp [Numeral.text, Numeral.fractionText_of_ne_nil hsome, Numeral.exponentText]
  · have hvalue : digitsValue (['0'] ++ (List.replicate zeros '0' ++ digits)) =
        digitsValue digits := by
      rw [← List.append_assoc, digitsValue_append, ← List.replicate_one,
        List.replicate_append_replicate, digitsValue_zeros, Nat.zero_mul, Nat.zero_add]
    have hexponent : -((List.replicate zeros '0' ++ digits).length : Int) + 0 =
        -(zeros : Int) - digits.length := by
      rw [List.length_append, List.length_replicate]
      omega
    simp only [Numeral.decimal, Numeral.exponentValue, hvalue, hexponent]

variable (hhead : digits.head? ≠ some '0')
include hhead

/-- All digits stand before the point, and zeros fill the places up to it and may stand after it. -/
theorem exists_numeral_whole (zeros places : Nat) :
    ∃ m : Numeral, m.text = digits ++ List.replicate zeros '0' ++
      Numeral.fractionText (List.replicate places '0') ∧
      m.exponent = none ∧
        m.decimal = ⟨digitsValue digits * 10 ^ (zeros + places), -(places : Int)⟩ := by
  obtain ⟨hne, hall⟩ := isDigits_iff.mp hdigits
  have hwhole : isDigits (digits ++ List.replicate zeros '0') = true :=
    isDigits_iff.mpr
      ⟨by simp [hne], fun c hc => (List.mem_append.mp hc).elim (hall c) isDigit_of_mem_zeros⟩
  have hfirst : (digits ++ List.replicate zeros '0').head? ≠ some '0' := by
    cases digits with
    | nil => exact absurd rfl hne
    | cons first others => simpa using hhead
  refine ⟨⟨_, List.replicate places '0', none, hwhole, fun h => absurd h hfirst,
    fun c hc => isDigit_of_mem_zeros hc, by simp⟩, ?_, rfl, ?_⟩
  · simp [Numeral.text, Numeral.exponentText]
  · have hvalue : digitsValue (digits ++ List.replicate zeros '0' ++ List.replicate places '0') =
        digitsValue digits * 10 ^ (zeros + places) := by
      rw [List.append_assoc, List.replicate_append_replicate, digitsValue_append_zeros]
    simp only [Numeral.decimal, Numeral.exponentValue, hvalue, List.length_replicate, Int.add_zero]

/-- The point stands behind the first `count` of the digits. -/
theorem exists_numeral_among (count : Nat) (hpos : 0 < count) (hlt : count < digits.length) :
    ∃ m : Numeral, m.text = digits.take count ++ '.' :: digits.drop count ∧ m.exponent = none ∧
      m.decimal = ⟨digitsValue digits, count - digits.length⟩ := by
  obtain ⟨hne, hall⟩ := isDigits_iff.mp hdigits
  have hwhole : isDigits (digits.take count) = true :=
    isDigits_iff.mpr ⟨by simp [hne]; omega, fun c hc => hall c (List.mem_of_mem_take hc)⟩
  have hfirst : (digits.take count).head? ≠ some '0' := by
    rwa [List.head?_take, if_neg (by omega)]
  refine ⟨⟨_, digits.drop count, none, hwhole, fun h => absurd h hfirst,
    fun c hc => hall c (List.mem_of_mem_drop hc), by simp⟩, ?_, rfl, ?_⟩
  · have hsome : digits.drop count ≠ [] := by simp; omega
    simp [Numeral.text, Numeral.fractionText_of_ne_nil hsome, Numeral.exponentText]
  · have hexponent : -((digits.drop count).length : Int) + 0 = count - digits.length := by
      rw [List.length_drop]
      omega
    simp only [Numeral.decimal, Numeral.exponentValue, List.take_append_drop, hexponent]

theorem exists_numeral_positional (places : Nat) (leading : Int) :
    ∃ m : Numeral, m.text =
      positional (Numeral.fractionText (List.replicate places '0')) digits leading ∧
      m.exponent = none ∧
        m.decimal.rank = rank ⟨digitsValue digits, leading + 1 - digits.length⟩ := by
  cases leading with
  | negSucc n =>
    obtain ⟨m, htext, hexponent, hdecimal⟩ := exists_numeral_below_one hdigits n
    have hplaces : Int.negSucc n + 1 - digits.length = -(n : Int) - digits.length := by omega
    exact ⟨m, htext, hexponent, by rw [hdecimal, hplaces]⟩
  | ofNat n =>
    unfold positional
    dsimp only
    split
    · rename_i hlength
      -- The zeros that fill the places, and those after the point, do not count.
      obtain ⟨m, htext, hexponent, hdecimal⟩ :=
        exists_numeral_whole hdigits hhead (n + 1 - digits.length) places
      have hshift :=
        rank_shift (digitsValue digits) (n + 1 - digits.length) (n + 1 - digits.length + places)
      have hplaces : (n + 1 - digits.length - (n + 1 - digits.length + places : Nat) : Int) =
          -(places : Int) := by
        omega
      rw [hplaces] at hshift
      exact ⟨m, htext, hexponent, by rw [hdecimal, hshift]; rfl⟩
    · rename_i hlength
      obtain ⟨m, htext, hexponent, hdecimal⟩ :=
        exists_numeral_among hdigits hhead (n + 1) (by omega) (by omega)
      exact ⟨m, htext, hexponent, by rw [hdecimal]; rfl⟩

omit hhead in
theorem exists_numeral_scientific (leading : Int) :
    ∃ m : Numeral, m.text = scientific digits leading ∧
      m.decimal.rank = rank ⟨digitsValue digits, leading + 1 - digits.length⟩ := by
  obtain ⟨first, others, rfl, hfirst⟩ := exists_cons_of_isDigits hdigits
  have hall := (isDigits_iff.mp hdigits).2
  have hwhole : isDigits [first] = true := isDigits_iff.mpr ⟨by simp, by simpa using hfirst⟩
  have hfraction : ∀ c ∈ others, c.isDigit = true := fun c hc => hall c (List.mem_cons_of_mem _ hc)
  have hexponent : ∀ e ∈ some (decide (leading < 0), Text.ofNat leading.natAbs),
      e.2.isDigits = true := by simp [isDigits_ofNat]
  refine ⟨⟨[first], others, some (decide (leading < 0), Text.ofNat leading.natAbs), hwhole,
    by simp, hfraction, hexponent⟩, ?_, ?_⟩
  · cases others <;> cases leading <;>
      simp [scientific, Numeral.text, Numeral.fractionText, Numeral.exponentText]
  · have hvalue : Numeral.exponentValue (some (decide (leading < 0), Text.ofNat leading.natAbs)) =
        leading := by
      by_cases hneg : leading < 0
      · rw [decide_eq_true hneg, Numeral.exponentValue, if_pos rfl, digitsValue_ofNat]
        omega
      · rw [decide_eq_false hneg, Numeral.exponentValue, if_neg (by decide), digitsValue_ofNat]
        omega
    have hplaces : -(others.length : Int) + leading = leading + 1 - (first :: others).length := by
      rw [List.length_cons]
      omega
    simp only [Numeral.decimal, hvalue, hplaces, List.singleton_append]

end

/-- A decimal is written as a numeral of the same rank, with an exponent only outside the bounds of
    the style. What the style has after whole numbers has to be a fraction of zeros, or nothing. -/
theorem exists_numeral_write {style : NumeralStyle} {places : Nat}
    (hstyle : style.afterWhole = Numeral.fractionText (List.replicate places '0')) {d : Decimal}
    (h : d.coefficient ≠ 0) :
    ∃ m : Numeral, m.text = d.write style ∧ m.decimal.rank = d.rank ∧
      (style.least ≤ d.leading ∧ d.leading ≤ style.greatest → m.exponent = none) := by
  obtain ⟨hdigits, hhead⟩ := isDigits_significant h
  rw [← rank_significant h]
  unfold write
  split
  · obtain ⟨m, htext, hexponent, hrank⟩ := exists_numeral_positional hdigits hhead places d.leading
    exact ⟨m, hstyle ▸ htext, hrank, fun _ => hexponent⟩
  · next hbounds =>
    obtain ⟨m, htext, hrank⟩ := exists_numeral_scientific hdigits d.leading
    exact ⟨m, htext, hrank, fun h => absurd h hbounds⟩

end Decimal

/-- The digits of a natural number are a numeral. -/
theorem Text.isNumeral_ofNat (n : Nat) : (Text.ofNat n).IsNumeral := by
  have hhead : (Text.ofNat n).head? = some '0' → Text.ofNat n = ['0'] := by
    intro hzero
    by_cases hn : n = 0
    · subst hn
      rfl
    · exact absurd hzero (head?_ofNat hn)
  exact ⟨false, ⟨Text.ofNat n, [], none, isDigits_ofNat n, hhead, by simp, by simp⟩,
    by simp [Number.signText, Numeral.text, Numeral.fractionText, Numeral.exponentText]⟩

namespace Number

/-- A finite magnitude is written as a numeral of its rank, with an exponent only outside the bounds
    of the style. -/
theorem exists_numeral_magnitudeText {style : NumeralStyle} {places : Nat}
    (hstyle : style.afterWhole = Numeral.fractionText (List.replicate places '0')) {rank : Nat}
    (h : rank < topRank) :
    ∃ m : Numeral, m.text = magnitudeText style rank ∧ m.decimal.rank = rank ∧
      (rank = 0 ∨ style.least ≤ (Decimal.shortest style.tie rank).leading ∧
        (Decimal.shortest style.tie rank).leading ≤ style.greatest → m.exponent = none) := by
  unfold magnitudeText
  split
  · next hzero =>
    have hzeros : Text.digitsValue (['0'] ++ List.replicate places '0') = 0 :=
      Text.digitsValue_zeros (places + 1)
    refine ⟨⟨['0'], List.replicate places '0', none, rfl, fun _ => rfl,
      fun c hc => Text.isDigit_of_mem_zeros hc, by simp⟩, ?_, ?_, fun _ => rfl⟩
    · rw [hstyle]
      simp [Numeral.text, Numeral.exponentText]
    · simp only [Numeral.decimal, hzeros]
      rw [hzero]
      rfl
  · next hzero =>
    have hrank := Decimal.rank_shortest style.tie h
    obtain ⟨m, htext, hdecimal, hexponent⟩ :=
      Decimal.exists_numeral_write hstyle (Decimal.coefficient_ne_zero (hrank ▸ hzero))
    exact ⟨m, htext, hdecimal.trans hrank, fun hplain => hexponent (hplain.resolve_left hzero)⟩

/-- A finite number is archived as a numeral that is read as the number. -/
theorem isNumeral_archived {n : Number} (h : n.isFinite = true) :
    n.archived.IsNumeral ∧ ofNumeral? n.archived = some n := by
  cases n with
  | nan => simp [isFinite] at h
  | ranked negative rank rank_le =>
    have hstyle : NumeralStyle.archive.afterWhole = Numeral.fractionText (List.replicate 1 '0') :=
      rfl
    obtain ⟨m, htext, hrank, _⟩ := exists_numeral_magnitudeText hstyle (by simpa [isFinite] using h)
    have harchived : archived (ranked negative rank rank_le) = signText negative ++ m.text := by
      rw [htext]
      rfl
    refine ⟨⟨negative, m, harchived⟩, ?_⟩
    rw [harchived, ofNumeral?_signText, Decimal.toNumber, hrank]
    simp [ofRank, Nat.min_eq_left rank_le]

end Number
end Stepwise
