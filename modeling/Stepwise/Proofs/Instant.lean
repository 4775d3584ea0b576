import Stepwise.Instant
import Stepwise.Proofs.Numeral
import Stepwise.Proofs.Text

/-!
# Instants read back

The text of an instant is read as the instant. Each field is written with as many digits as it is
read with, or stands before a character that is not a digit, so that one lemma about runs of digits,
`readNat?_append`, serves them all.
-/

namespace Stepwise

theorem isBlank_of_isDigit {c : Char} (h : c.isDigit = true) : isBlank c = false := by
  have hword : isWordChar c = ((c.isAlpha || c.isDigit) || c == '_') := rfl
  exact isBlank_of_isWordChar (by simp [hword, h])

namespace Text

theorem trimStart_cons {c : Char} (h : isBlank c = false) (rest : Text) :
    trimStart (c :: rest) = c :: rest := by
  simp [trimStart, h]

theorem trimStart_append {digits : Text} (h : digits.isDigits = true) (rest : Text) :
    trimStart (digits ++ rest) = digits ++ rest := by
  obtain ⟨first, others, rfl, hfirst⟩ := exists_cons_of_isDigits h
  exact trimStart_cons (isBlank_of_isDigit hfirst) _

end Text

namespace Instant
open Text

/-! ### Runs of digits -/

/-- A number with leading zeros is a run of digits of that value, and of that width if it fits. -/
theorem isDigits_padded (width n : Nat) : (padded width n).isDigits = true := by
  have hdigits := isDigits_iff.mp (isDigits_ofNat n)
  refine isDigits_iff.mpr ⟨by simp [padded, padStart, hdigits.1], fun c hc => ?_⟩
  exact (List.mem_append.mp hc).elim isDigit_of_mem_zeros (hdigits.2 c)

theorem digitsValue_padded (width n : Nat) : digitsValue (padded width n) = n := by
  rw [padded, padStart, digitsValue_append, digitsValue_zeros, digitsValue_ofNat,
    Nat.zero_mul, Nat.zero_add]

theorem length_padded (width n : Nat) (hpos : 0 < width) (h : n < 10 ^ width) :
    (padded width n).length = width := by
  have hlength := (length_ofNat_le_iff hpos).mpr h
  rw [padded, padStart, List.length_append, List.length_replicate]
  omega

theorem spanDigits_append (most : Nat) {digits : Text} (rest : Text)
    (hdigits : ∀ c ∈ digits, c.isDigit = true)
    (hlength : digits.length ≤ most)
    (hrest : digits.length = most ∨ ∀ c ∈ rest.head?, c.isDigit = false) :
    spanDigits most (digits ++ rest) = (digits, rest) := by
  induction digits generalizing most with
  | nil =>
    cases most with
    | zero => cases rest <;> rfl
    | succ most =>
      cases rest with
      | nil => rfl
      | cons c rest =>
        have hc : c.isDigit = false := hrest.elim (fun h => by simp at h) fun h => h c rfl
        simp [spanDigits, hc]
  | cons c digits ih =>
    obtain ⟨hc, hdigits⟩ := List.forall_mem_cons.mp hdigits
    cases most with
    | zero => simp at hlength
    | succ most =>
      rw [List.length_cons] at hlength hrest
      have hspan := ih most hdigits (by omega) (hrest.imp_left (by omega))
      simp [spanDigits, hc, hspan]

/-- A run of digits is read as its value, if it is as long as it may be or what follows is no
    digit. -/
theorem readNat?_append {most : Nat} {digits rest : Text} (hdigits : digits.isDigits = true)
    (hlength : digits.length ≤ most)
    (hrest : digits.length = most ∨ ∀ c ∈ rest.head?, c.isDigit = false) :
    readNat? most (digits ++ rest) = some (digitsValue digits, rest) := by
  obtain ⟨hne, hall⟩ := isDigits_iff.mp hdigits
  simp [readNat?, spanDigits_append most rest hall hlength hrest, hne]

/-! ### Fields -/

theorem readField?_padded {n : Nat} (h : n < 100) (rest : Text) :
    readField? (padded 2 n ++ rest) = some (n, rest) := by
  have hlength := length_padded 2 n (by decide) h
  rw [readField?, trimStart_append (isDigits_padded 2 n),
    readNat?_append (isDigits_padded 2 n) hlength.le (.inl hlength), digitsValue_padded]

theorem readMark?_cons {mark : Char} (h : isBlank mark = false) (rest : Text) :
    readMark? mark (mark :: rest) = some rest := by
  have hstrip : stripStart? [mark] (mark :: rest) = if mark == mark then some rest else none := rfl
  rw [readMark?, trimStart_cons h, hstrip, if_pos (beq_self_eq_true mark)]

/-- The year ends before the mark after it. -/
theorem readYear?_writeYear (year : Int) (rest : Text) :
    readYear? (writeYear year ++ '-' :: rest) = some (year, '-' :: rest) := by
  have hdigits := isDigits_padded 4 year.natAbs
  have hmark : ∀ c ∈ ('-' :: rest).head?, c.isDigit = false := by simp
  have hsigned : readNat? (padded 4 year.natAbs ++ '-' :: rest).length
      (padded 4 year.natAbs ++ '-' :: rest) = some (year.natAbs, '-' :: rest) := by
    rw [readNat?_append hdigits (by simp) (.inr hmark), digitsValue_padded]
  unfold writeYear
  -- A year with a sign is read up to the mark, one without a sign up to its fourth digit.
  split
  · rename_i hneg
    have hvalue : -(year.natAbs : Int) = year := by omega
    rw [readYear?, List.cons_append, trimStart_cons rfl]
    simp only [hsigned, Option.map_some, hvalue]
  · rename_i hnonneg
    have hvalue : (year.natAbs : Int) = year := by omega
    split
    · rw [readYear?, List.cons_append, trimStart_cons rfl]
      simp only [hsigned, Option.map_some, hvalue]
    · have hlength := length_padded 4 year.natAbs (by decide) (by omega)
      have hplain : readNat? 4 (padded 4 year.natAbs ++ '-' :: rest) =
          some (year.natAbs, '-' :: rest) := by
        rw [readNat?_append hdigits hlength.le (.inl hlength), digitsValue_padded]
      rw [readYear?, trimStart_append hdigits]
      obtain ⟨first, others, hcons, hfirst⟩ := exists_cons_of_isDigits hdigits
      have hminus : first ≠ '-' := ne_of_isDigit hfirst rfl
      have hplus : first ≠ '+' := ne_of_isDigit hfirst rfl
      rw [hcons, List.cons_append] at hplain ⊢
      simp [hminus, hplus, hplain, hvalue]

/-- The digits of a fraction count as many nanoseconds as they were written for. -/
theorem readFraction?_padded {width n : Nat} (hpos : 0 < width) (hwidth : width ≤ 9)
    (h : n < 10 ^ width) :
    readFraction? ('.' :: padded width n ++ ['Z']) = some (n * 10 ^ (9 - width), ['Z']) := by
  have hdigits := isDigits_iff.mp (isDigits_padded width n)
  have hlength := length_padded width n hpos h
  have hspan := spanDigits_append 9 ['Z'] hdigits.2 (by omega) (.inr (by simp))
  simp only [List.cons_append, readFraction?, hspan]
  simp [hdigits.1, digitsValue_padded, hlength]

theorem readFraction?_writeFraction {nanosecond : Nat} (h : nanosecond < 1000000000) :
    readFraction? (writeFraction nanosecond ++ ['Z']) = some (nanosecond, ['Z']) := by
  unfold writeFraction
  split
  · rename_i hzero
    simp [readFraction?, hzero]
  split
  · rw [readFraction?_padded (by decide) (by decide) (by omega)]
    congr 2
    omega
  split
  · rw [readFraction?_padded (by decide) (by decide) (by omega)]
    congr 2
    omega
  · rw [readFraction?_padded (by decide) (by decide) (by omega)]
    congr 2
    omega

/-! ### Instants -/

/-- A date has a month and a day of at most two digits. -/
theorem lt_of_isValid {date : Date} (h : date.isValid = true) :
    date.month < 100 ∧ date.day < 100 := by
  have hday : 1 ≤ date.day ∧ date.day ≤ daysInMonth date.year date.month := by
    simp only [Date.isValid, Bool.and_eq_true, decide_eq_true_eq] at h
    exact ⟨h.1.2, h.2⟩
  -- Only the months from one to twelve have days.
  unfold daysInMonth at hday
  split at hday <;> grind

theorem readDate?_append {date : Date} (h : date.isValid = true) (rest : Text) :
    readDate? (writeYear date.year ++ '-' ::
      (padded 2 date.month ++ '-' :: (padded 2 date.day ++ rest))) =
      some (date, rest) := by
  obtain ⟨hmonth, hday⟩ := lt_of_isValid h
  have hmark (rest : Text) : readMark? '-' ('-' :: rest) = some rest := readMark?_cons rfl rest
  simp [readDate?, readYear?_writeYear, hmark, readField?_padded hmonth, readField?_padded hday]

theorem readTime?_append {time : TimeOfDay} (h : time.isValid = true) :
    readTime? (padded 2 time.hour ++ ':' :: (padded 2 time.minute ++ ':' :: (padded 2 time.second ++
      (writeFraction time.nanosecond ++ ['Z'])))) = some (time, ['Z']) := by
  obtain ⟨⟨⟨hhour, hminute⟩, hsecond⟩, hnanosecond⟩ : ((time.hour < 24 ∧ time.minute < 60) ∧
      time.second ≤ 60) ∧ time.nanosecond < 1000000000 := by
    simpa [TimeOfDay.isValid] using h
  have hmark (rest : Text) : readMark? ':' (':' :: rest) = some rest := readMark?_cons rfl rest
  have hfield {n : Nat} (hn : n < 61) (rest : Text) : readField? (padded 2 n ++ rest) =
      some (n, rest) :=
    readField?_padded (Nat.lt_trans hn (by decide)) rest
  simp [readTime?, hmark, hfield (Nat.lt_trans hhour (by decide)),
    hfield (Nat.lt_succ_of_lt hminute), hfield (Nat.lt_succ_of_le hsecond),
    readFraction?_writeFraction hnanosecond]

/-- Where clocks show UTC, the instant of a date and a time of day is theirs. -/
theorem ofLocal?_zero (i : Instant) : ofLocal? i.date i.time 0 = some i := by
  obtain ⟨date, time, hvalid⟩ := i
  obtain ⟨hhour, hminute⟩ : time.hour < 24 ∧ time.minute < 60 := by
    simp only [TimeOfDay.isValid, Bool.and_eq_true, decide_eq_true_eq] at hvalid
    exact ⟨hvalid.2.1.1.1, hvalid.2.1.1.2⟩
  -- The minutes of the day are the same before and after the distance of zero is taken away.
  obtain ⟨minutes, hminutes⟩ : ∃ minutes : Nat, minutes = time.hour * 60 + time.minute := ⟨_, rfl⟩
  have hsub : (time.hour * 60 + time.minute : Int) - 0 = minutes := by omega
  have hclock : minutes / 60 = time.hour ∧ minutes % 60 = time.minute := by omega
  have hday : ¬((minutes : Int) < 0) ∧ ¬((1440 : Int) ≤ minutes) := by omega
  simp [ofLocal?, hvalid, hsub, hday, hclock, ofUtc?]

theorem readZone?_zulu : readZone? ['Z'] = some (0, []) := by decide

/-- The text of an instant is read as the instant. -/
theorem read?_write (i : Instant) : read? i.write = some i := by
  have hvalid := i.isValid
  rw [Bool.and_eq_true] at hvalid
  have hdate := readDate?_append hvalid.1
  have htime := readTime?_append hvalid.2
  simp only [write, List.append_assoc, List.cons_append]
  simp only [read?, hdate, htime, readZone?_zulu, Option.bind_eq_bind, Option.bind_some,
    List.head?_cons, List.tail_cons]
  rw [if_neg (by decide), if_pos (by decide), ofLocal?_zero]

end Instant
end Stepwise
