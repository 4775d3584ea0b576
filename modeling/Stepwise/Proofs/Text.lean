import Stepwise.Text.Word
import Stepwise.Text.Quoted

/-!
# Laws of texts

- word characters are not blank, so that trimming leaves words as they are (`trim_of_isWord`), and
  it takes nothing but blanks away (`mem_dropWhile_isBlank`),
- the balance of the braces of two texts is the sum of theirs, where the second one is read on in
  the state in which the first one ends (`braceBalanceFrom_append`), so that what has no braces can
  be put around a text (`braceBalance_between`).
-/

namespace Stepwise

/-! ### Characters -/

/-- Word characters have code points below 128. -/
theorem toNat_of_isWordChar {c : Char} (h : isWordChar c = true) :
    (48 ≤ c.toNat ∧ c.toNat ≤ 57) ∨ (65 ≤ c.toNat ∧ c.toNat ≤ 90) ∨ c.toNat = 95 ∨
      (97 ≤ c.toNat ∧ c.toNat ≤ 122) := by
  have hranges :
      ((decide (c.val ≥ 65 ∧ c.val ≤ 90) || (decide (c.val ≥ 97) && decide (c.val ≤ 122)) ||
      (decide (c.val ≥ 48) && decide (c.val ≤ 57))) || c == '_') = true := h
  simp only [Bool.or_eq_true, Bool.and_eq_true, decide_eq_true_eq, beq_iff_eq,
    UInt32.le_iff_toNat_le, ge_iff_le] at hranges
  rcases hranges with ((⟨hge, hle⟩ | ⟨hge, hle⟩) | ⟨hge, hle⟩) | rfl
  · exact .inr (.inl ⟨hge, hle⟩)
  · exact .inr (.inr (.inr ⟨hge, hle⟩))
  · exact .inl ⟨hge, hle⟩
  · exact .inr (.inr (.inl rfl))

/-- No word character is blank. -/
theorem isBlank_of_isWordChar {c : Char} (h : isWordChar c = true) : isBlank c = false := by
  have hrange := toNat_of_isWordChar h
  simp only [isBlank, blankRanges, List.any_cons, List.any_nil, Bool.or_eq_false_iff,
    Bool.and_eq_false_iff, decide_eq_false_iff_not, and_true]
  omega

theorem isQuote_cases {c : Char} (h : isQuote c = true) : c = '"' ∨ c = '\'' := by
  simpa [isQuote] using h

/-- No word character is a quote. -/
theorem isQuote_of_isWordChar {c : Char} (h : isWordChar c = true) : isQuote c = false := by
  rw [← Bool.not_eq_true]
  intro hquote
  rcases isQuote_cases hquote with rfl | rfl <;> exact absurd h (by decide)

namespace Text

/-! ### Trimming -/

theorem suffix_trimStart (text : Text) : text.trimStart <:+ text := List.dropWhile_suffix isBlank

theorem prefix_trimEnd (text : Text) : text.trimEnd <+: text := by
  rw [← List.reverse_suffix, trimEnd, List.reverse_reverse]
  exact List.dropWhile_suffix isBlank

theorem infix_trim (text : Text) : text.trim <:+: text :=
  (prefix_trimEnd _).isInfix.trans (suffix_trimStart text).isInfix

/-- Trimming makes no text longer. -/
theorem length_trim_le (text : Text) : text.trim.length ≤ text.length := (infix_trim text).length_le

/-- A text whose ends are not blank is not changed by trimming. -/
theorem trim_of_not_isBlank_ends {text : Text}
    (hfirst : ∀ c, text.head? = some c → isBlank c = false)
    (hlast : ∀ c, text.getLast? = some c → isBlank c = false) : text.trim = text := by
  have hdrop : ∀ text : Text, (∀ c, text.head? = some c → isBlank c = false) →
      text.dropWhile isBlank = text := by
    intro text h
    cases text with
    | nil => rfl
    | cons c rest => rw [List.dropWhile_cons, h c rfl, if_neg Bool.false_ne_true]
  have hstart : text.trimStart = text := hdrop text hfirst
  unfold trim trimEnd
  rw [hstart, hdrop text.reverse, List.reverse_reverse]
  intro c hc
  rw [List.head?_reverse] at hc
  exact hlast c hc

/-- Words have no blanks at their ends. -/
theorem trim_of_isWord {text : Text} (h : text.isWord = true) : text.trim = text := by
  have hall : ∀ c ∈ text, isBlank c = false := by
    simp only [isWord, Bool.and_eq_true, List.all_eq_true] at h
    exact fun c hc => isBlank_of_isWordChar (h.2 c hc)
  exact trim_of_not_isBlank_ends (fun c hc => hall c (List.mem_of_head? hc))
    (fun c hc => hall c (List.mem_of_getLast? hc))

/-- Trimming takes blanks away and nothing else. -/
theorem mem_dropWhile_isBlank {c : Char} {text : Text} (hc : isBlank c = false) (h : c ∈ text) :
    c ∈ text.dropWhile isBlank := by
  rw [← List.takeWhile_append_dropWhile (p := isBlank) (l := text), List.mem_append] at h
  rcases h with h | h
  · have hblank := List.all_eq_true.mp List.all_takeWhile c h
    rw [hc] at hblank
    cases hblank
  · exact h

theorem mem_trimEnd {c : Char} {text : Text} (hc : isBlank c = false) (h : c ∈ text) :
    c ∈ text.trimEnd :=
  List.mem_reverse.mpr (mem_dropWhile_isBlank hc (List.mem_reverse.mpr h))

/-- A text that is not blank is not empty after trimming. -/
theorem trim_ne_nil {text : Text} (h : text.allBlank = false) : text.trim ≠ [] := by
  obtain ⟨c, hmem, hc⟩ := List.all_eq_false.mp h
  have hblank : isBlank c = false := by simpa using hc
  exact List.ne_nil_of_mem (mem_trimEnd hblank (mem_dropWhile_isBlank hblank hmem))

/-- A blank before a text is trimmed away. -/
theorem trim_cons {c : Char} (hc : isBlank c = true) (text : Text) :
    trim (c :: text) = text.trim := by
  unfold trim trimStart
  rw [List.dropWhile_cons_of_pos hc]

/-- A blank text is trimmed away, and no other text is. -/
theorem trim_eq_nil_iff {text : Text} : text.trim = [] ↔ text.allBlank = true := by
  constructor
  · intro h
    by_cases hblank : text.allBlank = true
    · exact hblank
    · exact absurd h (trim_ne_nil (by simpa using hblank))
  · intro h
    induction text with
    | nil => rfl
    | cons c rest ih =>
      rw [allBlank, List.all_cons, Bool.and_eq_true] at h
      rw [trim_cons h.1]
      exact ih h.2

/-- A text without blanks at its ends is not changed by trimming. -/
theorem trim_of_ends {first last : Char} (middle : Text) (hfirst : isBlank first = false)
    (hlast : isBlank last = false) :
    trim (first :: middle ++ [last]) = first :: middle ++ [last] := by
  apply trim_of_not_isBlank_ends
  · intro c hc
    cases hc
    exact hfirst
  · intro c hc
    rw [List.getLast?_concat] at hc
    cases hc
    exact hlast

/-! ### Cuts -/

/-- A text without a character is not cut at it. -/
theorem cutAt?_eq_none {sep : Char} {text : Text} (h : sep ∉ text) : text.cutAt? sep = none := by
  induction text with
  | nil => rfl
  | cons c rest ih =>
    have hc : c ≠ sep := by
      rintro rfl
      exact h List.mem_cons_self
    have hrest := ih fun hmem => h (List.mem_cons_of_mem _ hmem)
    simp [cutAt?, hc, hrest]

/-- A text is not cut before the character. -/
theorem cutAt?_append {sep : Char} {start : Text} (h : sep ∉ start) (text : Text) :
    (start ++ text).cutAt? sep = (text.cutAt? sep).map fun (before, after) =>
      (start ++ before, after) := by
  induction start with
  | nil => simp
  | cons c start ih =>
    have hc : c ≠ sep := by
      rintro rfl
      exact h List.mem_cons_self
    rw [List.cons_append, cutAt?, if_neg hc, ih fun hmem => h (List.mem_cons_of_mem _ hmem),
      Option.map_map]
    rfl

theorem stripEnd?_append (last : Char) (text : Text) :
    stripEnd? last (text ++ [last]) = some text := by
  simp [stripEnd?]

theorem dropEnd_append (last : Char) (text : Text) : dropEnd last (text ++ [last]) = text := by
  rw [dropEnd, stripEnd?_append, Option.getD_some]

/-- Joined texts have the characters of the texts and of the separator. -/
theorem not_mem_intercalate {c : Char} {separator : Text} (hseparator : c ∉ separator)
    {texts : List Text} (h : ∀ text ∈ texts, c ∉ text) : c ∉ List.intercalate separator texts := by
  induction texts with
  | nil => exact List.not_mem_nil
  | cons text rest ih =>
    have htext := h text List.mem_cons_self
    have hrest := ih fun text hmem => h text (List.mem_cons_of_mem _ hmem)
    cases rest with
    | nil => rwa [List.intercalate_singleton]
    | cons next rest =>
      rw [List.intercalate_cons_cons, List.mem_append, List.mem_append, not_or, not_or]
      exact ⟨⟨htext, hseparator⟩, hrest⟩

/-! ### Braces -/

/-- The balance of the braces of a text that is read on in state `quote`. -/
def braceBalanceFrom (quote : Quote) : Text → Int
  | [] => 0
  | c :: rest =>
    (if quote.isOutside c then braceWeight c else 0) + braceBalanceFrom (quote.next c) rest

theorem braceBalance_eq (text : Text) : text.braceBalance = braceBalanceFrom none text := by
  have hfrom : ∀ quote seen, (unquotedFrom quote seen text).foldr
      (fun cut balance => braceWeight cut.char + balance) 0 = braceBalanceFrom quote text := by
    induction text with
    | nil => intro quote seen; rfl
    | cons c rest ih =>
      intro quote seen
      simp only [unquotedFrom, braceBalanceFrom]
      split
      · rw [List.foldr_cons, ih]
      · rw [ih, Int.zero_add]
  exact hfrom none []

theorem braceBalanceFrom_append (quote : Quote) (text text' : Text) :
    braceBalanceFrom quote (text ++ text') =
      braceBalanceFrom quote text + braceBalanceFrom (text.foldl Quote.next quote) text' := by
  induction text generalizing quote with
  | nil => simp [braceBalanceFrom]
  | cons c rest ih =>
    simp only [List.cons_append, braceBalanceFrom, List.foldl_cons, ih, Int.add_assoc]

theorem braceBalanceFrom_eq_zero {text : Text} (h : text.all (braceWeight · == 0) = true)
    (quote : Quote) :
    braceBalanceFrom quote text = 0 := by
  induction text generalizing quote with
  | nil => rfl
  | cons c rest ih =>
    rw [List.all_cons, Bool.and_eq_true, beq_iff_eq] at h
    rw [braceBalanceFrom, h.1, ih h.2, ite_self, Int.add_zero]

/-- A text keeps its balance between a start after which no quotation is open and an end, both
    without braces. -/
theorem braceBalance_between {start last : Text} (hstart : start.all (braceWeight · == 0) = true)
    (hquote : start.foldl Quote.next none = none) (hlast : last.all (braceWeight · == 0) = true)
    (text : Text) :
    (start ++ text ++ last).braceBalance = text.braceBalance := by
  rw [braceBalance_eq, braceBalance_eq, braceBalanceFrom_append, braceBalanceFrom_append, hquote,
    braceBalanceFrom_eq_zero hstart, braceBalanceFrom_eq_zero hlast, Int.zero_add, Int.add_zero]

end Text
end Stepwise
