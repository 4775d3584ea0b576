import Stepwise.Proofs.Grammar
import Stepwise.Proofs.Numeral
import Stepwise.Proofs.ReadBack

/-!
# Expressions with one operator

An expression is split at its first operator outside quotes, after literals, keywords and names have
been tried, and arithmetic before comparisons. With one operator between two operands all of this
comes to the same: the operands are what stands on the two sides of the operator.

- `Operand` are number literals, literals in quotes, and names, with their texts and values;
  `Operator` are all operators,
- `Calm` says that a text closes its quotes and has no character of an operator outside them:
  operands are calm, and so are blanks, and no text can be split inside a calm beginning
  (`utf8Size_le_of_calm`),
- so the operator between two operands is the one that is found (`split?_append`), and
  `literal?_append` shows that the whole is no literal, also when both ends are the same quote,
- `operator_applied_to_operands`: so the value is that of the operator applied to the values of the
  operands.
-/

namespace Stepwise

namespace Text

/-! ### Blanks around a text -/

theorem trim_blank_append {blanks : Text} (h : blanks.allBlank = true) (text : Text) :
    (blanks ++ text).trim = text.trim := by
  induction blanks with
  | nil => rfl
  | cons c blanks ih =>
    rw [allBlank, List.all_cons, Bool.and_eq_true] at h
    rw [List.cons_append, trim_cons h.1]
    exact ih h.2

theorem trim_append_blank {blanks : Text} (h : blanks.allBlank = true) (text : Text) :
    (text ++ blanks).trim = text.trim := by
  induction blanks generalizing text with
  | nil => rw [List.append_nil]
  | cons c blanks ih =>
    rw [allBlank, List.all_cons, Bool.and_eq_true] at h
    rw [← List.singleton_append, ← List.append_assoc, ih h.2, trim_concat h.1]

/-! ### Texts without operators -/

/-- The characters that operators consist of. -/
def operatorChars : List Char := ['+', '-', '*', '/', '=', '!', '<', '>']

/-- The text closes its quotes and has no character of an operator outside them. -/
structure Calm (text : Text) : Prop where
  quotes : text.quoteAfter = none
  plain : ∀ c ∈ text.outside, c ∉ operatorChars

theorem Calm.append {text text' : Text} (h : text.Calm) (h' : text'.Calm) :
    (text ++ text').Calm where
  quotes := (quoteAfter_append_of_closed h.quotes text').trans h'.quotes
  plain := by
    intro c hc
    rw [outside_append_of_closed h.quotes, List.mem_append] at hc
    rcases hc with hc | hc
    · exact h.plain c hc
    · exact h'.plain c hc

/-- A text without quotes is calm, if none of its characters belongs to an operator. -/
theorem calm_of_plain {text : Text} (hquote : ∀ c ∈ text, isQuote c = false)
    (hplain : ∀ c ∈ text, c ∉ operatorChars) : text.Calm := by
  induction text with
  | nil => exact ⟨rfl, fun c hc => absurd hc List.not_mem_nil⟩
  | cons c rest ih =>
    have hrest := ih (fun d hd => hquote d (List.mem_cons_of_mem _ hd))
      (fun d hd => hplain d (List.mem_cons_of_mem _ hd))
    have hone : Calm [c] := by
      have hc := hquote c List.mem_cons_self
      refine ⟨?_, ?_⟩
      · show (if isQuote c then some c else none) = none
        rw [hc]
        rfl
      · intro d hd
        have houtside : outside [c] = if !isQuote c then [c] else [] := rfl
        rw [houtside, hc] at hd
        rw [List.mem_singleton.mp hd]
        exact hplain c List.mem_cons_self
    exact hone.append hrest

theorem outsideFrom_of_not_mem {quote : Char} {inner : Text} (h : quote ∉ inner) :
    outsideFrom (some quote) inner = [] := by
  induction inner with
  | nil => rfl
  | cons c inner ih =>
    have hc : c ≠ quote := fun hc => h (hc ▸ List.mem_cons_self)
    have hnext : Quote.next (some quote) c = some quote := if_neg hc
    have hinside : Quote.isOutside (some quote) c = false := rfl
    rw [outsideFrom, hinside, if_neg Bool.false_ne_true, hnext]
    exact ih fun hmem => h (List.mem_cons_of_mem _ hmem)

/-- A literal in quotes is calm, whatever it contains. -/
theorem calm_quoted {quote : Char} {inner : Text} (hquote : isQuote quote = true)
    (hinner : quote ∉ inner) :
    Calm (quote :: inner ++ [quote]) := by
  have hopen : Quote.next none quote = some quote := if_pos hquote
  have hbefore : Quote.isOutside none quote = false := by
    show (true && !isQuote quote) = false
    rw [hquote]
    rfl
  have hinside : Quote.isOutside (some quote) quote = false := rfl
  have houtside : outside (quote :: inner ++ [quote]) = [] := by
    show outsideFrom none (quote :: (inner ++ [quote])) = []
    rw [outsideFrom, hbefore, if_neg Bool.false_ne_true, hopen, outsideFrom_append,
      outsideFrom_of_not_mem hinner, foldl_next_of_not_mem hinner, List.nil_append,
      outsideFrom, hinside, if_neg Bool.false_ne_true]
    rfl
  refine ⟨(QuotesClosed.quoted hquote hinner .nil).quoteAfter_eq, ?_⟩
  intro c hc
  rw [houtside] at hc
  exact absurd hc List.not_mem_nil

/-- A character after closed quotes stands outside quotes, if it is no quote itself. -/
theorem mem_outside {before : Text} (h : before.QuotesClosed) {c : Char} (hc : isQuote c = false)
    (rest : Text) :
    c ∈ (before ++ c :: rest).outside := by
  have houtside : Quote.isOutside none c = true := by
    show (true && !isQuote c) = true
    rw [hc]
    rfl
  rw [outside_append_of_closed h.quoteAfter_eq]
  apply List.mem_append_right
  show c ∈ outsideFrom none (c :: rest)
  rw [outsideFrom, if_pos houtside]
  exact List.mem_cons_self

end Text

namespace Expression

/-! ### Operands and operators -/

/-- An operand: a number literal, a literal in quotes, or a name. A word of digits is a number. -/
inductive Operand where
  | number (whole : Text) (fraction : Option Text) (hwhole : whole.isDigits = true)
    (hfraction : ∀ digits ∈ fraction, Text.isDigits digits = true)
  | quoted (quote : Char) (inner : Text) (hquote : isQuote quote = true) (hinner : quote ∉ inner)
  | name (word : Text) (hword : word.isWord = true) (hdigits : word.isDigits = false)

/-- An operator of either kind. -/
inductive Operator where
  | arithmetic (op : Arithmetic)
  | comparison (op : Comparison)

namespace Operator

/-- The text of an operator. -/
def symbol : Operator → Text
  | arithmetic op => op.symbol
  | comparison op => op.symbol

/-- The result of an operator; a comparison gives a truth value. -/
def apply : Operator → Value → Value → Value
  | arithmetic op, a, b => op.apply a b
  | comparison op, a, b => .boolean (op.holds a b)

theorem mem_operatorChars (op : Operator) : ∀ c ∈ op.symbol, c ∈ Text.operatorChars := by
  have hall : op.symbol.all Text.operatorChars.contains = true := by
    cases op with
    | arithmetic op => cases op <;> rfl
    | comparison op => cases op <;> rfl
  intro c hc
  exact List.contains_iff_mem.mp (List.all_eq_true.mp hall c hc)

theorem exists_mem_symbol (op : Operator) : ∃ c ∈ op.symbol, c ∈ Text.operatorChars := by
  cases op with
  | arithmetic op => cases op <;> exact ⟨_, List.mem_cons_self, by decide⟩
  | comparison op => cases op <;> exact ⟨_, List.mem_cons_self, by decide⟩

end Operator

namespace Operand

/-- The text of an operand. -/
def text : Operand → Text
  | number whole fraction .. => whole ++ fraction.elim [] ('.' :: ·)
  | quoted quote inner .. => quote :: inner ++ [quote]
  | name word .. => word

/-- The value of an operand. A name without a value stands for its text. -/
def value (table : VariableTable) : Operand → Value
  | number whole fraction .. => .number ((Decimal.ofParts whole (fraction.getD [])).toNumber false)
  | quoted _ inner .. => .string inner
  | name word .. => (table.get? word).getD (.raw word)

end Operand

/-! ### Characters of operands -/

theorem isWordChar_of_isDigit {c : Char} (h : c.isDigit = true) : isWordChar c = true := by
  show ((c.isAlpha || c.isDigit) || c == '_') = true
  rw [h, Bool.or_true, Bool.true_or]

/-- The characters of numbers and names are no quotes. -/
theorem isQuote_of_isPlain {c : Char} (h : isWordChar c = true ∨ c = '.') : isQuote c = false := by
  rcases h with h | rfl
  · exact isQuote_of_isWordChar h
  · rfl

/-- The characters of numbers and names belong to no operator. -/
theorem not_mem_operatorChars {c : Char} (h : isWordChar c = true ∨ c = '.') :
    c ∉ Text.operatorChars := by
  intro hmem
  have hall : Text.operatorChars.all (fun c => !isWordChar c && c != '.') = true := rfl
  have hc := List.all_eq_true.mp hall c hmem
  rw [Bool.and_eq_true, Bool.not_eq_true', bne_iff_ne] at hc
  rcases h with h | h
  · rw [hc.1] at h
    cases h
  · exact hc.2 h

theorem calm_of_isPlain {text : Text} (h : ∀ c ∈ text, isWordChar c = true ∨ c = '.') : text.Calm :=
  Text.calm_of_plain (fun c hc => isQuote_of_isPlain (h c hc))
    (fun c hc => not_mem_operatorChars (h c hc))

theorem calm_of_blank {blanks : Text} (h : blanks.allBlank = true) : blanks.Calm := by
  have hblank := List.all_eq_true.mp h
  refine Text.calm_of_plain ?_ ?_
  · intro c hc
    by_contra hquote
    rcases isQuote_cases (eq_true_of_ne_false hquote) with rfl | rfl <;>
      exact absurd (hblank _ hc) (by decide)
  · intro c hc hmem
    have hall : Text.operatorChars.all (fun c => !isBlank c) = true := rfl
    have hb := List.all_eq_true.mp hall c hmem
    rw [hblank c hc] at hb
    cases hb

namespace Operand

theorem isPlain_number {whole : Text} {fraction : Option Text} (hwhole : whole.isDigits = true)
    (hfraction : ∀ digits ∈ fraction, Text.isDigits digits = true) :
    ∀ c ∈ (number whole fraction hwhole hfraction).text, isWordChar c = true ∨ c = '.' := by
  intro c hc
  rcases List.mem_append.mp hc with hc | hc
  · exact Or.inl (isWordChar_of_isDigit ((Text.isDigits_iff.mp hwhole).2 c hc))
  · cases fraction with
    | none => exact absurd hc List.not_mem_nil
    | some digits =>
      rcases List.mem_cons.mp hc with rfl | hc
      · exact Or.inr rfl
      · exact Or.inl (isWordChar_of_isDigit ((Text.isDigits_iff.mp (hfraction digits rfl)).2 c hc))

theorem isPlain_name {word : Text} (hword : word.isWord = true) (hdigits : word.isDigits = false) :
    ∀ c ∈ (name word hword hdigits).text, isWordChar c = true ∨ c = '.' :=
  fun c hc => Or.inl ((Text.isWord_iff.mp hword).2 c hc)

theorem text_ne_nil (operand : Operand) : operand.text ≠ [] := by
  cases operand with
  | number whole fraction hwhole hfraction =>
    intro h
    exact (Text.isDigits_iff.mp hwhole).1 (List.append_eq_nil_iff.mp h).1
  | quoted quote inner hquote hinner => exact List.cons_ne_nil _ _
  | name word hword hdigits => exact (Text.isWord_iff.mp hword).1

theorem calm_text (operand : Operand) : operand.text.Calm := by
  cases operand with
  | number whole fraction hwhole hfraction =>
    exact calm_of_isPlain (isPlain_number hwhole hfraction)
  | quoted quote inner hquote hinner => exact Text.calm_quoted hquote hinner
  | name word hword hdigits => exact calm_of_isPlain (isPlain_name hword hdigits)

/-- What an operand may begin and end with. -/
theorem end_cases {operand : Operand} {c : Char}
    (h : operand.text.head? = some c ∨ operand.text.getLast? = some c) :
    isWordChar c = true ∨ c = '.' ∨ isQuote c = true := by
  have hmem : c ∈ operand.text := h.elim List.mem_of_head? List.mem_of_getLast?
  cases operand with
  | number whole fraction hwhole hfraction =>
    exact (isPlain_number hwhole hfraction c hmem).imp_right Or.inl
  | quoted quote inner hquote hinner =>
    have hc : c = quote := by
      rcases h with h | h
      · exact (Option.some.inj h).symm
      · have hlast : (quote :: inner ++ [quote]).getLast? = some quote := List.getLast?_concat
        exact Option.some.inj (h.symm.trans hlast)
    exact Or.inr (Or.inr (hc ▸ hquote))
  | name word hword hdigits => exact (isPlain_name hword hdigits c hmem).imp_right Or.inl

theorem isBlank_end {operand : Operand} {c : Char}
    (h : operand.text.head? = some c ∨ operand.text.getLast? = some c) : isBlank c = false := by
  rcases end_cases h with hc | rfl | hc
  · exact isBlank_of_isWordChar hc
  · decide
  · rcases isQuote_cases hc with rfl | rfl <;> decide

theorem ne_eq_sign_of_head? {operand : Operand} {c : Char} (h : operand.text.head? = some c) :
    c ≠ '=' := by
  rintro rfl
  rcases end_cases (Or.inl h) with hc | hc | hc <;> exact absurd hc (by decide)

theorem trim_text (operand : Operand) : operand.text.trim = operand.text :=
  Text.trim_of_not_isBlank_ends (fun _ h => isBlank_end (Or.inl h))
    (fun _ h => isBlank_end (Or.inr h))

end Operand

/-! ### Literals -/

theorem quotedLiteral?_cons {c : Char} (h : isQuote c = false) (text : Text) :
    quotedLiteral? (c :: text) = none := by
  rw [quotedLiteral?, h, if_neg Bool.false_ne_true]

/-- A number literal has digits and a point only. -/
theorem ofLiteral?_eq_none_of_mem {c : Char} {text : Text} (h : c ∈ text)
    (hdigit : c.isDigit = false) (hpoint : c ≠ '.') : Number.ofLiteral? text = none := by
  have hdigits : ∀ text : Text, c ∈ text → text.isDigits = false := by
    intro text hmem
    by_contra hall
    have hc := (Text.isDigits_iff.mp (Bool.not_eq_false _ ▸ hall)).2 c hmem
    rw [hdigit] at hc
    cases hc
  unfold Number.ofLiteral? Decimal.ofLiteral?
  cases hcut : text.cutAt? '.' with
  | none => simp [hdigits text h]
  | some parts =>
    obtain ⟨whole, fraction⟩ := parts
    obtain ⟨rfl, -⟩ := Text.cutAt?_eq_some_iff.mp hcut
    rcases List.mem_append.mp h with hmem | hmem
    · simp [hdigits whole hmem]
    · rcases List.mem_cons.mp hmem with hc | hmem
      · exact absurd hc hpoint
      · simp [hdigits fraction hmem]

namespace Operand

theorem literal?_number {whole : Text} {fraction : Option Text} (hwhole : whole.isDigits = true)
    (hfraction : ∀ digits ∈ fraction, Text.isDigits digits = true) :
    literal? (number whole fraction hwhole hfraction).text =
      some (.number ((Decimal.ofParts whole (fraction.getD [])).toNumber false)) := by
  have hread : Decimal.ofLiteral? (number whole fraction hwhole hfraction).text =
      some (Decimal.ofParts whole (fraction.getD [])) := by
    cases fraction with
    | none =>
      have htext : (number whole none hwhole hfraction).text = whole := List.append_nil whole
      rw [htext]
      exact Decimal.ofLiteral?_digits hwhole
    | some digits => exact Decimal.ofLiteral?_point hwhole (hfraction digits rfl)
  rw [literal?, Number.ofLiteral?, hread]
  rfl

theorem literal?_quoted {quote : Char} {inner : Text} (hquote : isQuote quote = true)
    (hinner : quote ∉ inner) :
    literal? (quoted quote inner hquote hinner).text = some (.string inner) := by
  have hnumber : Number.ofLiteral? (quoted quote inner hquote hinner).text = none := by
    apply ofLiteral?_eq_none_of_mem (c := quote) List.mem_cons_self
    · rcases isQuote_cases hquote with rfl | rfl <;> decide
    · rintro rfl
      exact absurd hquote (by decide)
  have hquoted : quotedLiteral? (quoted quote inner hquote hinner).text = some inner := by
    show quotedLiteral? (quote :: (inner ++ [quote])) = some inner
    rw [quotedLiteral?, if_pos hquote, Text.stripEnd?_append]
    simp [hinner]
  rw [literal?, hnumber, hquoted]
  rfl

/-- An operand is resolved to its value. -/
theorem resolve_text (table : VariableTable) (operand : Operand) :
    resolve table operand.text = operand.value table := by
  unfold resolve
  simp only [trim_text operand]
  cases operand with
  | number whole fraction hwhole hfraction =>
    rw [literal?_number hwhole hfraction]
    rfl
  | quoted quote inner hquote hinner =>
    rw [literal?_quoted hquote hinner]
    rfl
  | name word hword hdigits =>
    have hliteral : literal? (name word hword hdigits).text = none :=
      (literal?_eq_none_iff hword).mpr hdigits
    rw [hliteral]
    rfl

/-- A literal in quotes ends at its second quote, so an operand with more text after it is none. -/
theorem quotedLiteral?_append (operand : Operand) {more : Text} (hmore : more ≠ []) :
    quotedLiteral? (operand.text ++ more) = none := by
  obtain ⟨first, others, hfirst⟩ := List.exists_cons_of_ne_nil operand.text_ne_nil
  have hmem : first ∈ operand.text := hfirst ▸ List.mem_cons_self
  cases operand with
  | number whole fraction hwhole hfraction =>
    rw [hfirst, List.cons_append]
    exact quotedLiteral?_cons (isQuote_of_isPlain (isPlain_number hwhole hfraction first hmem)) _
  | quoted quote inner hquote hinner =>
    have htext : (quoted quote inner hquote hinner).text ++ more =
        quote :: (inner ++ quote :: more) := by
      show quote :: inner ++ [quote] ++ more = _
      simp
    rw [htext, quotedLiteral?, if_pos hquote]
    cases hstrip : Text.stripEnd? quote (inner ++ quote :: more) with
    | none => rfl
    | some inside =>
      -- the quote that closes the operand is inside the text that would be the literal
      have hlast := congrArg List.dropLast (Text.stripEnd?_eq_some_iff.mp hstrip)
      rw [List.dropLast_concat, List.dropLast_append_of_ne_nil (List.cons_ne_nil _ _),
        List.dropLast_cons_of_ne_nil hmore] at hlast
      have hcontains : inside.contains quote = true := by
        rw [← hlast]
        simp
      exact if_pos hcontains
  | name word hword hdigits =>
    rw [hfirst, List.cons_append]
    exact quotedLiteral?_cons (isQuote_of_isPlain (isPlain_name hword hdigits first hmem)) _

end Operand

theorem literal?_append (operand : Operand) {c : Char} {more : Text} (hc : c ∈ Text.operatorChars)
    (hmem : c ∈ more) :
    literal? (operand.text ++ more) = none := by
  have hall : Text.operatorChars.all (fun c => !c.isDigit && c != '.') = true := rfl
  have hplain := List.all_eq_true.mp hall c hc
  rw [Bool.and_eq_true, Bool.not_eq_true', bne_iff_ne] at hplain
  have hnumber : Number.ofLiteral? (operand.text ++ more) = none :=
    ofLiteral?_eq_none_of_mem (List.mem_append_right _ hmem) hplain.1 hplain.2
  have hquoted := operand.quotedLiteral?_append (List.ne_nil_of_mem hmem)
  rw [literal?, hnumber, hquoted]
  rfl

/-! ### Splitting -/

theorem ofChar?_eq_none {c : Char} (h : c ∉ Text.operatorChars) : Arithmetic.ofChar? c = none := by
  unfold Arithmetic.ofChar?
  split
  case h_5 => rfl
  all_goals exact absurd h (by decide)

section
variable {α : Type} (ops : OperatorFamily α)
  (hchars : ∀ op, ∀ c ∈ ops.symbol op, c ∈ Text.operatorChars)
include hchars

/-- No text can be split inside a calm beginning. -/
theorem utf8Size_le_of_calm {left rest before after : Text} {op : α} (hleft : left.Calm)
    (h : SplitsAt ops.symbol (left ++ rest) before op after) :
    Text.utf8Size left ≤ Text.utf8Size before := by
  rcases List.append_eq_append_iff.mp h.text_eq with ⟨more, hbefore, -⟩ | ⟨inside, hinside, honward⟩
  · rw [hbefore, Text.utf8Size_append]
    exact Nat.le_add_right _ _
  · cases inside with
    | nil => rw [hinside, List.append_nil]
    | cons d inside =>
      -- the first character of the operator would stand outside the quotes of the beginning
      obtain ⟨c, more, hsymbol, hc⟩ := ops.exists_head op
      rw [hsymbol] at honward
      obtain ⟨rfl, -⟩ := List.cons.inj honward
      have hmem : c ∈ left.outside := by
        rw [hinside]
        exact Text.mem_outside h.quotes hc inside
      exact absurd (hchars op c (hsymbol ▸ List.mem_cons_self)) (hleft.plain c hmem)

/-- An operator after a calm text is found, if it is read there and both sides have text. -/
theorem split?_append {left right : Text} {op : α} (hleft : left.Calm) (hl : left.trim ≠ [])
    (hr : right.trim ≠ []) (hread : ops.read? (ops.symbol op ++ right) = some (op, right)) :
    ops.split? (left ++ ops.symbol op ++ right) = some (left.trim, op, right.trim) := by
  have hblank : ∀ side : Text, side.trim ≠ [] → side.allBlank = false := by
    intro side hside
    exact Bool.eq_false_iff.mpr fun hall => hside (Text.trim_eq_nil_iff.mpr hall)
  have hsplits : SplitsAt ops.symbol (left ++ (ops.symbol op ++ right)) left op right :=
    ⟨rfl, Text.quotesClosed_iff.mpr hleft.quotes, (ops.read?_eq_some_iff.mp hread).2,
      hblank left hl, hblank right hr⟩
  rw [List.append_assoc]
  refine OperatorFamily.split?_eq_some_iff.mpr ⟨left, right, ⟨hsplits, ?_⟩, rfl, rfl⟩
  intro before' op' after' hother
  exact utf8Size_le_of_calm ops hchars hleft hother

end

section
variable {left right : Text} (hleft : left.Calm) (hl : left.trim ≠ []) (hr : right.trim ≠ [])

include hleft hl hr in
theorem splitArithmetic?_append (op : Arithmetic) :
    splitArithmetic? (left ++ op.symbol ++ right) = some (left.trim, op, right.trim) := by
  rw [splitArithmetic?_eq]
  apply split?_append OperatorFamily.arithmetic _ hleft hl hr
  · cases op <;> rfl
  · exact fun op => (Operator.arithmetic op).mem_operatorChars

include hleft hl hr in
theorem splitComparison?_append (op : Comparison) (h : ∀ c, right.head? = some c → c ≠ '=') :
    splitComparison? (left ++ op.symbol ++ right) = some (left.trim, op, right.trim) := by
  rw [splitComparison?_eq]
  apply split?_append OperatorFamily.comparison _ hleft hl hr
  · exact read?_symbol op h
  · exact fun op => (Operator.comparison op).mem_operatorChars

include hleft in
/-- A comparison between calm texts is not taken for arithmetic. -/
theorem splitArithmetic?_append_comparison (hright : right.Calm) (op : Comparison) :
    splitArithmetic? (left ++ op.symbol ++ right) = none := by
  have hquotes : Text.quoteAfter op.symbol = none := by cases op <;> rfl
  have hsymbol : (Text.outside op.symbol).all (fun c => (Arithmetic.ofChar? c).isNone) = true := by
    cases op <;> rfl
  have houtside : ∀ c ∈ Text.outside (left ++ op.symbol ++ right), Arithmetic.ofChar? c = none := by
    intro c hc
    rw [List.append_assoc, Text.outside_append_of_closed hleft.quotes, List.mem_append,
      Text.outside_append_of_closed hquotes, List.mem_append] at hc
    rcases hc with hc | hc | hc
    · exact ofChar?_eq_none (hleft.plain c hc)
    · exact Option.isNone_iff_eq_none.mp (List.all_eq_true.mp hsymbol c hc)
    · exact ofChar?_eq_none (hright.plain c hc)
  rw [← Option.not_isSome_iff_eq_none]
  intro hsome
  -- an arithmetic operator would stand outside quotes
  obtain ⟨before, op', after, hsplits⟩ := (splitsLeftmost_arithmetic _).isSome_iff.mp hsome
  obtain ⟨c, hsymbol', hc⟩ : ∃ c, op'.symbol = [c] ∧ isQuote c = false := by
    cases op' <;> exact ⟨_, rfl, rfl⟩
  have hmem : c ∈ Text.outside (left ++ op.symbol ++ right) := by
    rw [hsplits.text_eq, hsymbol']
    exact Text.mem_outside hsplits.quotes hc after
  have hread := houtside c hmem
  rw [ofChar?_eq_some_iff.mpr hsymbol'] at hread
  cases hread

end

/-! ### Evaluation -/

section
variable {text left right : Text} (hliteral : literal? text.trim = none)
  (hword : text.trim.isWord = false)
include hliteral hword

/-- What is neither a literal nor a word is no keyword. -/
theorem literal?_orElse_keyword? : (literal? text.trim <|> keyword? text.trim) = none := by
  have hkeyword : keyword? text.trim = none := by
    rw [keyword?_eq_none_iff]
    intro hmem
    have hall : reserved.all Text.isWord = true := by decide
    have hreserved := List.all_eq_true.mp hall _ hmem
    rw [hword] at hreserved
    cases hreserved
  rw [hliteral, hkeyword]
  rfl

theorem evaluate_of_splitArithmetic? {op : Arithmetic}
    (h : splitArithmetic? text.trim = some (left, op, right)) (table : VariableTable) (line : Nat) :
    evaluate table line text = .ok (op.apply (resolve table left) (resolve table right)) := by
  simp only [evaluate, literal?_orElse_keyword? hliteral hword, hword, h,
    Bool.false_eq_true, if_false]

theorem evaluate_of_splitComparison? {op : Comparison} (hnone : splitArithmetic? text.trim = none)
    (h : splitComparison? text.trim = some (left, op, right)) (table : VariableTable) (line : Nat) :
    evaluate table line text =
      .ok (.boolean (op.holds (resolve table left) (resolve table right))) := by
  simp only [evaluate, literal?_orElse_keyword? hliteral hword, hword, hnone, h,
    Bool.false_eq_true, if_false]

end

/-- The blanks around two operands are taken away, and nothing between them. -/
theorem trim_around (left right : Operand) (middle : Text) {before after : Text}
    (hbefore : before.allBlank = true) (hafter : after.allBlank = true) :
    (before ++ (left.text ++ middle ++ right.text) ++ after).trim =
      left.text ++ middle ++ right.text := by
  rw [Text.trim_append_blank hafter, Text.trim_blank_append hbefore]
  apply Text.trim_of_not_isBlank_ends
  · intro c hc
    rw [List.append_assoc, List.head?_append_of_ne_nil _ left.text_ne_nil] at hc
    exact Operand.isBlank_end (Or.inl hc)
  · intro c hc
    rw [List.getLast?_append_of_ne_nil _ right.text_ne_nil] at hc
    exact Operand.isBlank_end (Or.inr hc)

/-- What follows an operator begins with a blank or with the operand. -/
theorem head?_gap_ne {operand : Operand} {gap : Text} (hgap : gap.allBlank = true) :
    ∀ c, (gap ++ operand.text).head? = some c → c ≠ '=' := by
  intro c hc
  cases gap with
  | nil => exact Operand.ne_eq_sign_of_head? hc
  | cons d gap =>
    rintro rfl
    cases hc
    exact absurd (List.all_eq_true.mp hgap _ List.mem_cons_self) (by decide)

/-- Two operands with an operator between them, and any blanks around the three, have the value that
    the operator gives for the values of the operands. -/
theorem operator_applied_to_operands (table : VariableTable) (line : Nat) (left right : Operand)
    (op : Operator) {before gap gap' after : Text} (hbefore : before.allBlank = true)
    (hgap : gap.allBlank = true) (hgap' : gap'.allBlank = true) (hafter : after.allBlank = true) :
    evaluate table line (before ++ left.text ++ gap ++ op.symbol ++ gap' ++ right.text ++ after) =
      .ok (op.apply (left.value table) (right.value table)) := by
  have htrim : (before ++ left.text ++ gap ++ op.symbol ++ gap' ++ right.text ++ after).trim =
      left.text ++ gap ++ op.symbol ++ (gap' ++ right.text) := by
    have h := trim_around left right (gap ++ op.symbol ++ gap') hbefore hafter
    simp only [List.append_assoc] at h ⊢
    exact h
  -- a character of the operator, which no word has, and no literal after an operand
  obtain ⟨c, hsymbol, hc⟩ := op.exists_mem_symbol
  have hmem : c ∈ gap ++ (op.symbol ++ (gap' ++ right.text)) :=
    List.mem_append_right _ (List.mem_append_left _ hsymbol)
  have hliteral : literal? (left.text ++ gap ++ op.symbol ++ (gap' ++ right.text)) = none := by
    rw [List.append_assoc, List.append_assoc]
    exact literal?_append left hc hmem
  have hword : Text.isWord (left.text ++ gap ++ op.symbol ++ (gap' ++ right.text)) = false := by
    rw [← Bool.not_eq_true, List.append_assoc, List.append_assoc]
    intro h
    have hplain := (Text.isWord_iff.mp h).2 c (List.mem_append_right _ hmem)
    exact not_mem_operatorChars (Or.inl hplain) hc
  -- both sides are calm, and are trimmed to the operands
  have hleft : (left.text ++ gap).Calm := left.calm_text.append (calm_of_blank hgap)
  have hright : (gap' ++ right.text).Calm := (calm_of_blank hgap').append right.calm_text
  have hl : (left.text ++ gap).trim = left.text :=
    (Text.trim_append_blank hgap _).trans left.trim_text
  have hr : (gap' ++ right.text).trim = right.text :=
    (Text.trim_blank_append hgap' _).trans right.trim_text
  have hlne : (left.text ++ gap).trim ≠ [] := by
    rw [hl]
    exact left.text_ne_nil
  have hrne : (gap' ++ right.text).trim ≠ [] := by
    rw [hr]
    exact right.text_ne_nil
  rw [← htrim] at hliteral hword
  cases op with
  | arithmetic op =>
    have hsplit := splitArithmetic?_append hleft hlne hrne op
    rw [hl, hr] at hsplit
    rw [evaluate_of_splitArithmetic? hliteral hword (htrim ▸ hsplit), left.resolve_text,
      right.resolve_text]
    rfl
  | comparison op =>
    have hnone := splitArithmetic?_append_comparison hleft hright op
    have hsplit := splitComparison?_append hleft hlne hrne op (head?_gap_ne hgap')
    rw [hl, hr] at hsplit
    rw [evaluate_of_splitComparison? hliteral hword (htrim ▸ hnone) (htrim ▸ hsplit),
      left.resolve_text, right.resolve_text]
    rfl

/-- Two literals in the same quotes, with operators, a comma, a parenthesis and the other quote
    inside. -/
theorem operator_applied_to_operands_same_quotes :
    evaluate .empty 1 " '1 - 2, \"' + '(a <= b' " = .ok (.string "1 - 2, \"(a <= b") := by
  let left : Operand := .quoted '\'' "1 - 2, \"" rfl (by decide)
  let right : Operand := .quoted '\'' "(a <= b" rfl (by decide)
  let op : Operator := .arithmetic .add
  have hblank : Text.allBlank [' '] = true := by decide
  have htext : (" '1 - 2, \"' + '(a <= b' " : Text) =
      [' '] ++ left.text ++ [' '] ++ op.symbol ++ [' '] ++ right.text ++ [' '] := by decide +kernel
  have hvalue : op.apply (left.value .empty) (right.value .empty) = .string "1 - 2, \"(a <= b" := by
    decide +kernel
  rw [htext, operator_applied_to_operands .empty 1 left right op hblank hblank hblank hblank,
    hvalue]

end Expression
end Stepwise
