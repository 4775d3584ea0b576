import Mathlib.Data.List.Nodup
import Stepwise.Proofs.Run
import Stepwise.Proofs.Splitting

/-!
# Reading variables back

A variable is written under any text that stands before `=` or between the commas of a header, but
an expression is looked up in the table only when it is a name: a word that is neither a number nor
one of four reserved words.

- `evaluate_of_isName`: a name is looked up,
- `evaluate_assign_of_not_isName`: a variable that has another text as its name has no influence on
  the value of that text, since the operands around an operator are shorter than the whole,
- `names_read_back`: so in every snapshot the variables with names are those that can be read back.
-/

namespace Stepwise
namespace Expression

/-! ### Names -/

/-- The words with a meaning of their own. -/
def reserved : List Text := ["true", "false", "null", "undefined"]

/-- A name: a word that is not a run of digits and not reserved. -/
def isName (text : Text) : Bool := text.isWord && !text.isDigits && !reserved.contains text

theorem keyword?_eq_none_iff {text : Text} : keyword? text = none ↔ text ∉ reserved := by
  unfold keyword? reserved
  constructor
  · intro h hmem
    simp only [List.mem_cons, List.not_mem_nil, or_false] at hmem
    rcases hmem with rfl | rfl | rfl | rfl <;> cases h
  · intro h
    simp only [List.mem_cons, List.not_mem_nil, or_false, not_or] at h
    obtain ⟨h₁, h₂, h₃, h₄⟩ := h
    rw [if_neg h₁, if_neg h₂, if_neg h₃, if_neg h₄]

/-- A word is a literal only as a run of digits. -/
theorem literal?_eq_none_iff {text : Text} (h : text.isWord = true) :
    literal? text = none ↔ text.isDigits = false := by
  simp only [Text.isWord, Bool.and_eq_true, List.all_eq_true] at h
  obtain ⟨_, hall⟩ := h
  have hpoint : '.' ∉ text := fun hmem => absurd (hall '.' hmem) (by decide)
  have hquoted : quotedLiteral? text = none := by
    cases text with
    | nil => rfl
    | cons c rest =>
      simp [quotedLiteral?, isQuote_of_isWordChar (hall c List.mem_cons_self)]
  cases hdigits : text.isDigits <;>
    simp [literal?, Number.ofLiteral?, Decimal.ofLiteral?, Text.cutAt?_eq_none hpoint,
      hdigits, hquoted]

/-- Names are the words without a value of their own. -/
theorem isName_iff {text : Text} :
    isName text = true ↔ text.isWord = true ∧ (literal? text <|> keyword? text) = none := by
  simp only [isName, Bool.and_eq_true, Bool.not_eq_true', List.contains_eq_mem,
    decide_eq_false_iff_not, Option.orElse_eq_orElse, Option.orElse_eq_or, Option.or_eq_none_iff,
    keyword?_eq_none_iff, and_assoc]
  constructor
  · rintro ⟨hword, hdigits, hreserved⟩
    exact ⟨hword, (literal?_eq_none_iff hword).mpr hdigits, hreserved⟩
  · rintro ⟨hword, hliteral, hreserved⟩
    exact ⟨hword, (literal?_eq_none_iff hword).mp hliteral, hreserved⟩

/-- A name is looked up. -/
theorem evaluate_of_isName {name : Text} (h : isName name = true) {table : VariableTable}
    {value : Value} (hget : table.get? name = some value) (line : Nat) :
    evaluate table line name = .ok value := by
  obtain ⟨hword, hvalue⟩ := isName_iff.mp h
  simp only [evaluate, Text.trim_of_isWord hword, hvalue, hword, if_true, hget]

/-! ### Other texts -/

/-- The operands of an arithmetic operator are shorter than the whole. -/
theorem length_of_splitArithmetic? {text left right : Text} {op : Arithmetic}
    (h : splitArithmetic? text = some (left, op, right)) :
    left.length < text.length ∧ right.length < text.length := by
  obtain ⟨before, after, hsplits, hleft, hright⟩ :=
    (splitsLeftmost_arithmetic text).eq_some_iff.mp h
  rw [hleft, hright]
  exact hsplits.length_operands

/-- The operands of a comparison are shorter than the whole. -/
theorem length_of_splitComparison? {text left right : Text} {op : Comparison}
    (h : splitComparison? text = some (left, op, right)) :
    left.length < text.length ∧ right.length < text.length := by
  obtain ⟨before, after, hsplits, hleft, hright⟩ :=
    (splitsLeftmost_comparison text).eq_some_iff.mp h
  rw [hleft, hright]
  exact hsplits.length_operands

/-- An operand is not a variable whose name is longer. -/
theorem resolve_assign_of_length_lt {table : VariableTable} {name operand : Text} {value : Value}
    (h : operand.length < name.length) :
    resolve (table.assign name value) operand = resolve table operand := by
  have hne : name ≠ operand.trim := by
    rintro rfl
    have := Text.length_trim_le operand
    omega
  simp only [resolve, VariableTable.get?_assign, if_neg hne]

/-- The value of a text that is no name does not depend on a variable that has it as its name. -/
theorem evaluate_assign_of_not_isName {name : Text} (h : isName name = false)
    (table : VariableTable) (line : Nat) (value : Value) :
    evaluate (table.assign name value) line name = evaluate table line name := by
  have hlength := Text.length_trim_le name
  simp only [evaluate]
  cases hliteral : literal? name.trim <|> keyword? name.trim with
  | some value' => rfl
  | none =>
    by_cases hword : name.trim.isWord = true
    · -- a word without a meaning of its own is a name, so that it is another one
      have hne : name ≠ name.trim := by
        intro heq
        rw [← heq] at hword hliteral
        rw [isName_iff.mpr ⟨hword, hliteral⟩] at h
        cases h
      rw [if_pos hword, if_pos hword, VariableTable.get?_assign, if_neg hne]
    · -- only operands are looked up, and they are shorter than the text
      rw [if_neg hword, if_neg hword]
      cases harithmetic : splitArithmetic? name.trim with
      | some parts =>
        obtain ⟨left, op, right⟩ := parts
        obtain ⟨hleft, hright⟩ := length_of_splitArithmetic? harithmetic
        simp only [resolve_assign_of_length_lt (Nat.lt_of_lt_of_le hleft hlength),
          resolve_assign_of_length_lt (Nat.lt_of_lt_of_le hright hlength)]
      | none =>
        cases hcomparison : splitComparison? name.trim with
        | some parts =>
          obtain ⟨left, op, right⟩ := parts
          obtain ⟨hleft, hright⟩ := length_of_splitComparison? hcomparison
          simp only [resolve_assign_of_length_lt (Nat.lt_of_lt_of_le hleft hlength),
            resolve_assign_of_length_lt (Nat.lt_of_lt_of_le hright hlength)]
        | none => rfl

end Expression

/-! ### Snapshots -/

/-- Every snapshot of a history is that of a step. -/
theorem History.exists_get_of_mem {h : History} {s : Snapshot} (hs : s ∈ h.snapshots) :
    ∃ k : Nat, k ≤ h.totalSteps ∧ s = h.get k := by
  obtain ⟨k, hk, hget⟩ := List.mem_iff_getElem.mp hs
  have hle : k ≤ h.totalSteps := by
    unfold totalSteps
    omega
  have hsnapshot := h.getElem?_snapshots hle
  rw [List.getElem?_eq_getElem hk, hget] at hsnapshot
  exact ⟨k, hle, Option.some.inj hsnapshot⟩

namespace Recording

variable {settings : Settings} {clock : Nat → Instant} {source : Text}

/-- The table that holds the variables of a snapshot gives every variable its value. -/
theorem get?_ofSnapshot {s : Snapshot} (hs : s ∈ (historyOf settings clock source).snapshots)
    {v : Variable} (hv : v ∈ s.bindings) :
    (RunState.ofSnapshot s).bindings.get? v.name = some v.value := by
  obtain ⟨k, hk, rfl⟩ := History.exists_get_of_mem hs
  cases hbuild : DeclarationTable.ofListing (.ofText source) with
  | error fault =>
    -- a rejected script has no variables
    cases k with
    | zero => cases hv
    | succ k =>
      rw [(get_of_rejected hbuild hk).2] at hv
      cases hv
  | ok table =>
    obtain ⟨hshows, hd⟩ := shows_get hbuild hk
    obtain ⟨changes, hbindings⟩ := hshows.bindings
    rw [hbindings] at hv
    exact VariableTable.get?_of_mem_view hd hv

/-- Every variable of a snapshot that has a name can be read back: evaluating the name gives the
    value. A variable under any other text (a number, a reserved word, or a parameter that is no
    word) cannot: evaluating the text gives the same result whatever value the variable has. -/
theorem names_read_back (settings : Settings) (clock : Nat → Instant) (source : Text) {s : Snapshot}
    (hs : s ∈ (ofSource settings clock source).history.snapshots) {v : Variable}
    (hv : v ∈ s.bindings) (line : Nat) :
    let table := (RunState.ofSnapshot s).bindings
    (Expression.isName v.name = true → Expression.evaluate table line v.name = .ok v.value) ∧
    (Expression.isName v.name = false → ∀ value,
      Expression.evaluate (table.assign v.name value) line v.name =
        Expression.evaluate table line v.name) := by
  intro table
  have hget : table.get? v.name = some v.value := get?_ofSnapshot hs hv
  refine ⟨?_, ?_⟩
  · intro hname
    exact Expression.evaluate_of_isName hname hget line
  · intro hname value
    exact Expression.evaluate_assign_of_not_isName hname table line value

/-- A parameter with a digit in its name is read back. -/
theorem names_read_back_parameter :
    let source : Text := "function f(x1) \x7b\n\x7d\nf(true)"
    let s := (ofSource .default (fun _ => .epoch) source).history.last
    let v : Variable := ⟨"x1", .boolean true, .boolean, "f", true, false⟩
    s ∈ (ofSource .default (fun _ => .epoch) source).history.snapshots ∧ v ∈ s.bindings ∧
      Expression.isName v.name = true ∧
      Expression.evaluate (RunState.ofSnapshot s).bindings 7 v.name = .ok v.value := by
  intro source s v
  have hs : s ∈ (ofSource .default (fun _ => .epoch) source).history.snapshots := List.get_mem _ _
  have hbindings : s.bindings = [v] := by decide +kernel
  have hv : v ∈ s.bindings := by
    rw [hbindings]
    exact List.mem_singleton_self v
  have hname : Expression.isName v.name = true := by decide +kernel
  exact ⟨hs, hv, hname, (names_read_back .default (fun _ => .epoch) source hs hv 7).1 hname⟩

/-- A number, a reserved word and a parameter that is no word cannot be read back. -/
theorem other_texts_not_read_back :
    let source : Text := "function f(a b) \x7b\n\x7d\n1 = true\ntrue = 2\nf(3)"
    let s := (ofSource .default (fun _ => .epoch) source).history.last
    s.bindings.map Variable.name = ["1".toList, "true".toList, "a b".toList] ∧ ∀ v ∈ s.bindings,
      Expression.evaluate (RunState.ofSnapshot s).bindings 1 v.name ≠ .ok v.value := by
  decide +kernel

end Recording
end Stepwise
