import Mathlib.Data.List.Basic
import Stepwise.Proofs.Execution
import Stepwise.Proofs.Splitting

/-!
# Parts of texts

All reading of a line is cutting: names, parameters, arguments, expressions, operands and the
insides of literals are parts of the line, that is, runs of its characters without gaps. Nothing is
put together anew, so what does not occur in a line does not occur in anything that is read from it.

- `infix_trim`, `infix_of_cutAt?`, `infix_of_callShape?` and the like: what a cut of a text gives,
- `Divides`: the pieces between separators, found by `splitOn` and by `topLevelPieces`,
- `infix_of_splitArithmetic?` and `infix_of_splitComparison?`: the operands of an expression,
- `infix_of_mem_texts`: the texts of a statement, and `infix_of_header`: those of a header.
-/

namespace Stepwise

namespace Text

variable {text : Text}

/-! ### Cuts -/

/-- A cut takes the separator away, which does not occur before. -/
theorem cutAt?_eq_some {sep : Char} {before after : Text}
    (h : text.cutAt? sep = some (before, after)) :
    text = before ++ sep :: after ∧ sep ∉ before := by
  induction text generalizing before with
  | nil => cases h
  | cons c rest ih =>
    unfold cutAt? at h
    by_cases hc : c = sep
    · rw [if_pos hc] at h
      cases h
      exact ⟨by rw [hc, List.nil_append], List.not_mem_nil⟩
    · rw [if_neg hc] at h
      obtain ⟨⟨before', after'⟩, hcut, heq⟩ := Option.map_eq_some_iff.mp h
      cases heq
      obtain ⟨rfl, hbefore⟩ := ih hcut
      exact ⟨rfl, by simp [Ne.symm hc, hbefore]⟩

theorem infix_of_cutAt? {sep : Char} {before after : Text}
    (h : text.cutAt? sep = some (before, after)) :
    before <:+: text ∧ after <:+: text := by
  obtain ⟨rfl, _⟩ := cutAt?_eq_some h
  exact ⟨(List.prefix_append _ _).isInfix,
    (List.suffix_append_of_suffix (List.suffix_cons _ _)).isInfix⟩

theorem infix_of_stripStart? {start rest : Text} (h : stripStart? start text = some rest) :
    rest <:+: text := by
  rw [← List.isPrefixOf?_eq_some_iff_append_eq.mp h]
  exact (List.suffix_append _ _).isInfix

theorem infix_of_stripEnd? {last : Char} {inner : Text} (h : stripEnd? last text = some inner) :
    inner <:+: text := by
  unfold stripEnd? at h
  split at h
  · cases h
    exact (List.dropLast_prefix _).isInfix
  · cases h

theorem infix_dropEnd (last : Char) (text : Text) : text.dropEnd last <:+: text := by
  unfold dropEnd
  cases h : text.stripEnd? last with
  | none => exact List.infix_refl _
  | some inner => exact infix_of_stripEnd? h

theorem infix_of_openParen? {rest : Text} (h : openParen? text = some rest) : rest <:+: text :=
  (infix_of_stripStart? h).trans (suffix_trimStart text).isInfix

/-- The name and the arguments of a call are parts of the line. -/
theorem infix_of_callShape? {name arguments : Text} (h : text.callShape? = some (name, arguments)) :
    name <:+: text ∧ arguments <:+: text := by
  unfold callShape? at h
  simp only at h
  split at h
  · cases h
  · obtain ⟨inner, hinner, h⟩ := Option.bind_eq_some_iff.mp h
    obtain ⟨arguments', harguments, h⟩ := Option.bind_eq_some_iff.mp h
    cases h
    refine ⟨(List.takeWhile_prefix _).isInfix, ?_⟩
    exact (infix_of_stripEnd? harguments).trans
      ((infix_of_openParen? hinner).trans (List.dropWhile_suffix _).isInfix)

/-- The text between the parentheses of a group is a part of the line. -/
theorem infix_of_groupShape? {keyword inner : Text} (h : groupShape? keyword text = some inner) :
    inner <:+: text := by
  unfold groupShape? at h
  obtain ⟨rest, hrest, h⟩ := Option.bind_eq_some_iff.mp h
  obtain ⟨opened, hopened, h⟩ := Option.bind_eq_some_iff.mp h
  obtain ⟨inner', hinner, h⟩ := Option.bind_eq_some_iff.mp h
  split at h
  · cases h
  · cases h
    have hwhole : opened <:+: text :=
      (infix_of_openParen? hopened).trans (infix_of_stripStart? hrest)
    -- a brace at the end is taken away, and the blanks before it
    split at hinner
    · rename_i head hhead
      exact (infix_of_stripEnd? hinner).trans
        ((prefix_trimEnd head).isInfix.trans ((infix_of_stripEnd? hhead).trans hwhole))
    · exact (infix_of_stripEnd? hinner).trans hwhole

/-! ### Pieces between separators -/

/-- The first of the pieces is a beginning of the text, and the others are parts of it. -/
def Divides (pieces : List Text) (text : Text) : Prop :=
  ∃ first others, pieces = first :: others ∧ first <+: text ∧ ∀ piece ∈ others, piece <:+: text

namespace Divides

variable {pieces : List Text}

theorem nil : Divides [[]] [] := ⟨[], [], rfl, List.nil_prefix, by simp⟩

/-- A separator ends the piece before it. -/
theorem separator (h : Divides pieces text) (c : Char) : Divides ([] :: pieces) (c :: text) := by
  obtain ⟨first, others, rfl, hfirst, hothers⟩ := h
  refine ⟨[], first :: others, rfl, List.nil_prefix, ?_⟩
  intro piece hpiece
  rcases List.mem_cons.mp hpiece with rfl | hpiece
  · exact List.infix_cons hfirst.isInfix
  · exact List.infix_cons (hothers piece hpiece)

/-- Any other character belongs to the first piece. -/
theorem character (h : Divides pieces text) (c : Char) :
    Divides (pieces.modifyHead (c :: ·)) (c :: text) := by
  obtain ⟨first, others, rfl, hfirst, hothers⟩ := h
  exact ⟨c :: first, others, rfl, List.cons_prefix_cons.mpr ⟨rfl, hfirst⟩,
    fun piece hpiece => List.infix_cons (hothers piece hpiece)⟩

theorem infix_of_mem (h : Divides pieces text) {piece : Text} (hpiece : piece ∈ pieces) :
    piece <:+: text := by
  obtain ⟨first, others, rfl, hfirst, hothers⟩ := h
  rcases List.mem_cons.mp hpiece with rfl | hpiece
  · exact hfirst.isInfix
  · exact hothers piece hpiece

end Divides

theorem divides_splitOn (sep : Char) (text : Text) : Divides (text.splitOn sep) text := by
  induction text with
  | nil =>
    rw [List.splitOn_nil]
    exact .nil
  | cons c rest ih =>
    rw [List.splitOn_cons_eq_if_modifyHead]
    split
    · exact ih.separator c
    · exact ih.character c

theorem divides_topLevelPieces (text : Text) : Divides text.topLevelPieces text := by
  have hfrom : ∀ quote depth, Divides (topLevelPiecesFrom quote depth text) text := by
    induction text with
    | nil => exact fun _ _ => .nil
    | cons c rest ih =>
      intro quote depth
      unfold topLevelPiecesFrom
      split
      · split
        · exact (ih none 0).separator c
        · exact (ih none _).character c
      · exact (ih _ _).character c
  exact hfrom none 0

theorem infix_of_mem_splitOn {sep : Char} {piece : Text} (h : piece ∈ text.splitOn sep) :
    piece <:+: text :=
  (divides_splitOn sep text).infix_of_mem h

/-- No piece contains the separator. -/
theorem not_mem_of_mem_splitOn {sep : Char} {piece : Text} (h : piece ∈ text.splitOn sep) :
    sep ∉ piece := by
  induction text generalizing piece with
  | nil =>
    rw [List.splitOn_nil, List.mem_singleton] at h
    rw [h]
    exact List.not_mem_nil
  | cons c rest ih =>
    rw [List.splitOn_cons_eq_if_modifyHead] at h
    split at h
    · rcases List.mem_cons.mp h with rfl | h
      · exact List.not_mem_nil
      · exact ih h
    · rename_i hc
      have hne : sep ≠ c := by
        rintro rfl
        exact hc (beq_self_eq_true sep)
      obtain ⟨first, others, hpieces⟩ := List.exists_cons_of_ne_nil (List.splitOn_ne_nil sep rest)
      rw [hpieces] at h ih
      rcases List.mem_cons.mp h with rfl | h
      · simp [hne, ih List.mem_cons_self]
      · exact ih (List.mem_cons_of_mem _ h)

end Text

/-! ### Expressions -/

namespace Expression

variable {text left right : Text}

theorem infix_of_splitArithmetic? {op : Arithmetic}
    (h : splitArithmetic? text = some (left, op, right)) :
    left <:+: text ∧ right <:+: text := by
  obtain ⟨before, after, hsplits, hleft, hright⟩ :=
    (splitsLeftmost_arithmetic text).eq_some_iff.mp h
  rw [hleft, hright]
  exact hsplits.infix_operands

theorem infix_of_splitComparison? {op : Comparison}
    (h : splitComparison? text = some (left, op, right)) :
    left <:+: text ∧ right <:+: text := by
  obtain ⟨before, after, hsplits, hleft, hright⟩ :=
    (splitsLeftmost_comparison text).eq_some_iff.mp h
  rw [hleft, hright]
  exact hsplits.infix_operands

theorem infix_of_quotedLiteral? {inner : Text} (h : quotedLiteral? text = some inner) :
    inner <:+: text := by
  unfold quotedLiteral? at h
  split at h
  · cases h
  · split at h
    · split at h
      · rename_i hstrip
        split at h
        · cases h
        · cases h
          exact List.infix_cons (Text.infix_of_stripEnd? hstrip)
      · cases h
    · cases h

end Expression

/-! ### Statements and headers -/

namespace Statement

theorem infix_of_nonBlank? {text right : Text} (h : nonBlank? text = some right) :
    right <:+: text := by
  simp only [nonBlank?] at h
  split at h
  · cases h
  · cases h
    exact Text.infix_trim text

section shapes
variable {line : Text} {statement : Statement}

/-- All texts of the statement are parts of the line. -/
def CutFrom (statement : Statement) (line : Text) : Prop := ∀ text ∈ statement.texts, text <:+: line

theorem cutFrom_assignment? (h : assignment? line = some statement) : statement.CutFrom line := by
  obtain ⟨⟨name, right⟩, hparts, rfl⟩ := Option.map_eq_some_iff.mp h
  obtain ⟨⟨before, after⟩, hcut, hparts⟩ := Option.bind_eq_some_iff.mp hparts
  obtain ⟨hbefore, hafter⟩ := Text.infix_of_cutAt? hcut
  simp only at hparts
  split at hparts
  · cases hparts
  · obtain ⟨right', hright, hparts⟩ := Option.bind_eq_some_iff.mp hparts
    cases hparts
    intro text htext
    simp only [texts, List.mem_cons, List.not_mem_nil, or_false] at htext
    rcases htext with rfl | rfl
    · exact (Text.prefix_trimEnd before).isInfix.trans hbefore
    · exact (infix_of_nonBlank? hright).trans hafter

theorem cutFrom_nestedOutput? (h : nestedOutput? line = some statement) :
    statement.CutFrom line := by
  obtain ⟨⟨name, arguments⟩, hshape, h⟩ := Option.bind_eq_some_iff.mp h
  simp only at h
  split at h
  · obtain ⟨expression, hexpression, rfl⟩ := Option.map_eq_some_iff.mp h
    obtain ⟨inner, hinner, hexpression⟩ := Option.bind_eq_some_iff.mp hexpression
    intro text htext
    rw [texts, List.mem_singleton] at htext
    rw [htext]
    exact (infix_of_nonBlank? hexpression).trans ((Text.infix_dropEnd _ _).trans
      ((Text.infix_of_stripStart? hinner).trans (Text.infix_of_callShape? hshape).2))
  · cases h

theorem cutFrom_call? {table : DeclarationTable} (h : call? table line = some statement) :
    statement.CutFrom line := by
  obtain ⟨⟨name, arguments⟩, hshape, h⟩ := Option.bind_eq_some_iff.mp h
  obtain ⟨hname, harguments⟩ := Text.infix_of_callShape? hshape
  simp only at h
  split at h
  · cases h
    intro text htext
    rcases List.mem_cons.mp htext with rfl | htext
    · exact hname
    · unfold splitArguments at htext
      split at htext
      · cases htext
      · obtain ⟨piece, hpiece, rfl⟩ := List.mem_map.mp htext
        exact (Text.infix_trim piece).trans
          (((Text.divides_topLevelPieces arguments).infix_of_mem hpiece).trans harguments)
  · cases h

theorem cutFrom_dottedOutput? (h : dottedOutput? line = some statement) :
    statement.CutFrom line := by
  obtain ⟨expression, hexpression, rfl⟩ := Option.map_eq_some_iff.mp h
  obtain ⟨rest, hrest, hexpression⟩ := Option.bind_eq_some_iff.mp hexpression
  obtain ⟨inner, hinner, hexpression⟩ := Option.bind_eq_some_iff.mp hexpression
  intro text htext
  rw [texts, List.mem_singleton] at htext
  rw [htext]
  exact (infix_of_nonBlank? hexpression).trans
    ((Text.infix_of_stripEnd? hinner).trans (Text.infix_of_stripStart? hrest))

theorem cutFrom_condition? (h : condition? line = some statement) : statement.CutFrom line := by
  obtain ⟨inner, hinner, rfl⟩ := Option.map_eq_some_iff.mp h
  intro text htext
  rw [texts, List.mem_singleton] at htext
  rw [htext]
  exact (Text.infix_trim inner).trans (Text.infix_of_groupShape? hinner)

theorem cutFrom_loop? (h : loop? line = some statement) : statement.CutFrom line := by
  obtain ⟨inner, hinner, rfl⟩ := Option.map_eq_some_iff.mp h
  intro text htext
  rw [texts, List.mem_singleton] at htext
  rw [htext]
  exact (Text.infix_trim inner).trans (Text.infix_of_groupShape? hinner)

end shapes

/-- The texts of a statement are parts of its line, whichever shape the line has. -/
theorem infix_of_mem_texts {table : DeclarationTable} {line text : Text}
    (h : text ∈ (ofLine table line).texts) : text <:+: line := by
  have hshape : (ofLine table line).CutFrom line := by
    simp only [ofLine, Option.orElse_eq_orElse, Option.orElse_eq_or]
    cases hassignment : assignment? line with
    | some statement => exact cutFrom_assignment? hassignment
    | none =>
      cases hnested : nestedOutput? line with
      | some statement => exact cutFrom_nestedOutput? hnested
      | none =>
        cases hcall : call? table line with
        | some statement => exact cutFrom_call? hcall
        | none =>
          cases hdotted : dottedOutput? line with
          | some statement => exact cutFrom_dottedOutput? hdotted
          | none =>
            cases hcondition : condition? line with
            | some statement => exact cutFrom_condition? hcondition
            | none =>
              cases hloop : loop? line with
              | some statement => exact cutFrom_loop? hloop
              | none =>
                -- a line without any other shape is a plain expression
                intro text htext
                obtain rfl : text = line := List.mem_singleton.mp htext
                exact List.infix_refl text
  exact hshape text h

end Statement

/-- The name and the parameters of a header are parts of its line. -/
theorem Header.infix_of_header {line : Text} {header : Header} (h : ofLine? line = some header) :
    header.name <:+: line ∧ ∀ parameter ∈ header.parameters, parameter <:+: line := by
  obtain ⟨rest, hrest, h⟩ := Option.bind_eq_some_iff.mp h
  obtain ⟨first, hfirst, h⟩ := Option.bind_eq_some_iff.mp h
  have hwhole := Text.infix_of_stripStart? hrest
  have hspan : ∀ part, part <:+: rest.trimStart → part <:+: line := fun part hpart =>
    hpart.trans ((Text.suffix_trimStart rest).isInfix.trans hwhole)
  split at h
  · cases h
  · have hword : rest.trimStart.spanWord =
        (rest.trimStart.takeWhile isWordChar, rest.trimStart.dropWhile isWordChar) := rfl
    rw [hword] at h
    simp only at h
    split at h
    · cases h
    · obtain ⟨opened, hopened, h⟩ := Option.bind_eq_some_iff.mp h
      obtain ⟨⟨parameters, after⟩, hcut, h⟩ := Option.bind_eq_some_iff.mp h
      obtain ⟨opensBody, hopens, h⟩ := Option.bind_eq_some_iff.mp h
      cases h
      refine ⟨hspan _ (List.takeWhile_prefix _).isInfix, ?_⟩
      intro parameter hparameter
      obtain ⟨hmem, _⟩ := List.mem_filter.mp hparameter
      obtain ⟨piece, hpiece, rfl⟩ := List.mem_map.mp hmem
      refine (Text.infix_trim piece).trans ((Text.infix_of_mem_splitOn hpiece).trans
        ((Text.infix_of_cutAt? hcut).1.trans ((Text.infix_of_openParen? hopened).trans
          (hspan _ (List.dropWhile_suffix _).isInfix))))

end Stepwise
