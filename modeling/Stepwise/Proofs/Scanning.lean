import Mathlib.Data.List.Induction
import Mathlib.Data.List.Infix
import Stepwise.Text.Quoted

/-!
# What stands outside quotes and parentheses

A scan follows quotes and parentheses from the beginning of a text. Here its state is said of the
text that has been read, and what the scan finds is said without it:

- `quoteAfter` and `depthAfter` are the state after a text, and `outside` its characters outside
  quotes; a text leaves the scan `AtTopLevel` when neither quotes nor parentheses are open after it,
- `SplitsInto` says what the pieces between the commas at top level are, and `topLevelPieces` finds
  them (`splitsInto_iff`), so that splitting is exact (`comma_splitting_exact`),
- `KeepsOpen` says that a text never closes more parentheses than it has opened, and `Balanced` that
  it closes all of them and its quotes; a text that closes too many has a beginning that is balanced
  and then closed (`not_keepsOpen_iff`).
-/

namespace Stepwise
namespace Text

/-! ### Quotes -/

/-- The state of the scan after a text. -/
def quoteAfter (text : Text) : Quote := text.foldl Quote.next none

/-- The characters outside quotes of a text that is read on in state `quote`. -/
def outsideFrom (quote : Quote) : Text → Text
  | [] => []
  | c :: rest =>
    if quote.isOutside c then c :: outsideFrom (quote.next c) rest else outsideFrom
      (quote.next c) rest

/-- The characters outside quotes. -/
def outside (text : Text) : Text := outsideFrom none text

theorem outsideFrom_append (quote : Quote) (text text' : Text) :
    outsideFrom quote (text ++ text') =
      outsideFrom quote text ++ outsideFrom (text.foldl Quote.next quote) text' := by
  induction text generalizing quote with
  | nil => rfl
  | cons c rest ih =>
    simp only [List.cons_append, outsideFrom, List.foldl_cons, ih]
    split <;> rfl

theorem quoteAfter_append (text text' : Text) :
    (text ++ text').quoteAfter = text'.foldl Quote.next text.quoteAfter :=
  List.foldl_append

theorem quoteAfter_concat (text : Text) (c : Char) :
    (text ++ [c]).quoteAfter = text.quoteAfter.next c :=
  quoteAfter_append text [c]

/-- A text after which no quotes are open does not touch what follows it. -/
theorem quoteAfter_append_of_closed {text : Text} (h : text.quoteAfter = none) (text' : Text) :
    (text ++ text').quoteAfter = text'.quoteAfter := by
  rw [quoteAfter_append, h, quoteAfter]

/-- Quotes stay open until their mark comes again. -/
theorem foldl_next_of_not_mem {quote : Char} {inner : Text} (h : quote ∉ inner) :
    inner.foldl Quote.next (some quote) = some quote := by
  induction inner with
  | nil => rfl
  | cons c inner ih =>
    have hc : c ≠ quote := fun hc => h (hc ▸ List.mem_cons_self)
    have hnext : Quote.next (some quote) c = some quote := if_neg hc
    rw [List.foldl_cons, hnext]
    exact ih fun hmem => h (List.mem_cons_of_mem _ hmem)

theorem outside_append_of_closed {text : Text} (h : text.quoteAfter = none) (text' : Text) :
    (text ++ text').outside = text.outside ++ text'.outside := by
  unfold outside
  rw [outsideFrom_append]
  exact congrArg (fun quote => outsideFrom none text ++ outsideFrom quote text') h

theorem outside_concat (text : Text) (c : Char) :
    (text ++ [c]).outside = if text.quoteAfter.isOutside c then text.outside ++
      [c] else text.outside := by
  have hlast : outsideFrom text.quoteAfter [c] = if text.quoteAfter.isOutside c then [c] else [] :=
    rfl
  have happend : (text ++ [c]).outside = text.outside ++ outsideFrom text.quoteAfter [c] :=
    outsideFrom_append none text [c]
  rw [happend, hlast]
  split
  · rfl
  · exact List.append_nil _

/-! ### Parentheses -/

/-- The depth of parentheses after a text. A parenthesis that closes nothing does not count. -/
def depthAfter (text : Text) : Nat := text.outside.foldl nextDepth 0

theorem depthAfter_concat (text : Text) (c : Char) :
    (text ++ [c]).depthAfter =
      if text.quoteAfter.isOutside c then nextDepth text.depthAfter c else text.depthAfter := by
  unfold depthAfter
  rw [outside_concat]
  split
  · rw [List.foldl_append]
    rfl
  · rfl

/-- What follows the text stands outside quotes and outside parentheses. -/
def AtTopLevel (text : Text) : Prop := text.quoteAfter = none ∧ text.depthAfter = 0

instance : DecidablePred AtTopLevel := fun text =>
  inferInstanceAs (Decidable (text.quoteAfter = none ∧ text.depthAfter = 0))

/-- No comma of the text stands outside quotes and parentheses. -/
def CommaFree (text : Text) : Prop := ∀ start : Text, start ++ [','] <+: text → ¬ start.AtTopLevel

instance : DecidablePred CommaFree := fun text =>
  decidable_of_iff (∀ start ∈ text.inits, start ++ [','] <+: text → ¬ AtTopLevel start) (by
    constructor
    · intro h start hstart
      exact h start ((List.mem_inits _ _).mpr ((List.prefix_append _ _).trans hstart)) hstart
    · intro h start _ hstart
      exact h start hstart)

theorem commaFree_nil : CommaFree [] := by
  intro start hstart
  exact absurd (List.prefix_nil.mp hstart)
    (List.append_ne_nil_of_right_ne_nil _ (List.cons_ne_nil _ _))

/-- One more character keeps a text free of commas, unless it is a comma at top level. -/
theorem CommaFree.concat {text : Text} {c : Char} (h : text.CommaFree)
    (hc : ¬ (c = ',' ∧ text.AtTopLevel)) :
    (text ++ [c]).CommaFree := by
  intro start hstart
  rcases List.prefix_concat_iff.mp hstart with heq | hbefore
  · obtain ⟨rfl, hcomma⟩ := List.append_inj' heq rfl
    intro hlevel
    exact hc ⟨(List.singleton_inj.mp hcomma).symm, hlevel⟩
  · exact h start hbefore

/-! ### Pieces between commas -/

/-- The text has the pieces, with commas between them: no piece has a comma at top level, and every
    comma between two pieces is one. -/
inductive SplitsInto : Text → List Text → Prop where
  | last {piece : Text} (h : piece.CommaFree) : SplitsInto piece [piece]
  | comma {piece rest : Text} {pieces : List Text} (h : piece.CommaFree) (hlevel : piece.AtTopLevel)
    (hrest : SplitsInto rest pieces) : SplitsInto (piece ++ ',' :: rest) (piece :: pieces)

/-- One step of the scan, when `start` has been read of the piece. -/
theorem topLevelPiecesFrom_cons (start : Text) (c : Char) (rest : Text) :
    topLevelPiecesFrom start.quoteAfter start.depthAfter (c :: rest) =
      if c = ',' ∧ start.AtTopLevel then [] :: topLevelPieces rest
      else (topLevelPiecesFrom (start ++ [c]).quoteAfter (start ++ [c]).depthAfter rest).modifyHead
        (c :: ·) := by
  rw [quoteAfter_concat, depthAfter_concat, topLevelPiecesFrom]
  by_cases houtside : start.quoteAfter.isOutside c = true
  · -- outside quotes the state stays what it is, and the parentheses count
    have hparts := houtside
    simp only [Quote.isOutside, Bool.and_eq_true, Option.isNone_iff_eq_none, Bool.not_eq_true']
      at hparts
    obtain ⟨hquote, hc⟩ := hparts
    have hnext : start.quoteAfter.next c = none := by
      rw [hquote]
      show (if isQuote c then some c else none) = none
      rw [hc]
      rfl
    have hlevel : start.AtTopLevel ↔ start.depthAfter = 0 := and_iff_right hquote
    simp only [if_pos houtside, hnext, hlevel]
    rfl
  · -- a character inside quotes, or a quote, is part of the piece
    have hcomma : ¬ (c = ',' ∧ start.AtTopLevel) := by
      rintro ⟨rfl, hquote, _⟩
      apply houtside
      rw [hquote]
      rfl
    simp only [if_neg houtside, if_neg hcomma]

/-- The pieces that the scan finds, when `start` has been read of the first one. -/
theorem splitsInto_topLevelPiecesFrom {start : Text} (hstart : start.CommaFree) (rest : Text) :
    SplitsInto (start ++ rest)
      ((topLevelPiecesFrom start.quoteAfter start.depthAfter rest).modifyHead (start ++ ·)) := by
  induction rest generalizing start with
  | nil =>
    have hpieces : (topLevelPiecesFrom start.quoteAfter start.depthAfter []).modifyHead
        (start ++ ·) = [start ++ []] := rfl
    rw [hpieces, List.append_nil]
    exact .last hstart
  | cons c rest ih =>
    rw [topLevelPiecesFrom_cons]
    split
    · -- a comma at top level ends the piece, and the scan begins anew
      rename_i hcomma
      obtain ⟨rfl, hlevel⟩ := hcomma
      rw [List.modifyHead_cons, List.append_nil]
      refine .comma hstart hlevel ?_
      have hnew := ih commaFree_nil
      have hsame : (topLevelPieces rest).modifyHead (([] : Text) ++ ·) = topLevelPieces rest := by
        cases topLevelPieces rest <;> rfl
      rw [← hsame]
      exact hnew
    · rename_i hcomma
      have hlonger := ih (hstart.concat hcomma)
      rw [List.append_assoc, List.singleton_append] at hlonger
      rw [List.modifyHead_modifyHead]
      have hhead : ((start ++ ·) ∘ (c :: ·) : Text → Text) = (start ++ [c] ++ ·) := by
        funext piece
        simp
      rw [hhead]
      exact hlonger

/-- The scan reads a piece to its end. -/
theorem topLevelPiecesFrom_append (start : Text) {piece : Text}
    (h : ∀ before, before ++ [','] <+: piece → ¬ (start ++ before).AtTopLevel) (rest : Text) :
    topLevelPiecesFrom start.quoteAfter start.depthAfter (piece ++ rest) =
      (topLevelPiecesFrom (start ++ piece).quoteAfter (start ++ piece).depthAfter rest).modifyHead
        (piece ++ ·) := by
  induction piece generalizing start with
  | nil =>
    rw [List.append_nil, List.nil_append]
    cases topLevelPiecesFrom start.quoteAfter start.depthAfter rest <;> rfl
  | cons c piece ih =>
    have hcomma : ¬ (c = ',' ∧ start.AtTopLevel) := by
      rintro ⟨rfl, hlevel⟩
      refine h [] (List.prefix_append [','] piece) ?_
      rwa [List.append_nil]
    have hrest : ∀ before, before ++ [','] <+: piece → ¬ (start ++ [c] ++ before).AtTopLevel := by
      intro before hbefore
      rw [List.append_assoc]
      exact h (c :: before) (List.cons_prefix_cons.mpr ⟨rfl, hbefore⟩)
    rw [List.cons_append, topLevelPiecesFrom_cons, if_neg hcomma, ih (start ++ [c]) hrest,
      List.append_assoc, List.singleton_append, List.modifyHead_modifyHead]
    rfl

/-- The pieces of a text are those that the scan finds. -/
theorem splitsInto_iff {text : Text} {pieces : List Text} :
    text.SplitsInto pieces ↔ text.topLevelPieces = pieces := by
  constructor
  · intro h
    induction h with
    | @last piece hfree =>
      have hscan := topLevelPiecesFrom_append [] (fun before hbefore => hfree before hbefore) []
      rw [List.append_nil] at hscan
      exact hscan.trans (congrArg ([·]) (List.append_nil piece))
    | @comma piece rest pieces hfree hlevel _ ih =>
      have hscan :=
        topLevelPiecesFrom_append [] (fun before hbefore => hfree before hbefore) (',' :: rest)
      rw [List.nil_append, topLevelPiecesFrom_cons, if_pos ⟨rfl, hlevel⟩, List.modifyHead_cons,
        List.append_nil, ih] at hscan
      exact hscan
  · rintro rfl
    have hsplits := splitsInto_topLevelPiecesFrom commaFree_nil text
    have hsame : (topLevelPiecesFrom none 0 text).modifyHead (([] : Text) ++ ·) =
        topLevelPieces text := by
      show (topLevelPieces text).modifyHead _ = _
      cases topLevelPieces text <;> rfl
    rw [← hsame]
    exact hsplits

section splitting
variable {text later : Text} {pieces pieces' : List Text}

/-- After a text at top level and a comma, the scan goes on as if it began there. -/
theorem AtTopLevel.comma_iff (h : text.AtTopLevel) (rest : Text) :
    (text ++ ',' :: rest).AtTopLevel ↔ rest.AtTopLevel := by
  have hdepth : (text ++ ',' :: rest).depthAfter = rest.depthAfter := by
    unfold depthAfter
    rw [outside_append_of_closed h.1, List.foldl_append]
    exact congrArg (fun depth => (outside (',' :: rest)).foldl nextDepth depth) h.2
  unfold AtTopLevel
  rw [quoteAfter_append_of_closed h.1, hdepth]
  exact Iff.rfl

namespace SplitsInto

theorem ne_nil (h : text.SplitsInto pieces) : pieces ≠ [] := by
  cases h with
  | last => exact List.cons_ne_nil _ _
  | comma => exact List.cons_ne_nil _ _

theorem intercalate_eq (h : text.SplitsInto pieces) : List.intercalate [','] pieces = text := by
  induction h with
  | last => exact List.intercalate_singleton
  | comma _ _ hrest ih =>
    rw [List.intercalate_cons_of_ne_nil hrest.ne_nil, ih, List.append_assoc, List.singleton_append]

theorem commaFree (h : text.SplitsInto pieces) : ∀ piece ∈ pieces, piece.CommaFree := by
  induction h with
  | last hfree => exact List.forall_mem_singleton.mpr hfree
  | comma hfree _ _ ih => exact List.forall_mem_cons.mpr ⟨hfree, ih⟩

/-- A comma at top level separates the pieces before it from those after it. -/
theorem append (h : text.SplitsInto pieces) (hlevel : text.AtTopLevel)
    (hlater : later.SplitsInto pieces') :
    (text ++ ',' :: later).SplitsInto (pieces ++ pieces') := by
  induction h with
  | last hfree => exact .comma hfree hlevel hlater
  | comma hfree hpiece _ ih =>
    -- what is left of the text after its first comma is at top level, too
    rw [List.append_assoc, List.cons_append, List.cons_append]
    exact .comma hfree hpiece (ih ((hpiece.comma_iff _).mp hlevel))

end SplitsInto

/-- Splitting at commas is exact. The pieces with commas between them are the text, and no piece is
    split any further. After a text whose quotes and parentheses are closed, parentheses that close
    nothing aside, a comma ends the last piece, whatever follows. -/
theorem comma_splitting_exact (text : Text) :
    List.intercalate [','] text.topLevelPieces = text ∧
      (∀ piece ∈ text.topLevelPieces, piece.topLevelPieces = [piece]) ∧
      (text.AtTopLevel → ∀ later : Text,
        (text ++ ',' :: later).topLevelPieces = text.topLevelPieces ++ later.topLevelPieces) := by
  have hsplits : text.SplitsInto text.topLevelPieces := splitsInto_iff.mpr rfl
  refine ⟨hsplits.intercalate_eq, ?_, ?_⟩
  · intro piece hpiece
    exact splitsInto_iff.mp (.last (hsplits.commaFree piece hpiece))
  · intro hlevel later
    exact splitsInto_iff.mp (hsplits.append hlevel (splitsInto_iff.mpr rfl))

/-- A parenthesis that closes nothing and a quoted comma before the comma, and a quote that is not
    closed after it. -/
theorem comma_splitting_exact_stray :
    let text : Text := "a), f(1, '(') \",\""
    let later : Text := "b, 'c, d"
    text.AtTopLevel ∧ text.topLevelPieces = ["a)".toList, " f(1, '(') \",\"".toList] ∧
      ¬ later.AtTopLevel ∧
      (text ++ ',' :: later).topLevelPieces =
        ["a)".toList, " f(1, '(') \",\"".toList, "b".toList, " 'c, d".toList] := by
  intro text later
  have hlevel : text.AtTopLevel := by decide +kernel
  have hpieces : text.topLevelPieces = ["a)".toList, " f(1, '(') \",\"".toList] := by decide +kernel
  have hlater : later.topLevelPieces = ["b".toList, " 'c, d".toList] := by decide +kernel
  refine ⟨hlevel, hpieces, by decide +kernel, ?_⟩
  rw [(comma_splitting_exact text).2.2 hlevel later, hpieces, hlater]
  rfl

end splitting

/-! ### Matching parentheses -/

/-- The text never closes more parentheses than it has opened, quotes aside. -/
def KeepsOpen (text : Text) : Prop :=
  ∀ start : Text, start <+: text → start.outside.count ')' ≤ start.outside.count '('

instance : DecidablePred KeepsOpen := fun text =>
  decidable_of_iff (∀ start ∈ text.inits, (outside start).count ')' ≤ (outside start).count '(') (by
    simp only [List.mem_inits]
    rfl)

/-- The text closes all that it opens: its quotes, and each parenthesis after it was opened. -/
structure Balanced (text : Text) : Prop where
  quotes : text.quoteAfter = none
  keepsOpen : text.KeepsOpen
  closes : text.outside.count '(' = text.outside.count ')'

instance : DecidablePred Balanced := fun text =>
  decidable_of_iff (text.quoteAfter = none ∧ text.KeepsOpen ∧
    text.outside.count '(' = text.outside.count ')')
    ⟨fun h => ⟨h.1, h.2.1, h.2.2⟩, fun h => ⟨h.quotes, h.keepsOpen, h.closes⟩⟩

variable {text : Text}

theorem KeepsOpen.of_prefix {start : Text} (h : text.KeepsOpen) (hstart : start <+: text) :
    start.KeepsOpen :=
  fun _ hbefore => h _ (hbefore.trans hstart)

/-- As long as no parenthesis is closed too many, the depth is what is opened less what is
    closed. -/
theorem KeepsOpen.depthAfter_add (h : text.KeepsOpen) :
    text.depthAfter + text.outside.count ')' = text.outside.count '(' := by
  induction text using List.reverseRecOn with
  | nil => rfl
  | append_singleton text c ih =>
    have hbefore := ih (h.of_prefix (List.prefix_append _ _))
    have hafter := h _ (List.prefix_refl _)
    rw [outside_concat] at hafter ⊢
    rw [depthAfter_concat]
    split
    · rename_i houtside
      rw [if_pos houtside] at hafter
      simp only [List.count_append, List.count_singleton, nextDepth] at hafter ⊢
      by_cases hopen : c = '('
      · subst hopen
        simp only [if_true, beq_self_eq_true, Char.reduceBEq, Bool.false_eq_true, if_false]
          at hafter ⊢
        omega
      · by_cases hclose : c = ')'
        · subst hclose
          simp only [if_true, beq_self_eq_true, Char.reduceBEq, Bool.false_eq_true, if_false, hopen]
            at hafter ⊢
          omega
        · simp only [if_neg hopen, if_neg hclose, beq_iff_eq] at hafter ⊢
          omega
    · exact hbefore

/-- A balanced text leaves the scan where it was. -/
theorem Balanced.atTopLevel (h : text.Balanced) : text.AtTopLevel := by
  have hdepth := h.keepsOpen.depthAfter_add
  have hcloses := h.closes
  exact ⟨h.quotes, by omega⟩

/-- A parenthesis after a balanced text closes one that the text has not opened. -/
theorem Balanced.not_keepsOpen (h : text.Balanced) : ¬ (text ++ [')']).KeepsOpen := by
  intro hopen
  have hcount := hopen _ (List.prefix_refl _)
  have houtside : text.quoteAfter.isOutside ')' = true := by
    rw [h.quotes]
    rfl
  rw [outside_concat, if_pos houtside] at hcount
  have hcloses := h.closes
  simp only [List.count_append, List.count_singleton, beq_self_eq_true, Char.reduceBEq, if_true,
    Bool.false_eq_true, if_false] at hcount
  omega

/-- The first character that closes too many is a parenthesis after a balanced text. -/
theorem KeepsOpen.balanced_of_concat {c : Char} (h : text.KeepsOpen)
    (hc : ¬ (text ++ [c]).KeepsOpen) :
    c = ')' ∧ text.Balanced := by
  have hbefore := h _ (List.prefix_refl _)
  have hafter : ¬ (text ++ [c]).outside.count ')' ≤ (text ++ [c]).outside.count '(' := by
    intro hle
    apply hc
    intro start hstart
    rcases List.prefix_concat_iff.mp hstart with rfl | hprefix
    · exact hle
    · exact h start hprefix
  rw [outside_concat] at hafter
  by_cases houtside : text.quoteAfter.isOutside c = true
  · rw [if_pos houtside, List.count_append, List.count_append, List.count_singleton,
      List.count_singleton] at hafter
    have hclose : c = ')' := by
      by_contra hne
      rw [if_neg (by simpa using hne)] at hafter
      omega
    subst hclose
    rw [if_pos (by decide), if_neg (by decide)] at hafter
    have hquote : text.quoteAfter = none := by
      simp only [Quote.isOutside, Bool.and_eq_true, Option.isNone_iff_eq_none] at houtside
      exact houtside.1
    exact ⟨rfl, hquote, h, by omega⟩
  · rw [if_neg houtside] at hafter
    exact absurd hbefore hafter

/-- A text closes too many parentheses exactly when one of them closes what stands before all of the
    text. -/
theorem not_keepsOpen_iff :
    ¬ text.KeepsOpen ↔ ∃ group rest : Text, text = group ++ ')' :: rest ∧ group.Balanced := by
  constructor
  · intro h
    induction text using List.reverseRecOn with
    | nil =>
      refine absurd ?_ h
      intro start hstart
      rw [List.prefix_nil.mp hstart]
      exact Nat.le_refl _
    | append_singleton text c ih =>
      by_cases hbefore : KeepsOpen text
      · obtain ⟨rfl, hbalanced⟩ := hbefore.balanced_of_concat h
        exact ⟨text, [], rfl, hbalanced⟩
      · obtain ⟨group, rest, rfl, hgroup⟩ := ih hbefore
        exact ⟨group, rest ++ [c], by simp, hgroup⟩
  · rintro ⟨group, rest, rfl, hgroup⟩ hopen
    refine hgroup.not_keepsOpen (hopen.of_prefix ?_)
    exact ⟨rest, by simp⟩

end Text
end Stepwise
