import Mathlib.Logic.Relation
import Stepwise.Proofs.Parts
import Stepwise.Proofs.Spellings

/-!
# Layout

How a script is laid out does not matter: blanks at the ends of its lines, lines that are blank, and
carriage returns before line feeds leave no trace in the listing, and all else is computed from the
listing.

- `Text.lines_induction` goes through a text line by line,
- `ofText_blank_append` and `ofText_append_blank`: blanks at either end of a text, line feeds among
  them, do not change its listing,
- `isNormal_of_mem`: what the lines of a listing look like,
- `Text.Respaced` is a single change of layout, and `Text.SameLayout` any number of them;
  `sameLayout_iff` shows that texts have the same listing exactly when they differ in layout only.
-/

namespace Stepwise

namespace Text

variable {text : Text}

/-! ### Trimming -/

/-- The first character that is left is not blank. -/
theorem head?_trimStart (text : Text) {c : Char} (h : text.trimStart.head? = some c) :
    isBlank c = false := by
  have hhead := List.head?_dropWhile_not isBlank text
  have h' : (text.dropWhile isBlank).head? = some c := h
  rw [h'] at hhead
  exact hhead

/-- The last character that is left is not blank. -/
theorem getLast?_trimEnd {c : Char} (h : text.trimEnd.getLast? = some c) : isBlank c = false := by
  rw [trimEnd, List.getLast?_reverse] at h
  exact head?_trimStart text.reverse h

theorem getLast?_trim {c : Char} (h : text.trim.getLast? = some c) :
    isBlank c = false := getLast?_trimEnd h

theorem head?_trim {c : Char} (h : text.trim.head? = some c) : isBlank c = false := by
  -- trimming the end leaves the first character, if it leaves any
  obtain ⟨rest, hrest⟩ := prefix_trimEnd text.trimStart
  apply head?_trimStart text
  rw [← hrest, List.head?_append]
  exact Option.or_eq_some_iff.mpr (.inl h)

theorem trim_trim (text : Text) : text.trim.trim = text.trim :=
  trim_of_not_isBlank_ends (fun _ => head?_trim) (fun _ => getLast?_trim)

/-- A blank after a text is trimmed away. -/
theorem trim_concat {c : Char} (hc : isBlank c = true) (text : Text) :
    trim (text ++ [c]) = text.trim := by
  have hend : ∀ text : Text, trimEnd (text ++ [c]) = text.trimEnd := by
    intro text
    unfold trimEnd
    rw [List.reverse_append, List.reverse_singleton, List.singleton_append,
      List.dropWhile_cons_of_pos hc]
  unfold trim trimStart
  rw [List.dropWhile_append]
  split
  · -- all of the text is blank
    rename_i hblank
    rw [List.isEmpty_iff.mp hblank, List.dropWhile_cons_of_pos hc, List.dropWhile_nil]
  · exact hend _

/-- What trimming takes away at the two ends is blank. -/
theorem exists_blank_ends (text : Text) :
    ∃ before after : Text, before.allBlank = true ∧ after.allBlank = true ∧
      text = before ++ text.trim ++ after := by
  have hsplit := List.takeWhile_append_dropWhile (p := isBlank) (l := text)
  have hsplit' := List.takeWhile_append_dropWhile (p := isBlank) (l := text.trimStart.reverse)
  refine ⟨text.takeWhile isBlank, (text.trimStart.reverse.takeWhile isBlank).reverse,
    List.all_takeWhile, ?_, ?_⟩
  · rw [allBlank, List.all_reverse]
    exact List.all_takeWhile
  · have hstart : text.trimStart =
        text.trim ++ (text.trimStart.reverse.takeWhile isBlank).reverse := by
      rw [trim, trimEnd, ← List.reverse_append, hsplit', List.reverse_reverse]
    rw [List.append_assoc, ← hstart]
    exact hsplit.symm

/-! ### Line by line -/

/-- What holds of texts of one line, and of a line and a line feed before any text of which it
    holds, holds of all texts. -/
theorem lines_induction {P : Text → Prop} (line : ∀ text, '\n' ∉ text → P text)
    (next : ∀ text rest, '\n' ∉ text → P rest → P (text ++ '\n' :: rest)) (text : Text) :
    P text := by
  have hfrom : ∀ start, '\n' ∉ start → P (start ++ text) := by
    induction text with
    | nil =>
      intro start hstart
      rw [List.append_nil]
      exact line start hstart
    | cons c rest ih =>
      intro start hstart
      by_cases hc : c = '\n'
      · rw [hc]
        exact next start rest hstart (ih [] List.not_mem_nil)
      · have hlonger : '\n' ∉ start ++ [c] := by simp [hstart, Ne.symm hc]
        have hrest := ih (start ++ [c]) hlonger
        rwa [List.append_assoc] at hrest
  exact hfrom [] List.not_mem_nil

end Text

/-! ### Listings -/

namespace Listing

/-- The listing of one line has that line, unless it is blank. -/
theorem ofText_line {text : Text} (h : '\n' ∉ text) :
    ofText text = ⟨if text.allBlank then [] else [text.trim]⟩ := by
  unfold ofText
  rw [List.splitOn_eq_singleton h, List.map_singleton, List.filter_singleton]
  by_cases hblank : text.allBlank = true
  · rw [Text.trim_eq_nil_iff.mpr hblank, if_pos hblank]
    rfl
  · have hne : text.trim.isEmpty = false := by
      rw [List.isEmpty_eq_false_iff]
      exact fun hnil => hblank (Text.trim_eq_nil_iff.mp hnil)
    rw [hne, if_neg hblank]
    rfl

/-- Every line of a listing is not empty, has no blanks at its ends and no line feed. -/
theorem isNormal_of_mem {source line : Text} (h : line ∈ (ofText source).lines) :
    IsNormal line := by
  obtain ⟨hmem, hne⟩ := List.mem_filter.mp h
  obtain ⟨piece, hpiece, rfl⟩ := List.mem_map.mp hmem
  refine ⟨by simpa using hne, Text.trim_trim piece, ?_⟩
  intro hbreak
  exact Text.not_mem_of_mem_splitOn hpiece ((Text.infix_trim piece).subset hbreak)

/-- A blank before a text does not change its listing: a line feed makes an empty line, and any
    other blank stands at the beginning of the first line. -/
theorem ofText_cons {c : Char} (hc : isBlank c = true) (text : Text) :
    ofText (c :: text) = ofText text := by
  by_cases hbreak : c = '\n'
  · rw [hbreak, ← List.nil_append ('\n' :: text), ofText_append]
    rfl
  · have hpieces : ((c :: text).splitOn '\n').map Text.trim =
        (text.splitOn '\n').map Text.trim := by
      rw [List.splitOn_cons_eq_if_modifyHead, if_neg (by simpa using hbreak)]
      obtain ⟨first, others, hsplit⟩ := List.exists_cons_of_ne_nil (List.splitOn_ne_nil '\n' text)
      rw [hsplit, List.modifyHead_cons, List.map_cons, List.map_cons, Text.trim_cons hc]
    unfold ofText
    rw [hpieces]

/-- A blank after a text does not change its listing. -/
theorem ofText_concat {c : Char} (hc : isBlank c = true) (text : Text) :
    ofText (text ++ [c]) = ofText text := by
  by_cases hbreak : c = '\n'
  · rw [hbreak, ofText_append]
    exact congrArg Listing.mk (List.append_nil _)
  · induction text using Text.lines_induction with
    | line text htext =>
      have hlonger : '\n' ∉ text ++ [c] := by simp [htext, Ne.symm hbreak]
      have hblank : Text.allBlank (text ++ [c]) = text.allBlank := by simp [Text.allBlank, hc]
      rw [ofText_line htext, ofText_line hlonger, hblank, Text.trim_concat hc]
    | next text rest htext ih =>
      rw [List.append_assoc, List.cons_append, ofText_append, ofText_append, ih]

theorem ofText_blank_append {blanks : Text} (h : blanks.allBlank = true) (text : Text) :
    ofText (blanks ++ text) = ofText text := by
  induction blanks with
  | nil => rfl
  | cons c blanks ih =>
    rw [Text.allBlank, List.all_cons, Bool.and_eq_true] at h
    rw [List.cons_append, ofText_cons h.1]
    exact ih h.2

theorem ofText_append_blank {blanks : Text} (h : blanks.allBlank = true) (text : Text) :
    ofText (text ++ blanks) = ofText text := by
  induction blanks generalizing text with
  | nil => rw [List.append_nil]
  | cons c blanks ih =>
    rw [Text.allBlank, List.all_cons, Bool.and_eq_true] at h
    rw [← List.singleton_append, ← List.append_assoc, ih h.2, ofText_concat h.1]

end Listing

/-! ### Changes of layout -/

namespace Text

/-- The second text has more blanks than the first one, at an end of the text or beside a line feed.
    A carriage return before a line feed is a blank at the end of a line; and blanks with line feeds
    among them are lines that are blank. -/
inductive Respaced : Text → Text → Prop where
  | start {blanks : Text} (h : blanks.allBlank = true) (text : Text) :
    Respaced text (blanks ++ text)
  | finish {blanks : Text} (h : blanks.allBlank = true) (text : Text) :
    Respaced text (text ++ blanks)
  | lineStart {blanks : Text} (h : blanks.allBlank = true) (text rest : Text) :
      Respaced (text ++ '\n' :: rest) (text ++ '\n' :: (blanks ++ rest))
  | lineEnd {blanks : Text} (h : blanks.allBlank = true) (text rest : Text) :
      Respaced (text ++ '\n' :: rest) (text ++ blanks ++ '\n' :: rest)

/-- The texts differ in layout only: the one is made from the other by adding such blanks and taking
    them away. -/
def SameLayout : Text → Text → Prop := Relation.EqvGen Respaced

variable {text text' rest rest' : Text}

theorem Respaced.ofText_eq (h : Respaced text text') :
    Listing.ofText text = Listing.ofText text' := by
  cases h with
  | start hblank => exact (Listing.ofText_blank_append hblank _).symm
  | finish hblank => exact (Listing.ofText_append_blank hblank _).symm
  | lineStart hblank =>
    rw [Listing.ofText_append, Listing.ofText_append, Listing.ofText_blank_append hblank]
  | lineEnd hblank =>
    rw [Listing.ofText_append, Listing.ofText_append, Listing.ofText_append_blank hblank]

namespace SameLayout

theorem refl (text : Text) : SameLayout text text := Relation.EqvGen.refl text

theorem symm (h : SameLayout text text') : SameLayout text' text := Relation.EqvGen.symm _ _ h

theorem trans {text'' : Text} (h : SameLayout text text') (h' : SameLayout text' text'') :
    SameLayout text text'' := Relation.EqvGen.trans _ _ _ h h'

theorem of_respaced (h : Respaced text text') : SameLayout text text' := Relation.EqvGen.rel _ _ h

/-- The layout of the lines before a line feed can be changed by itself. -/
theorem before_break (h : SameLayout text text') (rest : Text) :
    SameLayout (text ++ '\n' :: rest) (text' ++ '\n' :: rest) := by
  induction h with
  | rel text text' h =>
    apply of_respaced
    cases h with
    | @start blanks hblank =>
      rw [List.append_assoc]
      exact .start hblank _
    | finish hblank => exact .lineEnd hblank text rest
    | lineStart hblank text later =>
      rw [List.append_assoc, List.append_assoc, List.cons_append, List.cons_append,
        List.append_assoc]
      exact .lineStart hblank text _
    | lineEnd hblank text later =>
      rw [List.append_assoc, List.append_assoc, List.cons_append]
      exact .lineEnd hblank text _
  | refl => exact refl _
  | symm _ _ _ ih => exact ih.symm
  | trans _ _ _ _ _ ih ih' => exact ih.trans ih'

/-- The layout of the lines after a line feed can be changed by itself. -/
theorem after_break (h : SameLayout rest rest') (text : Text) :
    SameLayout (text ++ '\n' :: rest) (text ++ '\n' :: rest') := by
  induction h with
  | rel rest rest' h =>
    apply of_respaced
    cases h with
    | start hblank => exact .lineStart hblank text rest
    | finish hblank =>
      rw [← List.cons_append, ← List.append_assoc]
      exact .finish hblank _
    | lineStart hblank earlier later =>
      rw [← List.cons_append, ← List.cons_append, ← List.append_assoc, ← List.append_assoc]
      exact .lineStart hblank _ later
    | lineEnd hblank earlier later =>
      rw [← List.cons_append, ← List.cons_append, ← List.cons_append, ← List.append_assoc,
        ← List.append_assoc, ← List.append_assoc]
      exact .lineEnd hblank _ later
  | refl => exact refl _
  | symm _ _ _ ih => exact ih.symm
  | trans _ _ _ _ _ ih ih' => exact ih.trans ih'

/-- Every line can be trimmed. -/
theorem trim (text : Text) : SameLayout text text.trim := by
  obtain ⟨before, after, hbefore, hafter, heq⟩ := exists_blank_ends text
  rw [heq, List.append_assoc]
  have hstart : SameLayout _ _ := of_respaced (.start hbefore (text.trim ++ after))
  have hfinish : SameLayout _ _ := of_respaced (.finish hafter text.trim)
  rw [List.append_assoc] at heq
  rw [← heq] at hstart ⊢
  exact hstart.symm.trans hfinish.symm

/-- Every text differs in layout only from the text of its listing. -/
theorem listing_text (text : Text) : SameLayout text (Listing.ofText text).text := by
  induction text using lines_induction with
  | line text htext =>
    have htrim := trim text
    rw [Listing.ofText_line htext]
    by_cases hblank : text.allBlank = true
    · rw [trim_eq_nil_iff.mpr hblank] at htrim
      rw [if_pos hblank]
      exact htrim
    · rw [if_neg hblank, Listing.text, List.intercalate_singleton]
      exact htrim
  | next text rest htext ih =>
    rw [Listing.ofText_append, Listing.ofText_line htext]
    by_cases hblank : text.allBlank = true
    · -- a blank line goes, with the line feed after it
      have hblanks : allBlank (text ++ ['\n']) = true := by
        rw [allBlank, List.all_append, Bool.and_eq_true]
        exact ⟨hblank, rfl⟩
      have hstart : SameLayout rest (text ++ ['\n'] ++ rest) := of_respaced (.start hblanks rest)
      rw [List.append_assoc, List.singleton_append] at hstart
      rw [if_pos hblank, List.nil_append]
      exact hstart.symm.trans ih
    · rw [if_neg hblank, List.singleton_append]
      have htrim :
          SameLayout (text ++ '\n' :: rest) (text.trim ++ '\n' :: (Listing.ofText rest).text) :=
        ((trim text).before_break rest).trans (ih.after_break text.trim)
      by_cases hnone : (Listing.ofText rest).lines = []
      · -- no line is left after this one, and the line feed goes as well
        have hrest : (Listing.ofText rest).text = [] := by
          rw [Listing.text, hnone, List.intercalate_nil]
        rw [hrest] at htrim
        rw [hnone, Listing.text, List.intercalate_singleton]
        exact htrim.trans (of_respaced (.finish rfl text.trim)).symm
      · rw [Listing.text, List.intercalate_cons_of_ne_nil hnone, List.append_assoc,
          List.singleton_append]
        exact htrim

end SameLayout

/-- Texts that differ in layout only are those with the same listing. -/
theorem sameLayout_iff : SameLayout text text' ↔ Listing.ofText text = Listing.ofText text' := by
  constructor
  · intro h
    induction h with
    | rel _ _ h => exact h.ofText_eq
    | refl => rfl
    | symm _ _ _ ih => exact ih.symm
    | trans _ _ _ _ _ ih ih' => exact ih.trans ih'
  · intro h
    have htext := SameLayout.listing_text text
    rw [h] at htext
    exact htext.trans (SameLayout.listing_text text').symm

end Text

/-! ### Scripts -/

namespace Recording

theorem listing_ofSource (settings : Settings) (clock : Nat → Instant) (source : Text) :
    (ofSource settings clock source).listing = .ofText source := by
  simp only [ofSource]
  cases DeclarationTable.ofListing (.ofText source) <;> rfl

/-- The record of a script that is rejected has no declarations. -/
theorem table_ofSource (settings : Settings) (clock : Nat → Instant) (source : Text) :
    (ofSource settings clock source).table =
      (DeclarationTable.ofListing (.ofText source)).toOption.getD .empty := by
  simp only [ofSource]
  cases DeclarationTable.ofListing (.ofText source) <;> rfl

/-- A run depends on the listing of its script only. -/
theorem snapshots_of_ofText_eq {source source' : Text}
    (h : Listing.ofText source = Listing.ofText source') (settings : Settings)
    (clock clock' : Nat → Instant) :
    (ofSource settings clock source).history.snapshots.map Snapshot.untimed =
      (ofSource settings clock' source').history.snapshots.map Snapshot.untimed := by
  have halike : List.Forall₂ Text.Alike (Listing.ofText source).lines
      (Listing.ofText source').lines := by
    rw [h]
    exact List.forall₂_same.mpr fun line _ => Text.Alike.refl line
  exact snapshots_of_alike halike clock clock'

/-- Layout does not matter. The listing of two texts with a line feed between them is one listing
    after the other. Its lines are not empty, have no blanks at their ends and no line feeds; and a
    listing, written with line feeds between its lines, is read as the same listing again. So texts
    that differ only in blank lines, in blanks at the ends of lines and in carriage returns before
    line feeds are those with the same listing, and they have the same declarations and, times
    aside, the same snapshots under all settings. -/
theorem layout_does_not_matter :
    (∀ a b, Listing.ofText (a ++ '\n' :: b) =
      ⟨(Listing.ofText a).lines ++ (Listing.ofText b).lines⟩) ∧
    (∀ source, ∀ line ∈ (Listing.ofText source).lines,
      line ≠ [] ∧ (∀ c, line.head? = some c → isBlank c = false) ∧
        (∀ c, line.getLast? = some c → isBlank c = false) ∧ '\n' ∉ line) ∧
    (∀ source, Listing.ofText (Listing.ofText source).text = Listing.ofText source) ∧
    (∀ source source', Text.SameLayout source source' ↔
      Listing.ofText source = Listing.ofText source') ∧
    ∀ source source', Text.SameLayout source source' → ∀ settings clock clock',
      let recording := ofSource settings clock source
      let recording' := ofSource settings clock' source'
      recording.listing = recording'.listing ∧
      DeclarationTable.ofListing recording.listing = DeclarationTable.ofListing recording'.listing ∧
      recording.table = recording'.table ∧
      recording.history.snapshots.map Snapshot.untimed =
        recording'.history.snapshots.map Snapshot.untimed := by
  refine ⟨Listing.ofText_append, ?_, ?_, fun _ _ => Text.sameLayout_iff, ?_⟩
  · intro source line hline
    obtain ⟨hne, htrim, hbreak⟩ := Listing.isNormal_of_mem hline
    refine ⟨hne, ?_, ?_, hbreak⟩
    · intro c hc
      rw [← htrim] at hc
      exact Text.head?_trim hc
    · intro c hc
      rw [← htrim] at hc
      exact Text.getLast?_trim hc
  · intro source
    exact Listing.ofText_text fun line => Listing.isNormal_of_mem
  · intro source source' hlayout settings clock clock' recording recording'
    have hlisting := Text.sameLayout_iff.mp hlayout
    refine ⟨?_, ?_, ?_, snapshots_of_ofText_eq hlisting settings clock clock'⟩
    · rw [listing_ofSource, listing_ofSource, hlisting]
    · rw [listing_ofSource, listing_ofSource, hlisting]
    · rw [table_ofSource, table_ofSource, hlisting]

/-- The second text has carriage returns, a blank line with an ideographic space, and no-break
    spaces at the ends of its lines; a form feed between two words is no change of layout. -/
theorem layout_does_not_matter_carriage_returns :
    let source : Text := "x = 'a'\nconsole.log(x)"
    let source' : Text := "\r\n x = 'a'\u00a0\r\n\u3000\r\n\tconsole.log(x)\r\n\r"
    (ofSource .default (fun _ => .epoch) source').history.last.output = ["a".toList] ∧
      Text.SameLayout source source' ∧ ¬ Text.SameLayout "x y" "x\u000cy" ∧
      (ofSource .default (fun _ => .epoch) source).history.snapshots.map Snapshot.untimed =
        (ofSource .default (fun _ => .epoch) source').history.snapshots.map Snapshot.untimed := by
  intro source source'
  obtain ⟨_, _, _, hiff, hruns⟩ := layout_does_not_matter
  have hlayout : Text.SameLayout source source' := (hiff source source').mpr (by decide +kernel)
  refine ⟨by decide +kernel, hlayout, ?_, (hruns source source' hlayout .default _ _).2.2.2⟩
  rw [hiff]
  decide +kernel

end Recording
end Stepwise
