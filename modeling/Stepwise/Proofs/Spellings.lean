import Stepwise.Proofs.Text
import Stepwise.Proofs.Interchange

/-!
# Two ways to write output

Output is written `console.log(expression)` or `console(log(expression))`. The two are recognised by
different shapes, between which calls of declared functions are tried; and the lines of a body are
counted for braces as they stand. Still a line can be written in either way:

- `ofLine_dottedText` and `ofLine_nestedText`: both are output of the same expression, whatever it
  contains,
- `alike_spellings`: both have the braces of the expression, and no other part in declarations,
- `output_spellings_interchange`: so a script runs in the same way with the one and with the other.
-/

namespace Stepwise

/-! ### Listings of given lines -/

namespace Listing

/-- A line as it stands in a listing: not empty, and without blanks at its ends. -/
def IsNormal (line : Text) : Prop := line ≠ [] ∧ line.trim = line ∧ '\n' ∉ line

instance : DecidablePred IsNormal := fun line =>
  inferInstanceAs (Decidable (line ≠ [] ∧ line.trim = line ∧ '\n' ∉ line))

/-- A text is such a line when its ends are not blank. -/
theorem isNormal_of_ends {first last : Char} (middle : Text) (hfirst : isBlank first = false)
    (hlast : isBlank last = false) (hbreak : '\n' ∉ middle) :
    IsNormal (first :: middle ++ [last]) := by
  have hne : ∀ {c}, isBlank c = false → '\n' ≠ c := by
    rintro c hc rfl
    cases hc
  refine ⟨List.cons_ne_nil _ _, Text.trim_of_ends middle hfirst hlast, ?_⟩
  simp [hne hfirst, hne hlast, hbreak]

/-- The lines of a listing with line feeds between them. -/
def text (listing : Listing) : Text := List.intercalate ['\n'] listing.lines

/-- The listing of the text of a listing is the listing itself. -/
theorem ofText_text {listing : Listing} (h : ∀ line ∈ listing.lines, IsNormal line) :
    ofText listing.text = listing := by
  obtain ⟨lines⟩ := listing
  unfold ofText text
  by_cases hnil : lines = []
  · subst hnil
    rfl
  · have hsplit : (List.intercalate ['\n'] lines).splitOn '\n' = lines :=
      List.splitOn_intercalate '\n' (fun line hmem => (h line hmem).2.2) hnil
    have htrim : lines.map Text.trim = lines := by
      conv_rhs => rw [← List.map_id lines]
      exact List.map_congr_left fun line hmem => (h line hmem).2.1
    have hfilter : lines.filter (fun line => !line.isEmpty) = lines := by
      rw [List.filter_eq_self]
      intro line hmem
      simpa using (h line hmem).1
    rw [hsplit, htrim, hfilter]

end Listing

/-! ### The two spellings -/

namespace Statement

/-- Output with a dotted name. -/
def dottedText (expression : Text) : Text := "console.log(".toList ++ expression ++ [')']

/-- Output with nested parentheses. -/
def nestedText (expression : Text) : Text :=
  "console(".toList ++ ("log(".toList ++ expression ++ [')']) ++ [')']

/-- A line is no assignment when a character before all `=` is neither a word character nor a
    blank. -/
theorem assignment?_append {start : Text} {c : Char} (heq : '=' ∉ start) (hmem : c ∈ start)
    (hblank : isBlank c = false) (hword : isWordChar c = false) (text : Text) :
    assignment? (start ++ text) = none := by
  unfold assignment? assignmentParts?
  rw [Text.cutAt?_append heq]
  cases text.cutAt? '=' with
  | none => rfl
  | some parts =>
    obtain ⟨before, after⟩ := parts
    -- the first `=` stands after `start`, so the character is part of what would be the name
    have hname : (start ++ before).trimEnd.isWord = false := by
      have hmem' := Text.mem_trimEnd hblank (List.mem_append_left before hmem)
      rw [Text.isWord, Bool.and_eq_false_iff]
      refine .inr (List.all_eq_false.mpr ⟨c, hmem', ?_⟩)
      simp [hword]
    simp [hname]

/-- An expression is what is left of it after trimming, unless it is blank. -/
theorem nonBlank?_of_not_blank {expression : Text} (h : expression.allBlank = false) :
    nonBlank? expression = some expression.trim := by
  have hne : expression.trim.isEmpty = false := by simpa using Text.trim_ne_nil h
  simp [nonBlank?, hne]

/-- Both spellings are lines of a listing. -/
theorem isNormal_dottedText {expression : Text} (h : '\n' ∉ expression) :
    Listing.IsNormal (dottedText expression) := by
  refine Listing.isNormal_of_ends ("onsole.log(".toList ++ expression) rfl rfl ?_
  exact List.not_mem_append (by decide) h

theorem isNormal_nestedText {expression : Text} (h : '\n' ∉ expression) :
    Listing.IsNormal (nestedText expression) := by
  refine Listing.isNormal_of_ends
    ("onsole(".toList ++ ("log(".toList ++ expression ++ [')'])) rfl rfl ?_
  exact List.not_mem_append (by decide)
    (List.not_mem_append (List.not_mem_append (by decide) h) (by decide))

/-- The nested spelling is a call by its shape, with the inner call as its argument. -/
theorem callShape?_nestedText (expression : Text) :
    (nestedText expression).callShape? =
      some ("console".toList, "log(".toList ++ expression ++ [')']) := by
  have hspan : (nestedText expression).spanWord =
      ("console".toList, '(' :: ("log(".toList ++ expression ++ [')'] ++ [')'])) := rfl
  have hopen : ∀ rest, Text.openParen? ('(' :: rest) = some rest := fun _ => rfl
  unfold Text.callShape?
  rw [hspan]
  simp only [hopen, Option.bind_eq_bind, Option.bind_some, Text.stripEnd?_append]
  rfl

section
variable {expression : Text} (h : expression.allBlank = false)
include h

theorem dottedOutput?_dottedText :
    dottedOutput? (dottedText expression) = some (.output expression.trim) := by
  have hstart : Text.stripStart? "console.log(".toList (dottedText expression) =
      some (expression ++ [')']) := rfl
  unfold dottedOutput? dottedLogArgument?
  simp only [hstart, Option.bind_eq_bind, Option.bind_some, Text.stripEnd?_append,
    nonBlank?_of_not_blank h, Option.map_some]

/-- The closing parenthesis that is taken away is the last one, not one of the expression. -/
theorem logArgument?_append :
    logArgument? ("log(".toList ++ expression ++ [')']) = some expression.trim := by
  have hstart : Text.stripStart? "log(".toList ("log(".toList ++ expression ++ [')']) =
      some (expression ++ [')']) := rfl
  unfold logArgument?
  simp only [hstart, Option.bind_eq_bind, Option.bind_some, Text.dropEnd_append,
    nonBlank?_of_not_blank h]

theorem nestedOutput?_nestedText :
    nestedOutput? (nestedText expression) = some (.output expression.trim) := by
  unfold nestedOutput?
  rw [callShape?_nestedText, Option.bind_eq_bind, Option.bind_some]
  dsimp only
  rw [if_pos rfl, logArgument?_append h, Option.map_some]

/-- A dotted name is never that of a call, whatever functions are declared. -/
theorem ofLine_dottedText (table : DeclarationTable) :
    ofLine table (dottedText expression) = .output expression.trim := by
  have hassignment : assignment? (dottedText expression) = none := by
    unfold dottedText
    rw [List.append_assoc]
    exact assignment?_append (c := '.') (by decide) (by decide) rfl rfl _
  -- the first word ends at the dot, where a parenthesis is missing
  have hnested : nestedOutput? (dottedText expression) = none := rfl
  have hcall : call? table (dottedText expression) = none := rfl
  unfold ofLine
  rw [hassignment, hnested, hcall, dottedOutput?_dottedText h]
  rfl

/-- Nested output is tried before calls, so that a function of the same name makes no difference. -/
theorem ofLine_nestedText (table : DeclarationTable) :
    ofLine table (nestedText expression) = .output expression.trim := by
  have hassignment : assignment? (nestedText expression) = none := by
    unfold nestedText
    rw [List.append_assoc]
    exact assignment?_append (c := '(') (by decide) (by decide) rfl rfl _
  unfold ofLine
  rw [hassignment, nestedOutput?_nestedText h]
  rfl

/-- The parentheses around the expression have no braces and open no quotation. -/
theorem alike_spellings : (dottedText expression).Alike (nestedText expression) where
  balance := by
    unfold dottedText nestedText
    rw [Text.braceBalance_between rfl rfl rfl, Text.braceBalance_between rfl rfl rfl,
      Text.braceBalance_between rfl rfl rfl]
  header := rfl
  opening := iff_of_false (fun h => nomatch congrArg List.head? h)
    (fun h => nomatch congrArg List.head? h)
  closing := iff_of_false (fun h => nomatch congrArg List.head? h)
    (fun h => nomatch congrArg List.head? h)
  statement table := by rw [ofLine_dottedText h, ofLine_nestedText h]

end

end Statement

/-! ### Scripts -/

/-- A script runs in the same way whichever of the two spellings stands in a line, among any others:
    the declarations are the same, bodies aside, or the same fault is found; and so are the
    snapshots, times aside, and what is passed on to a sink. -/
theorem Recording.output_spellings_interchange (settings : Settings) (clock clock' : Nat → Instant)
    (before after : List Text) (expression : Text) (hblank : expression.allBlank = false)
    (hbreak : '\n' ∉ expression) (hlines : ∀ line ∈ before ++ after, Listing.IsNormal line) :
    let listing : Listing := ⟨before ++ Statement.dottedText expression :: after⟩
    let listing' : Listing := ⟨before ++ Statement.nestedText expression :: after⟩
    (DeclarationTable.ofListing listing).map DeclarationTable.outline =
        (DeclarationTable.ofListing listing').map DeclarationTable.outline ∧
      Listing.ofText listing.text = listing ∧ Listing.ofText listing'.text = listing' ∧
      ∀ source source', Listing.ofText source = listing → Listing.ofText source' = listing' →
        (ofSource settings clock source).history.snapshots.map Snapshot.untimed =
            (ofSource settings clock' source').history.snapshots.map Snapshot.untimed ∧
          ∀ (m : Type → Type) [Monad m] [LawfulMonad m] (sink : Text → m Unit),
            (fun r => r.history.snapshots.map Snapshot.untimed) <$>
              ofSourceWith sink settings clock source =
              (fun r => r.history.snapshots.map Snapshot.untimed) <$>
                ofSourceWith sink settings clock' source' := by
  intro listing listing'
  have halike : List.Forall₂ Text.Alike listing.lines listing'.lines := by
    have hrefl : ∀ lines, List.Forall₂ Text.Alike lines lines := fun lines =>
      List.forall₂_same.mpr fun line _ => Text.Alike.refl line
    exact List.rel_append (hrefl before) (.cons (Statement.alike_spellings hblank) (hrefl after))
  have hnormal : ∀ {line}, Listing.IsNormal line →
      ∀ other ∈ before ++ line :: after, Listing.IsNormal other := by
    intro line hline other hmem
    rcases List.mem_append.mp hmem with hmem | hmem
    · exact hlines other (List.mem_append_left after hmem)
    · rcases List.mem_cons.mp hmem with rfl | hmem
      · exact hline
      · exact hlines other (List.mem_append_right before hmem)
  refine ⟨DeclarationTable.ofListing_outline halike, Listing.ofText_text (hnormal ?_),
    Listing.ofText_text (hnormal ?_), ?_⟩
  · exact Statement.isNormal_dottedText hbreak
  · exact Statement.isNormal_nestedText hbreak
  · intro source source' hsource hsource'
    have hsources : List.Forall₂ Text.Alike (Listing.ofText source).lines
        (Listing.ofText source').lines := by
      rw [hsource, hsource']
      exact halike
    exact ⟨snapshots_of_alike hsources clock clock', fun m _ _ sink =>
      ofSourceWith_of_alike hsources sink clock clock'⟩

/-- The line stands in the body of a function `console`, and its expression has a quoted brace, `=`,
    a parenthesis that is not closed and a comma. -/
theorem Recording.output_spellings_interchange_in_console :
    let source : Text :=
      "function console(a) \x7b\nconsole.log('\x7d = (' + \",\")\n\x7d\nconsole(1)"
    let source' : Text :=
      "function console(a) \x7b\nconsole(log('\x7d = (' + \",\"))\n\x7d\nconsole(1)"
    let sink : Text → StateM (List Text) Unit := fun text => modify (· ++ [text])
    let record := fun source => (fun r : Recording => r.history.snapshots.map Snapshot.untimed) <$>
      ofSourceWith sink .default (fun _ => .epoch) source
    ((record source).run []).2 = ["\x7d = (,".toList] ∧ ((record source).run []).1.length = 3 ∧
      record source = record source' := by
  intro source source' sink record
  have hspellings := output_spellings_interchange .default (fun _ => .epoch) (fun _ => .epoch)
    ["function console(a) \x7b"] ["\x7d", "console(1)"] "'\x7d = (' + \",\""
    (by decide +kernel) (by decide +kernel) (by decide +kernel)
  have hruns := hspellings.2.2.2 source source' (by decide +kernel) (by decide +kernel)
  exact ⟨by decide +kernel, by decide +kernel, hruns.2 (StateM (List Text)) sink⟩

end Stepwise
