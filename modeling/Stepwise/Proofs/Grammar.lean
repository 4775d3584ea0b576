import Stepwise.Proofs.Declarations
import Stepwise.Proofs.Layout
import Stepwise.Proofs.Scanning

/-!
# The forms of lines

What a line does is told by its form: how it is put together from a name or a keyword, blanks, an
operator or parentheses, and any texts. A line may have several forms, and the first one in a fixed
order counts.

- `callShape?_eq_some_iff`, `groupShape?_eq_some_iff` and `assignmentParts?_eq_some_iff`: what a
  line is cut into is what it can be put together from,
- `Form` are the forms with their parts, under given declarations; `Form.line` is the line of a
  form, `Form.Says` what it means, and `Form.place` its place in the order,
- `Form.exists_read` and `exists_form_of_read`: the readers of statements, in their order, read the
  lines of the forms of the same place and no others,
- `first_form_counts`: so the statement of a line is that of its first form, and the parts are
  determined by the line.
-/

namespace Stepwise

namespace Text

variable {text name inner rest : Text}

/-! ### Runs of characters -/

theorem isWord_iff : text.isWord = true ↔ text ≠ [] ∧ ∀ c ∈ text, isWordChar c = true := by
  rw [isWord, Bool.and_eq_true, List.all_eq_true, Bool.not_eq_true', List.isEmpty_eq_false_iff]

theorem isWordChar_of_isBlank {c : Char} (h : isBlank c = true) : isWordChar c = false := by
  by_contra hword
  rw [Bool.not_eq_false] at hword
  rw [isBlank_of_isWordChar hword] at h
  cases h

/-- A run of characters ends where one that is not of its kind begins. -/
theorem takeWhile_run {p : Char → Bool} {run : Text} (hrun : ∀ c ∈ run, p c = true)
    (hrest : ∀ c, rest.head? = some c → p c = false) :
    (run ++ rest).takeWhile p = run ∧ (run ++ rest).dropWhile p = rest := by
  rw [List.takeWhile_append_of_pos hrun, List.dropWhile_append_of_pos hrun]
  cases rest with
  | nil => exact ⟨List.append_nil run, rfl⟩
  | cons c rest =>
    have hc : p c = false := hrest c rfl
    rw [List.takeWhile_cons, List.dropWhile_cons, hc]
    exact ⟨List.append_nil run, rfl⟩

/-- Blanks and a parenthesis do not begin with a word character. -/
theorem isWordChar_head?_gap {gap : Text} (hgap : gap.allBlank = true) (rest : Text) :
    ∀ c, (gap ++ '(' :: rest).head? = some c → isWordChar c = false := by
  intro c hc
  cases gap with
  | nil =>
    cases hc
    rfl
  | cons blank gap =>
    cases hc
    exact isWordChar_of_isBlank (List.all_eq_true.mp hgap c List.mem_cons_self)

/-- A text is what is left of it after trimming at the end, and blanks. -/
theorem exists_trimEnd_append (text : Text) :
    ∃ blanks : Text, blanks.allBlank = true ∧ text = text.trimEnd ++ blanks := by
  refine ⟨(text.reverse.takeWhile isBlank).reverse, ?_, ?_⟩
  · rw [allBlank, List.all_reverse]
    exact List.all_takeWhile
  · rw [trimEnd, ← List.reverse_append, List.takeWhile_append_dropWhile, List.reverse_reverse]

/-- Trimming at the end takes away the blanks after the last other character. -/
theorem trimEnd_append_blank {last : Char} {blanks : Text} (hlast : isBlank last = false)
    (hblanks : blanks.allBlank = true) (text : Text) :
    (text ++ last :: blanks).trimEnd = text ++ [last] := by
  have hreverse : (text ++ last :: blanks).reverse = blanks.reverse ++ last :: text.reverse := by
    simp
  have hrun : (blanks.reverse ++ last :: text.reverse).dropWhile isBlank =
      last :: text.reverse := by
    refine (takeWhile_run (fun c hc => List.all_eq_true.mp hblanks c (List.mem_reverse.mp hc)) ?_).2
    intro c hc
    cases hc
    exact hlast
  rw [trimEnd, hreverse, hrun, List.reverse_cons, List.reverse_reverse]

/-- Words have no blanks at their ends. -/
theorem trimEnd_append_gap {gap : Text} (hname : name.isWord = true) (hgap : gap.allBlank = true) :
    (name ++ gap).trimEnd = name := by
  obtain ⟨hne, hword⟩ := isWord_iff.mp hname
  have hlast : isBlank (name.getLast hne) = false :=
    isBlank_of_isWordChar (hword _ (List.getLast_mem hne))
  have happend : name ++ gap = name.dropLast ++ name.getLast hne :: gap := by
    conv_lhs => rw [← List.dropLast_append_getLast hne]
    rw [List.append_assoc, List.singleton_append]
  rw [happend, trimEnd_append_blank hlast hgap, List.dropLast_append_getLast]

/-- A word and blanks have no `=`. -/
theorem eq_sign_not_mem {gap : Text} (hname : name.isWord = true) (hgap : gap.allBlank = true) :
    '=' ∉ name ++ gap := by
  rw [List.mem_append]
  rintro (hmem | hmem)
  · exact absurd ((isWord_iff.mp hname).2 _ hmem) (by decide)
  · exact absurd (List.all_eq_true.mp hgap _ hmem) (by decide)

/-! ### Cuts -/

theorem stripStart?_eq_some_iff {start : Text} :
    stripStart? start text = some rest ↔ text = start ++ rest :=
  List.isPrefixOf?_eq_some_iff_append_eq.trans eq_comm

theorem stripEnd?_eq_some_iff {last : Char} :
    stripEnd? last text = some inner ↔ text = inner ++ [last] := by
  constructor
  · intro h
    unfold stripEnd? at h
    split at h
    · rename_i hlast
      cases h
      exact (List.dropLast_append_getLast? _ hlast).symm
    · cases h
  · rintro rfl
    exact stripEnd?_append last inner

/-- A text is cut at the first separator. -/
theorem cutAt?_eq_some_iff {sep : Char} {before after : Text} :
    text.cutAt? sep = some (before, after) ↔ text = before ++ sep :: after ∧ sep ∉ before := by
  constructor
  · exact cutAt?_eq_some
  · rintro ⟨rfl, hbefore⟩
    rw [cutAt?_append hbefore, cutAt?, if_pos rfl, Option.map_some]
    exact congrArg (fun start => some (start, after)) (List.append_nil before)

theorem openParen?_eq_some_iff :
    openParen? text = some rest ↔ ∃ gap : Text, gap.allBlank = true ∧
      text = gap ++ '(' :: rest := by
  unfold openParen?
  rw [stripStart?_eq_some_iff]
  constructor
  · intro h
    refine ⟨text.takeWhile isBlank, List.all_takeWhile, ?_⟩
    have hrest : text.dropWhile isBlank = '(' :: rest := h
    rw [← hrest, List.takeWhile_append_dropWhile]
  · rintro ⟨gap, hgap, rfl⟩
    refine (takeWhile_run (List.all_eq_true.mp hgap) ?_).2
    intro c hc
    cases hc
    rfl

/-- A line has the shape of a call when it is put together from a word, blanks, and a text in
    parentheses. -/
theorem callShape?_eq_some_iff {line : Text} :
    line.callShape? = some (name, inner) ↔
      name.isWord = true ∧ ∃ gap : Text, gap.allBlank = true ∧
        line = name ++ gap ++ '(' :: inner ++ [')'] := by
  have hsplit := List.takeWhile_append_dropWhile (p := isWordChar) (l := line)
  constructor
  · intro h
    unfold callShape? at h
    rw [show line.spanWord = (line.takeWhile isWordChar, line.dropWhile isWordChar) from rfl] at h
    simp only at h
    split at h
    · cases h
    · rename_i hne
      obtain ⟨opened, hopened, h⟩ := Option.bind_eq_some_iff.mp h
      obtain ⟨inner', hinner, h⟩ := Option.bind_eq_some_iff.mp h
      cases h
      obtain ⟨gap, hgap, hrest⟩ := openParen?_eq_some_iff.mp hopened
      have hword : Text.isWord (line.takeWhile isWordChar) = true := by
        refine isWord_iff.mpr ⟨?_, List.all_eq_true.mp List.all_takeWhile⟩
        simpa using hne
      refine ⟨hword, gap, hgap, ?_⟩
      conv_lhs => rw [← hsplit]
      rw [hrest, stripEnd?_eq_some_iff.mp hinner]
      simp
  · rintro ⟨hname, gap, hgap, rfl⟩
    obtain ⟨hne, hword⟩ := isWord_iff.mp hname
    have hline : name ++ gap ++ '(' :: inner ++ [')'] =
        name ++ (gap ++ '(' :: (inner ++ [')'])) := by simp
    obtain ⟨htake, hdrop⟩ := takeWhile_run hword
      (isWordChar_head?_gap hgap (inner ++ [')']))
    have hopen : openParen? (gap ++ '(' :: (inner ++ [')'])) = some (inner ++ [')']) :=
      openParen?_eq_some_iff.mpr ⟨gap, hgap, rfl⟩
    have hempty : name.isEmpty = false := by simpa using hne
    unfold callShape?
    rw [hline]
    simp only [spanWord, htake, hdrop, hempty, hopen, Option.bind_eq_bind, Option.bind_some,
      stripEnd?_append, Bool.false_eq_true, if_false]
    rfl

/-! ### Groups -/

/-- What follows the closing parenthesis of a group: nothing, or blanks and an opening brace. -/
def closing (brace : Option Text) : Text := brace.elim [] (· ++ ['{'])

/-- A keyword, blanks, and a text in parentheses, with or without a brace after it. -/
def groupText (keyword gap inner : Text) (brace : Option Text) : Text :=
  keyword ++ gap ++ '(' :: inner ++ ')' :: closing brace

theorem closing_injective {brace brace' : Option Text} (h : closing brace = closing brace') :
    brace = brace' := by
  have hne : ∀ blanks : Text, blanks ++ ['{'] ≠ [] := fun _ =>
    List.append_ne_nil_of_right_ne_nil _ (List.cons_ne_nil _ _)
  cases brace with
  | none =>
    cases brace' with
    | none => rfl
    | some blanks' => exact absurd h.symm (hne blanks')
  | some blanks =>
    cases brace' with
    | none => exact absurd h (hne blanks)
    | some blanks' => exact congrArg some (List.append_cancel_right h)

/-- A brace at the end is that of the group. -/
theorem stripEnd?_closing (inner : Text) (brace : Option Text) :
    stripEnd? '{' (inner ++ ')' :: closing brace) =
      brace.map fun blanks => inner ++ ')' :: blanks := by
  cases brace with
  | none =>
    unfold stripEnd? closing
    rw [Option.elim_none, List.getLast?_concat]
    rfl
  | some blanks =>
    rw [Option.map_some, stripEnd?_eq_some_iff]
    simp [closing]

/-- A line has the shape of a group when it is put together as one, around a text that is not
    blank. -/
theorem groupShape?_eq_some_iff {keyword line : Text} :
    groupShape? keyword line = some inner ↔
      inner.allBlank = false ∧ ∃ (gap : Text) (brace : Option Text), gap.allBlank = true ∧
        (∀ blanks ∈ brace, Text.allBlank blanks = true) ∧
          line = groupText keyword gap inner brace := by
  have hgroup : ∀ (gap : Text) (brace : Option Text),
      groupText keyword gap inner brace =
        keyword ++ (gap ++ '(' :: (inner ++ ')' :: closing brace)) := by
    intro gap brace
    simp [groupText]
  unfold groupShape?
  constructor
  · intro h
    obtain ⟨rest, hrest, h⟩ := Option.bind_eq_some_iff.mp h
    obtain ⟨opened, hopened, h⟩ := Option.bind_eq_some_iff.mp h
    obtain ⟨inner', hinner, h⟩ := Option.bind_eq_some_iff.mp h
    split at h
    · cases h
    · rename_i hblank
      cases h
      obtain ⟨gap, hgap, rfl⟩ := openParen?_eq_some_iff.mp hopened
      refine ⟨by simpa using hblank, ?_⟩
      -- a brace is looked for first, and then the parenthesis before it and its blanks
      split at hinner
      · rename_i head hhead
        obtain ⟨blanks, hblanks, hsplit⟩ := exists_trimEnd_append head
        refine ⟨gap, some blanks, hgap, ?_, ?_⟩
        · intro blanks' hmem
          cases hmem
          exact hblanks
        · rw [hgroup, stripStart?_eq_some_iff.mp hrest, stripEnd?_eq_some_iff.mp hhead, hsplit,
            stripEnd?_eq_some_iff.mp hinner]
          simp [closing]
      · refine ⟨gap, none, hgap, by simp, ?_⟩
        rw [hgroup, stripStart?_eq_some_iff.mp hrest, stripEnd?_eq_some_iff.mp hinner]
        rfl
  · rintro ⟨hblank, gap, brace, hgap, hbrace, hline⟩
    rw [hgroup] at hline
    refine Option.bind_eq_some_iff.mpr ⟨_, stripStart?_eq_some_iff.mpr hline, ?_⟩
    refine Option.bind_eq_some_iff.mpr ⟨_, openParen?_eq_some_iff.mpr ⟨gap, hgap, rfl⟩, ?_⟩
    refine Option.bind_eq_some_iff.mpr ⟨inner, ?_, ?_⟩
    · rw [stripEnd?_closing]
      cases brace with
      | none => exact stripEnd?_append ')' inner
      | some blanks =>
        show stripEnd? ')' (trimEnd (inner ++ ')' :: blanks)) = some inner
        rw [trimEnd_append_blank rfl (hbrace blanks rfl), stripEnd?_append]
    · rw [hblank]
      rfl

/-! ### Parts are determined by the text -/

section unique
variable {gap gap' : Text} (hgap : gap.allBlank = true) (hgap' : gap'.allBlank = true)
include hgap hgap'

/-- Blanks end at the parenthesis. -/
theorem gap_unique {rest' : Text} (h : gap ++ '(' :: rest = gap' ++ '(' :: rest') :
    gap = gap' ∧ rest = rest' := by
  have hstop : ∀ (rest : Text) c, ('(' :: rest).head? = some c → isBlank c = false := by
    intro rest c hc
    cases hc
    rfl
  have hsame : gap = gap' := by
    rw [← (takeWhile_run (List.all_eq_true.mp hgap) (hstop rest)).1, h,
      (takeWhile_run (List.all_eq_true.mp hgap') (hstop rest')).1]
  subst hsame
  exact ⟨rfl, List.cons_injective (List.append_cancel_left h)⟩

theorem assignmentText_unique {name' right right' : Text} (hname : name.isWord = true)
    (hname' : name'.isWord = true)
    (h : name ++ gap ++ '=' :: right = name' ++ gap' ++ '=' :: right') :
    name = name' ∧ gap = gap' ∧ right = right' := by
  have hcut := cutAt?_eq_some_iff.mpr ⟨h, eq_sign_not_mem hname' hgap'⟩
  rw [cutAt?_eq_some_iff.mpr ⟨rfl, eq_sign_not_mem hname hgap⟩, Option.some.injEq, Prod.mk.injEq]
    at hcut
  obtain ⟨hstart, rfl⟩ := hcut
  have hsame : name = name' := by
    rw [← trimEnd_append_gap hname hgap, hstart, trimEnd_append_gap hname' hgap']
  subst hsame
  exact ⟨rfl, List.append_cancel_left hstart, rfl⟩

theorem callText_unique {name' inner' : Text} (hname : name.isWord = true)
    (hname' : name'.isWord = true)
    (h : name ++ gap ++ '(' :: inner ++ [')'] = name' ++ gap' ++ '(' :: inner' ++ [')']) :
    name = name' ∧ gap = gap' ∧ inner = inner' := by
  have hshape := callShape?_eq_some_iff.mpr ⟨hname', gap', hgap', h⟩
  rw [callShape?_eq_some_iff.mpr ⟨hname, gap, hgap, rfl⟩, Option.some.injEq, Prod.mk.injEq]
    at hshape
  obtain ⟨rfl, rfl⟩ := hshape
  simp only [List.append_assoc, List.append_cancel_left_eq] at h
  exact ⟨rfl, (gap_unique hgap hgap' h).1, rfl⟩

theorem groupText_unique {keyword inner' : Text} {brace brace' : Option Text}
    (hinner : inner.allBlank = false) (hinner' : inner'.allBlank = false)
    (hbrace : ∀ blanks ∈ brace, Text.allBlank blanks = true)
    (hbrace' : ∀ blanks ∈ brace', Text.allBlank blanks = true)
    (h : groupText keyword gap inner brace = groupText keyword gap' inner' brace') :
    gap = gap' ∧ inner = inner' ∧ brace = brace' := by
  have hshape := groupShape?_eq_some_iff.mpr ⟨hinner', gap', brace', hgap', hbrace', h⟩
  rw [groupShape?_eq_some_iff.mpr ⟨hinner, gap, brace, hgap, hbrace, rfl⟩, Option.some.injEq]
    at hshape
  subst hshape
  simp only [groupText, List.append_assoc, List.append_cancel_left_eq] at h
  obtain ⟨rfl, hrest⟩ := gap_unique hgap hgap' h
  exact ⟨rfl, rfl, closing_injective (List.cons_injective (List.append_cancel_left hrest))⟩

end unique

/-! ### Arguments -/

/-- The arguments that stand in parentheses: none in a blank text, and otherwise the pieces between
    the commas at top level, without the blanks around them. -/
def HasArguments (inner : Text) (arguments : List Text) : Prop :=
  (inner.allBlank = true ∧ arguments = []) ∨
    (inner.allBlank = false ∧ ∃ pieces, inner.SplitsInto pieces ∧ arguments = pieces.map trim)

theorem hasArguments_iff {arguments : List Text} :
    inner.HasArguments arguments ↔ Statement.splitArguments inner = arguments := by
  unfold HasArguments Statement.splitArguments
  by_cases hblank : inner.allBlank = true
  · simp [hblank, eq_comm]
  · simp [hblank, splitsInto_iff, eq_comm]

end Text

/-! ### Declared names -/

/-- The name of a header is a word. -/
theorem Header.isWord_name {line : Text} {header : Header} (h : ofLine? line = some header) :
    header.name.isWord = true := by
  obtain ⟨rest, _, h⟩ := Option.bind_eq_some_iff.mp h
  obtain ⟨first, _, h⟩ := Option.bind_eq_some_iff.mp h
  split at h
  · cases h
  · rw [show rest.trimStart.spanWord =
      (rest.trimStart.takeWhile isWordChar, rest.trimStart.dropWhile isWordChar) from rfl] at h
    simp only at h
    split at h
    · cases h
    · rename_i hne
      obtain ⟨opened, _, h⟩ := Option.bind_eq_some_iff.mp h
      obtain ⟨parts, _, h⟩ := Option.bind_eq_some_iff.mp h
      obtain ⟨opensBody, _, h⟩ := Option.bind_eq_some_iff.mp h
      cases h
      refine Text.isWord_iff.mpr ⟨?_, List.all_eq_true.mp List.all_takeWhile⟩
      simpa using hne

/-- All declared names are words. -/
theorem DeclarationTable.isWord_of_contains {listing : Listing} {table : DeclarationTable}
    (hbuild : ofListing listing = .ok table) {name : Text} (h : table.contains name = true) :
    name.isWord = true := by
  obtain ⟨d, hd⟩ := Option.isSome_iff_exists.mp h
  have hcollects := Listing.collects_of_ofListing hbuild
  obtain ⟨hmem, rfl⟩ := (get?_eq_some_iff hcollects.nodup name d).mp hd
  obtain ⟨number, header, hlast, last, _, rfl⟩ := (hcollects.mem_iff d).mp hmem
  obtain ⟨line, _, hheader⟩ := Option.bind_eq_some_iff.mp hlast.2.1
  exact Header.isWord_name hheader

namespace Statement

theorem nonBlank?_eq_some_iff {text right : Text} :
    nonBlank? text = some right ↔ text.trim ≠ [] ∧ right = text.trim := by
  unfold nonBlank?
  by_cases hempty : text.trim = []
  · simp [hempty]
  · have hnonempty : text.trim.isEmpty = false := by simpa using hempty
    rw [if_neg (by simp [hnonempty]), Option.some.injEq]
    exact ⟨fun h => ⟨hempty, h.symm⟩, fun h => h.2.symm⟩

/-- A line is cut as an assignment when it is put together from a word, blanks, `=` and a text that
    does not begin with another `=` and is not blank. -/
theorem assignmentParts?_eq_some_iff {line name right : Text} :
    assignmentParts? line = some (name, right) ↔
      ∃ gap after : Text, name.isWord = true ∧ gap.allBlank = true ∧ after.head? ≠ some '=' ∧
        after.trim ≠ [] ∧
        right = after.trim ∧ line = name ++ gap ++ '=' :: after := by
  constructor
  · intro h
    obtain ⟨⟨before, after⟩, hcut, h⟩ := Option.bind_eq_some_iff.mp h
    simp only at h
    split at h
    · cases h
    · rename_i hguard
      rw [Bool.or_eq_true, not_or, decide_eq_true_eq, Bool.not_eq_true, Bool.not_eq_false']
        at hguard
      obtain ⟨right', hright, h⟩ := Option.bind_eq_some_iff.mp h
      cases h
      obtain ⟨hne, rfl⟩ := nonBlank?_eq_some_iff.mp hright
      obtain ⟨gap, hgap, hbefore⟩ := Text.exists_trimEnd_append before
      refine ⟨gap, after, hguard.2, hgap, hguard.1, hne, rfl, ?_⟩
      rw [← hbefore]
      exact (Text.cutAt?_eq_some_iff.mp hcut).1
  · rintro ⟨gap, after, hname, hgap, hafter, hne, rfl, rfl⟩
    have hfirst := Text.eq_sign_not_mem hname hgap
    refine Option.bind_eq_some_iff.mpr
      ⟨(name ++ gap, after), Text.cutAt?_eq_some_iff.mpr ⟨rfl, hfirst⟩, ?_⟩
    simp only [Text.trimEnd_append_gap hname hgap, hname, hafter, decide_false, Bool.not_true,
      Bool.or_false, Bool.false_eq_true, if_false]
    exact Option.bind_eq_some_iff.mpr ⟨_, nonBlank?_eq_some_iff.mpr ⟨hne, rfl⟩, rfl⟩

section readers
variable {line : Text} {statement : Statement}

theorem assignment?_eq_some_iff :
    assignment? line = some statement ↔
      ∃ name gap right : Text, name.isWord = true ∧ gap.allBlank = true ∧ right.head? ≠ some '=' ∧
        right.trim ≠ [] ∧ line = name ++ gap ++ '=' :: right ∧
          statement = .assignment name right.trim := by
  unfold assignment?
  rw [Option.map_eq_some_iff]
  constructor
  · rintro ⟨⟨name, right⟩, hparts, rfl⟩
    obtain ⟨gap, after, hname, hgap, hfirst, hright, rfl, hline⟩ :=
      assignmentParts?_eq_some_iff.mp hparts
    exact ⟨name, gap, after, hname, hgap, hfirst, hright, hline, rfl⟩
  · rintro ⟨name, gap, right, hname, hgap, hfirst, hright, hline, rfl⟩
    exact ⟨(name, right.trim),
      assignmentParts?_eq_some_iff.mpr ⟨gap, right, hname, hgap, hfirst, hright, rfl, hline⟩, rfl⟩

theorem nestedOutput?_eq_some_iff :
    nestedOutput? line = some statement ↔
      ∃ gap inner : Text, gap.allBlank = true ∧ (inner.dropEnd ')').trim ≠ [] ∧
        line = "console".toList ++ gap ++ '(' :: ("log(".toList ++ inner) ++ [')'] ∧
        statement = .output (inner.dropEnd ')').trim := by
  unfold nestedOutput? logArgument?
  constructor
  · intro h
    obtain ⟨⟨name, arguments⟩, hshape, h⟩ := Option.bind_eq_some_iff.mp h
    obtain ⟨_, gap, hgap, hcall⟩ := Text.callShape?_eq_some_iff.mp hshape
    simp only at h
    split at h
    · rename_i hname
      obtain ⟨expression, hexpression, rfl⟩ := Option.map_eq_some_iff.mp h
      obtain ⟨inner, hinner, hexpression⟩ := Option.bind_eq_some_iff.mp hexpression
      obtain ⟨hne, rfl⟩ := nonBlank?_eq_some_iff.mp hexpression
      refine ⟨gap, inner, hgap, hne, ?_, rfl⟩
      rw [hcall, hname, Text.stripStart?_eq_some_iff.mp hinner]
    · cases h
  · rintro ⟨gap, inner, hgap, hne, rfl, rfl⟩
    refine Option.bind_eq_some_iff.mpr
      ⟨_, Text.callShape?_eq_some_iff.mpr ⟨rfl, gap, hgap, rfl⟩, ?_⟩
    simp only [if_true]
    refine Option.map_eq_some_iff.mpr ⟨_, Option.bind_eq_some_iff.mpr ⟨inner, ?_, ?_⟩, rfl⟩
    · exact Text.stripStart?_eq_some_iff.mpr rfl
    · exact nonBlank?_eq_some_iff.mpr ⟨hne, rfl⟩

theorem call?_eq_some_iff {table : DeclarationTable} :
    call? table line = some statement ↔
      ∃ name gap inner : Text, name.isWord = true ∧ table.contains name = true ∧
        gap.allBlank = true ∧
        line = name ++ gap ++ '(' :: inner ++ [')'] ∧
          statement = .call name (splitArguments inner) := by
  unfold call?
  constructor
  · intro h
    obtain ⟨⟨name, inner⟩, hshape, h⟩ := Option.bind_eq_some_iff.mp h
    obtain ⟨hword, gap, hgap, hline⟩ := Text.callShape?_eq_some_iff.mp hshape
    simp only at h
    split at h
    · rename_i hname
      cases h
      exact ⟨name, gap, inner, hword, hname, hgap, hline, rfl⟩
    · cases h
  · rintro ⟨name, gap, inner, hword, hname, hgap, hline, rfl⟩
    refine Option.bind_eq_some_iff.mpr
      ⟨_, Text.callShape?_eq_some_iff.mpr ⟨hword, gap, hgap, hline⟩, ?_⟩
    simp only [hname, if_true]

theorem dottedOutput?_eq_some_iff :
    dottedOutput? line = some statement ↔
      ∃ inner : Text, inner.trim ≠ [] ∧ line = "console.log(".toList ++ inner ++ [')'] ∧
        statement = .output inner.trim := by
  unfold dottedOutput? dottedLogArgument?
  constructor
  · intro h
    obtain ⟨expression, hexpression, rfl⟩ := Option.map_eq_some_iff.mp h
    obtain ⟨rest, hrest, hexpression⟩ := Option.bind_eq_some_iff.mp hexpression
    obtain ⟨inner, hinner, hexpression⟩ := Option.bind_eq_some_iff.mp hexpression
    obtain ⟨hne, rfl⟩ := nonBlank?_eq_some_iff.mp hexpression
    refine ⟨inner, hne, ?_, rfl⟩
    rw [Text.stripStart?_eq_some_iff.mp hrest, Text.stripEnd?_eq_some_iff.mp hinner,
      List.append_assoc]
  · rintro ⟨inner, hne, rfl, rfl⟩
    refine Option.map_eq_some_iff.mpr ⟨_, Option.bind_eq_some_iff.mpr ⟨inner ++ [')'], ?_, ?_⟩, rfl⟩
    · rw [Text.stripStart?_eq_some_iff, List.append_assoc]
    · exact Option.bind_eq_some_iff.mpr
        ⟨inner, Text.stripEnd?_append ')' inner, nonBlank?_eq_some_iff.mpr ⟨hne, rfl⟩⟩

/-- Conditions and loop headers are groups with a keyword. -/
theorem group_eq_some_iff (keyword : Text) (f : Text → Statement) :
    (Text.groupShape? keyword line).map f = some statement ↔
      ∃ (gap inner : Text) (brace : Option Text), gap.allBlank = true ∧ inner.allBlank = false ∧
        (∀ blanks ∈ brace, Text.allBlank blanks = true) ∧
          line = Text.groupText keyword gap inner brace ∧
        statement = f inner := by
  rw [Option.map_eq_some_iff]
  constructor
  · rintro ⟨inner, hinner, rfl⟩
    obtain ⟨hblank, gap, brace, hgap, hbrace, hline⟩ := Text.groupShape?_eq_some_iff.mp hinner
    exact ⟨gap, inner, brace, hgap, hblank, hbrace, hline, rfl⟩
  · rintro ⟨gap, inner, brace, hgap, hblank, hbrace, hline, rfl⟩
    exact ⟨inner, Text.groupShape?_eq_some_iff.mpr ⟨hblank, gap, brace, hgap, hbrace, hline⟩, rfl⟩

end readers

/-! ### Forms -/

/-- The forms of lines, under given declarations, with the texts that a line of each form is put
    together from. A group has the blanks before its brace, if it has a brace. -/
inductive Form (table : DeclarationTable) where
  | assignment (name gap right : Text) (hname : name.isWord = true) (hgap : gap.allBlank = true)
    (hfirst : right.head? ≠ some '=') (hright : right.trim ≠ [])
  | nestedOutput (gap inner : Text) (hgap : gap.allBlank = true)
    (hinner : (inner.dropEnd ')').trim ≠ [])
  | call (name gap inner : Text) (hname : table.contains name = true) (hgap : gap.allBlank = true)
  | dottedOutput (inner : Text) (hinner : inner.trim ≠ [])
  | condition (gap inner : Text) (brace : Option Text) (hgap : gap.allBlank = true)
    (hinner : inner.allBlank = false) (hbrace : ∀ blanks ∈ brace, Text.allBlank blanks = true)
  | loop (gap inner : Text) (brace : Option Text) (hgap : gap.allBlank = true)
    (hinner : inner.allBlank = false) (hbrace : ∀ blanks ∈ brace, Text.allBlank blanks = true)

namespace Form

variable {table : DeclarationTable}

/-- The line that is put together from the parts. -/
def line : Form table → Text
  | assignment name gap right .. => name ++ gap ++ '=' :: right
  | nestedOutput gap inner .. => "console".toList ++ gap ++ '(' :: ("log(".toList ++ inner) ++ [')']
  | call name gap inner .. => name ++ gap ++ '(' :: inner ++ [')']
  | dottedOutput inner .. => "console.log(".toList ++ inner ++ [')']
  | condition gap inner brace .. => Text.groupText "if" gap inner brace
  | loop gap inner brace .. => Text.groupText "for" gap inner brace

/-- The statement of a line that is put together in this form. -/
def Says : Form table → Statement → Prop
  | assignment name _ right .., statement => statement = .assignment name right.trim
  | nestedOutput _ inner .., statement => statement = .output (inner.dropEnd ')').trim
  | call name _ inner .., statement =>
    ∃ arguments, inner.HasArguments arguments ∧ statement = .call name arguments
  | dottedOutput inner .., statement => statement = .output inner.trim
  | condition _ inner .., statement => statement = .condition inner.trim
  | loop _ inner .., statement => statement = .loop inner.trim

/-- The place of the form in the order in which forms are tried. -/
def place : Form table → Nat
  | assignment .. => 0
  | nestedOutput .. => 1
  | call .. => 2
  | dottedOutput .. => 3
  | condition .. => 4
  | loop .. => 5

end Form

/-- The readers of statements, in the order in which they are tried. -/
def readers (table : DeclarationTable) : List (Text → Option Statement) :=
  [assignment?, nestedOutput?, call? table, dottedOutput?, condition?, loop?]

theorem ofLine_eq_findSome? (table : DeclarationTable) (line : Text) :
    ofLine table line =
      ((readers table).findSome? fun read => read line).getD (.expression line) := by
  have hcons : ∀ (read : Text → Option Statement) (rest : List (Text → Option Statement)),
      ((read :: rest).findSome? fun read => read line) =
        (read line).or (rest.findSome? fun read => read line) := by
    intro read rest
    rw [List.findSome?_cons]
    cases read line <;> rfl
  unfold ofLine readers
  simp only [hcons, List.findSome?_nil, Option.or_none, Option.orElse_eq_orElse,
    Option.orElse_eq_or]

section forms
variable {listing : Listing} {table : DeclarationTable} {line : Text} {statement : Statement}

/-- The reader at the place of a form reads its line. -/
theorem Form.exists_read (hbuild : DeclarationTable.ofListing listing = .ok table)
    {form : Form table} (h : form.Says statement) :
    ∃ read, (readers table)[form.place]? = some read ∧ read form.line = some statement := by
  cases form with
  | assignment name gap right hname hgap hfirst hright =>
    refine ⟨assignment?, rfl, assignment?_eq_some_iff.mpr ?_⟩
    exact ⟨name, gap, right, hname, hgap, hfirst, hright, rfl, h⟩
  | nestedOutput gap inner hgap hinner =>
    exact ⟨nestedOutput?, rfl, nestedOutput?_eq_some_iff.mpr ⟨gap, inner, hgap, hinner, rfl, h⟩⟩
  | call name gap inner hname hgap =>
    obtain ⟨arguments, harguments, rfl⟩ := h
    have hword := DeclarationTable.isWord_of_contains hbuild hname
    refine ⟨call? table, rfl, call?_eq_some_iff.mpr ⟨name, gap, inner, hword, hname, hgap, rfl, ?_⟩⟩
    rw [Text.hasArguments_iff.mp harguments]
  | dottedOutput inner hinner =>
    exact ⟨dottedOutput?, rfl, dottedOutput?_eq_some_iff.mpr ⟨inner, hinner, rfl, h⟩⟩
  | condition gap inner brace hgap hinner hbrace =>
    exact ⟨condition?, rfl,
      (group_eq_some_iff _ _).mpr ⟨gap, inner, brace, hgap, hinner, hbrace, rfl, h⟩⟩
  | loop gap inner brace hgap hinner hbrace =>
    exact ⟨loop?, rfl,
      (group_eq_some_iff _ _).mpr ⟨gap, inner, brace, hgap, hinner, hbrace, rfl, h⟩⟩

/-- What a reader reads is a line of a form at its place. -/
theorem exists_form_of_read {k : Nat} {read : Text → Option Statement}
    (hread : (readers table)[k]? = some read) (h : read line = some statement) :
    ∃ form : Form table, form.place = k ∧ form.line = line ∧ form.Says statement := by
  match k, hread with
  | 0, rfl =>
    obtain ⟨name, gap, right, hname, hgap, hfirst, hright, rfl, rfl⟩ := assignment?_eq_some_iff.mp h
    exact ⟨.assignment name gap right hname hgap hfirst hright, rfl, rfl, rfl⟩
  | 1, rfl =>
    obtain ⟨gap, inner, hgap, hinner, rfl, rfl⟩ := nestedOutput?_eq_some_iff.mp h
    exact ⟨.nestedOutput gap inner hgap hinner, rfl, rfl, rfl⟩
  | 2, rfl =>
    obtain ⟨name, gap, inner, _, hname, hgap, rfl, rfl⟩ := call?_eq_some_iff.mp h
    exact ⟨.call name gap inner hname hgap, rfl, rfl, _, Text.hasArguments_iff.mpr rfl, rfl⟩
  | 3, rfl =>
    obtain ⟨inner, hinner, rfl, rfl⟩ := dottedOutput?_eq_some_iff.mp h
    exact ⟨.dottedOutput inner hinner, rfl, rfl, rfl⟩
  | 4, rfl =>
    obtain ⟨gap, inner, brace, hgap, hinner, hbrace, rfl, rfl⟩ := (group_eq_some_iff _ _).mp h
    exact ⟨.condition gap inner brace hgap hinner hbrace, rfl, rfl, rfl⟩
  | 5, rfl =>
    obtain ⟨gap, inner, brace, hgap, hinner, hbrace, rfl, rfl⟩ := (group_eq_some_iff _ _).mp h
    exact ⟨.loop gap inner brace hgap hinner hbrace, rfl, rfl, rfl⟩
  | _ + 6, hread => cases hread

/-- The parts of a line are determined by its form. -/
theorem Form.unique (hbuild : DeclarationTable.ofListing listing = .ok table)
    {form form' : Form table} (hline : form.line = form'.line) (hplace : form.place = form'.place) :
    form = form' := by
  cases form with
  | assignment name gap right hname hgap hfirst hright =>
    cases form' with
    | assignment name' gap' right' hname' hgap' hfirst' hright' =>
      obtain ⟨rfl, rfl, rfl⟩ := Text.assignmentText_unique hgap hgap' hname hname' hline
      rfl
    | _ => cases hplace
  | nestedOutput gap inner hgap hinner =>
    cases form' with
    | nestedOutput gap' inner' hgap' hinner' =>
      obtain ⟨_, rfl, hinners⟩ := Text.callText_unique hgap hgap' rfl rfl hline
      obtain rfl : inner = inner' := List.append_cancel_left hinners
      rfl
    | _ => cases hplace
  | call name gap inner hname hgap =>
    cases form' with
    | call name' gap' inner' hname' hgap' =>
      have hword := DeclarationTable.isWord_of_contains hbuild hname
      have hword' := DeclarationTable.isWord_of_contains hbuild hname'
      obtain ⟨rfl, rfl, rfl⟩ := Text.callText_unique hgap hgap' hword hword' hline
      rfl
    | _ => cases hplace
  | dottedOutput inner hinner =>
    cases form' with
    | dottedOutput inner' hinner' =>
      obtain rfl : inner = inner' := List.append_cancel_left (List.append_cancel_right hline)
      rfl
    | _ => cases hplace
  | condition gap inner brace hgap hinner hbrace =>
    cases form' with
    | condition gap' inner' brace' hgap' hinner' hbrace' =>
      obtain ⟨rfl, rfl, rfl⟩ := Text.groupText_unique hgap hgap' hinner hinner' hbrace hbrace' hline
      rfl
    | _ => cases hplace
  | loop gap inner brace hgap hinner hbrace =>
    cases form' with
    | loop gap' inner' brace' hgap' hinner' hbrace' =>
      obtain ⟨rfl, rfl, rfl⟩ := Text.groupText_unique hgap hgap' hinner hinner' hbrace hbrace' hline
      rfl
    | _ => cases hplace

/-- Every form says something. -/
theorem Form.exists_statement (form : Form table) : ∃ statement, form.Says statement := by
  cases form with
  | call name gap inner hname hgap => exact ⟨_, _, Text.hasArguments_iff.mpr rfl, rfl⟩
  | _ => exact ⟨_, rfl⟩

/-- The form is the first one of its line. -/
def Form.IsFirst (form : Form table) : Prop :=
  ∀ other : Form table, other.line = form.line → form.place ≤ other.place

variable (hbuild : DeclarationTable.ofListing listing = .ok table)
include hbuild

/-- What is read first is what the first form of the line says. -/
theorem exists_form_of_findSome?
    (h : ((readers table).findSome? fun read => read line) = some statement) :
    ∃ form : Form table, form.line = line ∧ form.Says statement ∧ form.IsFirst := by
  obtain ⟨before, read, after, hreaders, hread, hnone⟩ := List.findSome?_eq_some_iff.mp h
  have hplace : (readers table)[before.length]? = some read := by
    rw [hreaders]
    simp
  obtain ⟨form, hform, rfl, hmeans⟩ := exists_form_of_read hplace hread
  refine ⟨form, rfl, hmeans, ?_⟩
  intro other hother
  by_contra hlt
  -- the reader of an earlier form would have read the line
  obtain ⟨statement', hmeans'⟩ := other.exists_statement
  obtain ⟨read', hread', hline⟩ := Form.exists_read hbuild hmeans'
  have hearlier : other.place < before.length := by omega
  rw [hreaders, List.getElem?_append_left hearlier] at hread'
  rw [hother, hnone read' (List.mem_of_getElem? hread')] at hline
  cases hline

/-- A line with a form is read. -/
theorem findSome?_readers_ne_none (form : Form table) :
    ((readers table).findSome? fun read => read form.line) ≠ none := by
  intro hnone
  obtain ⟨statement, hmeans⟩ := form.exists_statement
  obtain ⟨read, hread, hline⟩ := Form.exists_read hbuild hmeans
  rw [List.findSome?_eq_none_iff.mp hnone read (List.mem_of_getElem? hread)] at hline
  cases hline

/-- Two first forms of a line say the same. -/
theorem Form.IsFirst.statement_unique {form form' : Form table} {statement' : Statement}
    (h : form.IsFirst) (h' : form'.IsFirst) (hline : form.line = form'.line)
    (hmeans : form.Says statement) (hmeans' : form'.Says statement') : statement = statement' := by
  obtain ⟨read, hread, hstatement⟩ := Form.exists_read hbuild hmeans
  obtain ⟨read', hread', hstatement'⟩ := Form.exists_read hbuild hmeans'
  have hplace : form.place = form'.place := Nat.le_antisymm (h form' hline.symm) (h' form hline)
  rw [hplace, hread', Option.some.injEq] at hread
  rw [hline, ← hread, hstatement', Option.some.injEq] at hstatement
  exact hstatement.symm

/-- The statement of a line is what its first form says; a line without a form is a plain
    expression. -/
theorem ofLine_eq_iff :
    ofLine table line = statement ↔
      (∃ form : Form table, form.line = line ∧ form.Says statement ∧ form.IsFirst) ∨
        ((∀ form : Form table, form.line ≠ line) ∧ statement = .expression line) := by
  rw [ofLine_eq_findSome?]
  cases hread : (readers table).findSome? fun read => read line with
  | none =>
    have hforms : ∀ form : Form table, form.line ≠ line := by
      rintro form rfl
      exact findSome?_readers_ne_none hbuild form hread
    constructor
    · intro h
      exact .inr ⟨hforms, h.symm⟩
    · rintro (⟨form, hline, _⟩ | ⟨_, rfl⟩)
      · exact absurd hline (hforms form)
      · rfl
  | some statement' =>
    obtain ⟨form, hline, hmeans, hfirst⟩ := exists_form_of_findSome? hbuild hread
    constructor
    · rintro rfl
      exact .inl ⟨form, hline, hmeans, hfirst⟩
    · rintro (⟨form', hline', hmeans', hfirst'⟩ | ⟨hforms, _⟩)
      · exact hfirst.statement_unique hbuild hfirst' (hline.trans hline'.symm) hmeans hmeans'
      · exact absurd hline (hforms form)

end forms

/-- The statement of a line that is not structural is what the first of its forms says, in the order
    of the forms, and a line without a form is a plain expression. A line is put together in each
    form in at most one way. -/
theorem first_form_counts {listing : Listing} {table : DeclarationTable}
    (hbuild : DeclarationTable.ofListing listing = .ok table) (number : Nat) (line : Text)
    (hstructural : table.isStructural number line = false) :
    (∀ statement, classify? table number line = some statement ↔
      (∃ form : Form table, form.line = line ∧ form.Says statement ∧
        ∀ other : Form table, other.line = line → form.place ≤ other.place) ∨
      ((∀ form : Form table, form.line ≠ line) ∧ statement = .expression line)) ∧
    ∀ form form' : Form table, form.line = line → form'.line = line → form.place = form'.place →
      form = form' := by
  refine ⟨?_, ?_⟩
  · intro statement
    have hclassify : classify? table number line = some (ofLine table line) := by
      unfold classify?
      rw [hstructural]
      rfl
    rw [hclassify, Option.some.injEq, ofLine_eq_iff hbuild]
    constructor
    · rintro (⟨form, rfl, hmeans, hfirst⟩ | hplain)
      · exact .inl ⟨form, rfl, hmeans, hfirst⟩
      · exact .inr hplain
    · rintro (⟨form, rfl, hmeans, hfirst⟩ | hplain)
      · exact .inl ⟨form, rfl, hmeans, hfirst⟩
      · exact .inr hplain
  · intro form form' hline hline' hplace
    exact Form.unique hbuild (hline.trans hline'.symm) hplace

/-- With a function `if`, a line that has the form of a condition is a call, with a quoted comma and
    a quoted parenthesis in its second argument. -/
theorem first_form_counts_declared_keyword :
    let line : Text := "if (x, '= ,(')"
    ∃ table, DeclarationTable.ofListing ⟨["function if(a, b) \x7b", "\x7d"]⟩ = .ok table ∧
      table.isStructural 3 line = false ∧
      ∃ form : Form table, form.line = line ∧ form.Says (.call "if" ["x", "'= ,('"]) ∧
        ∀ other : Form table, other.line = line → form.place ≤ other.place := by
  intro line
  have hbuild : DeclarationTable.ofListing ⟨["function if(a, b) \x7b", "\x7d"]⟩ =
      .ok ⟨[⟨"if", ["a", "b"], [], 1⟩], [1]⟩ := by decide +kernel
  refine ⟨_, hbuild, by decide +kernel, ?_⟩
  have hforms := first_form_counts hbuild 3 line (by decide +kernel)
  rcases (hforms.1 (.call "if" ["x", "'= ,('"])).mp (by decide +kernel) with hform | ⟨_, hplain⟩
  · exact hform
  · cases hplain

end Statement
end Stepwise
