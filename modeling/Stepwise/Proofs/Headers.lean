import Stepwise.Proofs.Grammar

/-!
# The form of headers

A header line is the keyword, blanks, a name, a text in parentheses that ends at the first closing
one, and at most an opening brace. `Header.Form` has the parts of such a line together with what is
known of them.

- `Form.ofLine?_line` and `exists_form`: the reader of headers reads the lines of this form and no
  others, and what it gives is told by the parts,
- `Form.line_injective`: the parts are determined by the line,
- `Form.ofParameters`: names that are put between commas are parts again, so that a header that is
  written out is read back (`ofLine?_render`),
- `Form.assignmentParts?_line`: the parenthesis stands before all `=`, so that no header is an
  assignment, whatever its parameters are.
-/

namespace Stepwise

namespace Text

/-- A run of characters of one kind is determined by the text when the rest does not go on with the
    same kind. -/
theorem run_unique {p : Char → Bool} {run run' rest rest' : Text} (hrun : ∀ c ∈ run, p c = true)
    (hrun' : ∀ c ∈ run', p c = true) (hrest : ∀ c, rest.head? = some c → p c = false)
    (hrest' : ∀ c, rest'.head? = some c → p c = false) (h : run ++ rest = run' ++ rest') :
    run = run' ∧ rest = rest' := by
  obtain ⟨htake, hdrop⟩ := takeWhile_run hrun hrest
  obtain ⟨htake', hdrop'⟩ := takeWhile_run hrun' hrest'
  rw [h] at htake hdrop
  exact ⟨htake.symm.trans htake', hdrop.symm.trans hdrop'⟩

/-- A word does not begin with a blank. -/
theorem isBlank_head?_word {name : Text} (hname : name.isWord = true) (rest : Text) :
    ∀ c, (name ++ rest).head? = some c → isBlank c = false := by
  obtain ⟨hne, hword⟩ := isWord_iff.mp hname
  intro c hc
  rw [List.head?_append_of_ne_nil _ hne] at hc
  exact isBlank_of_isWordChar (hword c (List.mem_of_head? hc))

end Text

namespace Header

theorem opensBody?_eq_some_iff {rest : Text} {opensBody : Bool} :
    opensBody? rest = some opensBody ↔ rest.trim = if opensBody then ['{'] else [] := by
  unfold opensBody?
  cases opensBody with
  | false => split <;> simp_all
  | true => split <;> simp_all

/-! ### Forms -/

/-- The parts that a header line is put together from. -/
structure Form where
  /-- The blanks after the keyword. -/
  blanks : Text
  name : Text
  /-- The blanks before the parenthesis. -/
  gap : Text
  /-- What stands between the commas in the parentheses. -/
  pieces : List Text
  /-- What follows the closing parenthesis. -/
  tail : Text
  opensBody : Bool
  blanks_ne_nil : blanks ≠ []
  allBlank_blanks : blanks.allBlank = true
  isWord_name : name.isWord = true
  allBlank_gap : gap.allBlank = true
  pieces_ne_nil : pieces ≠ []
  comma_not_mem : ∀ piece ∈ pieces, ',' ∉ piece
  parenthesis_not_mem : ')' ∉ List.intercalate [','] pieces
  trim_tail : tail.trim = if opensBody then ['{'] else []

namespace Form

/-- The text in the parentheses. -/
def inner (form : Form) : Text := List.intercalate [','] form.pieces

/-- The line that is put together from the parts. -/
def line (form : Form) : Text :=
  "function".toList ++ form.blanks ++ form.name ++ form.gap ++ '(' :: form.inner ++ ')' :: form.tail

/-- What the line declares: the parameters are the pieces that are not blank, without the blanks
    around them. -/
def header (form : Form) : Header :=
  ⟨form.name, (form.pieces.map Text.trim).filter fun name => !name.isEmpty, form.opensBody⟩

theorem line_eq (form : Form) : form.line =
    "function".toList ++
      (form.blanks ++ (form.name ++ (form.gap ++ '(' :: (form.inner ++ ')' :: form.tail)))) := by
  unfold line
  simp only [List.append_assoc, List.cons_append]

theorem splitOn_inner (form : Form) : form.inner.splitOn ',' = form.pieces :=
  List.splitOn_intercalate ',' form.comma_not_mem form.pieces_ne_nil

/-- The reader finds the parts. -/
theorem ofLine?_line (form : Form) : ofLine? form.line = some form.header := by
  obtain ⟨first, others, hblanks⟩ := List.exists_cons_of_ne_nil form.blanks_ne_nil
  have hallBlank := List.all_eq_true.mp form.allBlank_blanks
  have hfirst : isBlank first = true := hallBlank first (hblanks ▸ List.mem_cons_self)
  obtain ⟨hne, hword⟩ := Text.isWord_iff.mp form.isWord_name
  have hempty : form.name.isEmpty = false := by simpa using hne
  -- each part ends where a character begins that does not belong to it
  have hopen : Text.openParen? (form.gap ++ '(' :: (form.inner ++ ')' :: form.tail)) =
      some (form.inner ++ ')' :: form.tail) :=
    Text.openParen?_eq_some_iff.mpr ⟨form.gap, form.allBlank_gap, rfl⟩
  have hcut : Text.cutAt? ')' (form.inner ++ ')' :: form.tail) = some (form.inner, form.tail) :=
    Text.cutAt?_eq_some_iff.mpr ⟨rfl, form.parenthesis_not_mem⟩
  have htail : opensBody? form.tail = some form.opensBody :=
    opensBody?_eq_some_iff.mpr form.trim_tail
  have hname := Text.takeWhile_run hword
    (Text.isWordChar_head?_gap form.allBlank_gap (form.inner ++ ')' :: form.tail))
  have htrim := (Text.takeWhile_run hallBlank (Text.isBlank_head?_word form.isWord_name
    (form.gap ++ '(' :: (form.inner ++ ')' :: form.tail)))).2
  have hhead :
      (form.blanks ++ (form.name ++ (form.gap ++ '(' :: (form.inner ++ ')' :: form.tail)))).head? =
      some first := by
    rw [hblanks]
    rfl
  unfold ofLine?
  rw [Text.stripStart?_eq_some_iff.mpr form.line_eq, Option.bind_eq_bind, Option.bind_some, hhead]
  simp only [hfirst, Bool.not_true, Bool.false_eq_true, if_false, Text.trimStart, htrim,
    Text.spanWord, hname, hempty, hopen, hcut, htail, Option.bind_eq_bind, Option.bind_some]
  rw [splitParameters, splitOn_inner]
  rfl

/-- The parts are determined by the line. -/
theorem line_injective {form form' : Form} (h : form.line = form'.line) : form = form' := by
  obtain ⟨blanks, name, gap, pieces, tail, opensBody, hne, hblanks, hname, hgap, hpieces,
      hcomma, hinner, htail⟩ := form
  obtain ⟨blanks', name', gap', pieces', tail', opensBody', hne', hblanks', hname', hgap',
      hpieces', hcomma', hinner', htail'⟩ := form'
  rw [line_eq, line_eq] at h
  obtain ⟨rfl, hrest⟩ :=
    Text.run_unique (List.all_eq_true.mp hblanks) (List.all_eq_true.mp hblanks')
    (Text.isBlank_head?_word hname _) (Text.isBlank_head?_word hname' _) (List.append_cancel_left h)
  obtain ⟨rfl, hgaps⟩ := Text.run_unique (Text.isWord_iff.mp hname).2 (Text.isWord_iff.mp hname').2
    (Text.isWordChar_head?_gap hgap _) (Text.isWordChar_head?_gap hgap' _) hrest
  obtain ⟨rfl, hopened⟩ := Text.gap_unique hgap hgap' hgaps
  -- the text in parentheses ends at the first closing one, and the pieces are those between its
  -- commas
  have hcut := Text.cutAt?_eq_some_iff.mpr ⟨hopened, hinner'⟩
  dsimp only [inner] at hcut
  rw [Text.cutAt?_eq_some_iff.mpr ⟨rfl, hinner⟩, Option.some.injEq, Prod.mk.injEq] at hcut
  obtain ⟨hsame, rfl⟩ := hcut
  have hsplit := congrArg (List.splitOn ',') hsame
  rw [List.splitOn_intercalate ',' hcomma hpieces, List.splitOn_intercalate ',' hcomma' hpieces']
    at hsplit
  subst hsplit
  have hopens := opensBody?_eq_some_iff.mpr htail
  rw [opensBody?_eq_some_iff.mpr htail', Option.some.injEq] at hopens
  subst hopens
  rfl

/-- The parenthesis stands before all `=`, so that a header is no assignment. -/
theorem assignmentParts?_line (form : Form) : Statement.assignmentParts? form.line = none := by
  have hstart : '=' ∉ "function".toList ++ form.blanks ++ (form.name ++ form.gap) ++ ['('] := by
    rw [List.mem_append, List.mem_append, not_or, not_or]
    refine ⟨⟨?_, Text.eq_sign_not_mem form.isWord_name form.allBlank_gap⟩, by decide⟩
    exact Text.eq_sign_not_mem rfl form.allBlank_blanks
  have hline : form.line = "function".toList ++ form.blanks ++ (form.name ++ form.gap) ++ ['('] ++
      (form.inner ++ ')' :: form.tail) := by
    unfold line
    simp only [List.append_assoc, List.cons_append, List.nil_append]
  have hnone := Statement.assignment?_append hstart
    (List.mem_append_right _ (List.mem_singleton_self _)) rfl rfl (form.inner ++ ')' :: form.tail)
  rw [← hline, Statement.assignment?, Option.map_eq_none_iff] at hnone
  exact hnone

end Form

/-- What is read as a header has the form of one. -/
theorem exists_form {line : Text} {header : Header} (h : ofLine? line = some header) :
    ∃ form : Form, form.line = line ∧ form.header = header := by
  obtain ⟨rest, hrest, h⟩ := Option.bind_eq_some_iff.mp h
  obtain ⟨first, hfirst, h⟩ := Option.bind_eq_some_iff.mp h
  rw [show rest.trimStart.spanWord =
    (rest.trimStart.takeWhile isWordChar, rest.trimStart.dropWhile isWordChar) from rfl] at h
  simp only at h
  split at h
  · cases h
  · rename_i hblank
    split at h
    · cases h
    · rename_i hname
      obtain ⟨opened, hopened, h⟩ := Option.bind_eq_some_iff.mp h
      obtain ⟨⟨inner, tail⟩, hcut, h⟩ := Option.bind_eq_some_iff.mp h
      obtain ⟨opensBody, hopens, h⟩ := Option.bind_eq_some_iff.mp h
      cases h
      obtain ⟨gap, hgap, hafter⟩ := Text.openParen?_eq_some_iff.mp hopened
      obtain ⟨rfl, hinner⟩ := Text.cutAt?_eq_some_iff.mp hcut
      have hjoin : List.intercalate [','] (inner.splitOn ',') = inner :=
        List.intercalate_splitOn ','
      have hblanks : rest.takeWhile isBlank ≠ [] := by
        obtain ⟨others, rfl⟩ := List.head?_eq_some_iff.mp hfirst
        have hfirst : isBlank first = true := by simpa using hblank
        rw [List.takeWhile_cons_of_pos hfirst]
        exact List.cons_ne_nil _ _
      refine ⟨{
        blanks := rest.takeWhile isBlank
        name := rest.trimStart.takeWhile isWordChar
        gap
        pieces := inner.splitOn ','
        tail
        opensBody
        blanks_ne_nil := hblanks
        allBlank_blanks := List.all_takeWhile
        isWord_name :=
          Text.isWord_iff.mpr ⟨by simpa using hname, List.all_eq_true.mp List.all_takeWhile⟩
        allBlank_gap := hgap
        pieces_ne_nil := List.splitOn_ne_nil ',' inner
        comma_not_mem := fun piece hpiece => Text.not_mem_of_mem_splitOn hpiece
        parenthesis_not_mem := hjoin.symm ▸ hinner
        trim_tail := opensBody?_eq_some_iff.mp hopens }, ?_, rfl⟩
      rw [Form.line_eq, Text.stripStart?_eq_some_iff.mp hrest]
      dsimp only [Form.inner]
      rw [hjoin, ← hafter, List.takeWhile_append_dropWhile]
      exact congrArg ("function".toList ++ ·) List.takeWhile_append_dropWhile

/-! ### Headers that are written out -/

/-- The text of a parameter: it has no blanks at its ends and neither a comma nor a closing
    parenthesis. -/
structure IsParameter (text : Text) : Prop where
  trimmed : text.trim = text
  ne_nil : text ≠ []
  comma : ',' ∉ text
  parenthesis : ')' ∉ text

/-- The pieces of parameters that are written with a comma and a space between them. -/
def spaced : List Text → List Text
  | [] => [[]]
  | first :: others => first :: others.map (' ' :: ·)

theorem intercalate_spaced (parameters : List Text) :
    List.intercalate [','] (spaced parameters) = List.intercalate ", ".toList parameters := by
  cases parameters with
  | nil => rfl
  | cons first others =>
    show List.intercalate [','] (first :: others.map (' ' :: ·)) = _
    induction others generalizing first with
    | nil => rfl
    | cons next others ih =>
      -- the space after a comma is the first character of the next piece
      have hspace : ∀ separator : Text,
          List.intercalate separator ((' ' :: next) :: others.map (' ' :: ·)) =
          ' ' :: List.intercalate separator (next :: others.map (' ' :: ·)) := by
        intro separator
        cases others <;> rfl
      rw [List.map_cons, List.intercalate_cons_cons, List.intercalate_cons_cons, hspace, ih next,
        List.append_assoc, List.append_assoc]
      rfl

/-- A header line with the opening brace of its body. -/
def render (name : Text) (parameters : List Text) : Text :=
  "function ".toList ++ name ++ '(' :: List.intercalate ", ".toList parameters ++ ") \x7b".toList

section parameters
variable {parameters : List Text} (h : ∀ parameter ∈ parameters, IsParameter parameter)
include h

theorem comma_not_mem_of_spaced : ∀ piece ∈ spaced parameters, ',' ∉ piece := by
  cases parameters with
  | nil => exact fun piece hpiece => List.mem_singleton.mp hpiece ▸ List.not_mem_nil
  | cons first others =>
    rintro piece (hpiece | ⟨_, hpiece⟩)
    · exact (h first List.mem_cons_self).comma
    · obtain ⟨parameter, hparameter, rfl⟩ := List.mem_map.mp hpiece
      have hcomma := (h parameter (List.mem_cons_of_mem _ hparameter)).comma
      simp [hcomma]

/-- Without the blanks, the pieces are the parameters. -/
theorem parameters_of_spaced :
    ((spaced parameters).map Text.trim).filter (fun name => !name.isEmpty) = parameters := by
  cases parameters with
  | nil => rfl
  | cons first others =>
    have htrim : (others.map (' ' :: ·)).map Text.trim = others := by
      rw [List.map_map]
      conv_rhs => rw [← List.map_id others]
      refine List.map_congr_left fun parameter hmem => ?_
      rw [Function.comp_apply, Text.trim_cons rfl,
        (h parameter (List.mem_cons_of_mem _ hmem)).trimmed, id]
    rw [spaced, List.map_cons, (h first List.mem_cons_self).trimmed, htrim, List.filter_eq_self]
    intro parameter hmem
    simpa using (h parameter hmem).ne_nil

/-- The parts of a header that is written out. -/
def Form.ofParameters {name : Text} (hname : name.isWord = true) : Form where
  blanks := [' ']
  name
  gap := []
  pieces := spaced parameters
  tail := " \x7b"
  opensBody := true
  blanks_ne_nil := List.cons_ne_nil _ _
  allBlank_blanks := rfl
  isWord_name := hname
  allBlank_gap := rfl
  pieces_ne_nil := by cases parameters <;> exact List.cons_ne_nil _ _
  comma_not_mem := comma_not_mem_of_spaced h
  parenthesis_not_mem := by
    rw [intercalate_spaced]
    exact Text.not_mem_intercalate (by decide) fun parameter hmem => (h parameter hmem).parenthesis
  trim_tail := by decide

/-- A header that is written out is read back. -/
theorem ofLine?_render {name : Text} (hname : name.isWord = true) :
    ofLine? (render name parameters) = some ⟨name, parameters, true⟩ := by
  have hline : (Form.ofParameters h hname).line = render name parameters := by
    unfold Form.line Form.inner render
    dsimp only [Form.ofParameters]
    rw [intercalate_spaced, List.append_nil]
    rfl
  have hheader : (Form.ofParameters h hname).header = ⟨name, parameters, true⟩ := by
    unfold Form.header
    dsimp only [Form.ofParameters]
    rw [parameters_of_spaced h]
  rw [← hline, Form.ofLine?_line, hheader]

end parameters

/-- The reader of headers reads the lines of the form and no others. -/
theorem ofLine?_eq_some_iff {line : Text} {header : Header} :
    ofLine? line = some header ↔ ∃ form : Form, form.line = line ∧ form.header = header := by
  constructor
  · exact exists_form
  · rintro ⟨form, rfl, rfl⟩
    exact form.ofLine?_line

/-- Headers are read exactly by their form. A line is read as a header when it is put together from
    the keyword, blanks, a name, blanks, a text in parentheses and at most a brace, and what is read
    is told by these parts, which the line determines. A header that is written out is read back,
    and no header is an assignment. -/
theorem headers_read_by_form :
    (∀ (line : Text) (header : Header),
      ofLine? line = some header ↔ ∃ form : Form, form.line = line ∧ form.header = header) ∧
    (∀ form form' : Form, form.line = form'.line → form = form') ∧
    (∀ (name : Text) (parameters : List Text), name.isWord = true →
      (∀ parameter ∈ parameters, IsParameter parameter) →
      ofLine? (render name parameters) = some ⟨name, parameters, true⟩) ∧
    (∀ (line : Text) (header : Header), ofLine? line = some header →
      Statement.assignmentParts? line = none) := by
  refine ⟨fun line header => ofLine?_eq_some_iff, fun form form' => Form.line_injective, ?_, ?_⟩
  · intro name parameters hname hparameters
    exact ofLine?_render hparameters hname
  · intro line header h
    obtain ⟨form, rfl, _⟩ := exists_form h
    exact form.assignmentParts?_line

-- an empty piece is no parameter, and a piece may have blanks, an opening parenthesis and `=`
-- inside
example : ofLine? "function  f (a b= (1 , , c) \x7b" = some ⟨"f", ["a b= (1", "c"], true⟩ := by
  decide +kernel

end Header
end Stepwise
