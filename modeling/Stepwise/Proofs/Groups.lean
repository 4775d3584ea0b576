import Stepwise.Proofs.Grammar

/-!
# Texts in parentheses

A call, a condition and a loop header have a text in parentheses. It is taken from the first opening
parenthesis to the last closing one, and nothing of what stands between is looked at:

- `ofLine_call`, `ofLine_condition` and `ofLine_loop`: such a line has its statement whatever stands
  in the parentheses,
- `keepsOpen_iff_closed_at_end`: the text never closes more parentheses than it has opened exactly
  when the parenthesis that closes the first one is the last one; `last_parenthesis_taken` says so
  of lines,
- `splitsInto_intercalate`: texts that close all that they open and have no comma of their own are
  found again between the commas that are put between them, so that a call reads its arguments back
  (`call_reads_arguments_back`).
-/

namespace Stepwise

namespace Text

/-! ### Where a parenthesis is closed -/

/-- A text keeps its parentheses open exactly when a parenthesis before it is closed by the last one
    after it, if it is closed at all. -/
theorem keepsOpen_iff_closed_at_end {inner tail : Text} (htail : ')' ∉ tail) :
    inner.KeepsOpen ↔
      ∀ group rest : Text, inner ++ ')' :: tail = group ++ ')' :: rest → group.Balanced →
        rest = tail := by
  constructor
  · intro hopen group rest heq hgroup
    rcases List.append_eq_append_iff.mp heq with ⟨more, rfl, htext⟩ | ⟨more, hinner, htext⟩
    · cases more with
      | nil => exact (List.cons_injective htext).symm
      | cons c more =>
        -- a later parenthesis would stand in `tail`
        have hmem : ')' ∈ tail := by
          rw [(List.cons.inj htext).2]
          exact List.mem_append_right _ List.mem_cons_self
        exact absurd hmem htail
    · cases more with
      | nil => exact List.cons_injective htext
      | cons c more =>
        -- an earlier one would close more than `inner` has opened
        have hc : c = ')' := (List.cons.inj htext).1.symm
        rw [hc] at hinner
        exact absurd hopen (not_keepsOpen_iff.mpr ⟨group, more, hinner, hgroup⟩)
  · intro h
    by_contra hopen
    obtain ⟨group, rest, rfl, hgroup⟩ := not_keepsOpen_iff.mp hopen
    have hrest := h group (rest ++ ')' :: tail) (by simp) hgroup
    have hlength := congrArg List.length hrest
    simp only [List.length_append, List.length_cons] at hlength
    omega

/-! ### Arguments -/

/-- The text of an argument: it has no blanks at its ends, closes all that it opens, and has no
    comma at top level. -/
structure IsArgument (text : Text) : Prop where
  trimmed : text.trim = text
  ne_nil : text ≠ []
  balanced : text.Balanced
  commaFree : text.CommaFree

instance : DecidablePred IsArgument := fun text =>
  decidable_of_iff (text.trim = text ∧ text ≠ [] ∧ text.Balanced ∧ text.CommaFree)
    ⟨fun h => ⟨h.1, h.2.1, h.2.2.1, h.2.2.2⟩,
      fun h => ⟨h.trimmed, h.ne_nil, h.balanced, h.commaFree⟩⟩

/-- A space before a text does not change the state of the scan. -/
theorem atTopLevel_space_iff {text : Text} : AtTopLevel (' ' :: text) ↔ text.AtTopLevel := Iff.rfl

theorem CommaFree.space {text : Text} (h : text.CommaFree) : CommaFree (' ' :: text) := by
  intro start hstart
  cases start with
  | nil => exact absurd (List.cons_prefix_cons.mp hstart).1 (by decide)
  | cons c start =>
    obtain ⟨rfl, hrest⟩ := List.cons_prefix_cons.mp hstart
    rw [atTopLevel_space_iff]
    exact h start hrest

/-- The pieces of joined arguments are the arguments, with a space before each but the first. -/
theorem splitsInto_intercalate {first : Text} {others : List Text} (hfree : first.CommaFree)
    (hlevel : first.AtTopLevel) (h : ∀ argument ∈ others, IsArgument argument) :
    SplitsInto (List.intercalate ", ".toList (first :: others))
      (first :: others.map (' ' :: ·)) := by
  induction others generalizing first with
  | nil =>
    rw [List.intercalate_singleton]
    exact .last hfree
  | cons next others ih =>
    have hnext := h next List.mem_cons_self
    have hlater := ih hnext.commaFree.space (atTopLevel_space_iff.mpr hnext.balanced.atTopLevel)
      fun argument hmem => h argument (List.mem_cons_of_mem _ hmem)
    -- the space after a comma belongs to the next piece
    have hspace : List.intercalate ", ".toList ((' ' :: next) :: others) =
        ' ' :: List.intercalate ", ".toList (next :: others) := by
      cases others <;> rfl
    rw [hspace] at hlater
    rw [List.intercalate_cons_cons, List.append_assoc]
    exact .comma hfree hlevel hlater

/-- Joined arguments are split into the arguments. -/
theorem hasArguments_intercalate {arguments : List Text}
    (h : ∀ argument ∈ arguments, IsArgument argument) :
    HasArguments (List.intercalate ", ".toList arguments) arguments := by
  cases arguments with
  | nil => exact .inl ⟨rfl, rfl⟩
  | cons first others =>
    have hfirst := h first List.mem_cons_self
    have hothers : ∀ argument ∈ others, IsArgument argument := fun argument hmem =>
      h argument (List.mem_cons_of_mem _ hmem)
    refine .inr ⟨?_, _, splitsInto_intercalate hfirst.commaFree hfirst.balanced.atTopLevel hothers,
      ?_⟩
    · have hblank : first.allBlank = false := by
        rw [← Bool.not_eq_true, ← trim_eq_nil_iff, hfirst.trimmed]
        exact hfirst.ne_nil
      obtain ⟨c, hmem, hc⟩ := List.all_eq_false.mp hblank
      refine List.all_eq_false.mpr ⟨c, ?_, hc⟩
      cases others with
      | nil => rwa [List.intercalate_singleton]
      | cons next others =>
        rw [List.intercalate_cons_cons, List.append_assoc]
        exact List.mem_append_left _ hmem
    · rw [List.map_cons, hfirst.trimmed, List.map_map]
      have htrim : others.map (trim ∘ (' ' :: ·)) = others := by
        conv_rhs => rw [← List.map_id others]
        refine List.map_congr_left fun argument hmem => ?_
        rw [Function.comp_apply, trim_cons rfl, (hothers argument hmem).trimmed, id]
      rw [htrim]

end Text

namespace Statement

/-! ### Lines with parentheses -/

section lines
variable {table : DeclarationTable} {name gap inner : Text}

/-- A parenthesis after a word and blanks comes before all `=`. -/
theorem assignment?_parenthesis (hword : name.isWord = true) (hgap : gap.allBlank = true)
    (rest : Text) :
    assignment? (name ++ gap ++ '(' :: rest) = none := by
  have hstart : '=' ∉ name ++ gap ++ ['('] := by
    rw [List.mem_append, not_or]
    exact ⟨Text.eq_sign_not_mem hword hgap, by decide⟩
  have hmem : '(' ∈ name ++ gap ++ ['('] := List.mem_append_right _ (List.mem_singleton_self _)
  rw [← List.singleton_append, ← List.append_assoc]
  exact assignment?_append hstart hmem rfl rfl rest

/-- A declared name and a text in parentheses are a call, whatever the text is; only of `console`
    the text must not be that of an output. -/
theorem ofLine_call (hword : name.isWord = true) (hname : table.contains name = true)
    (hgap : gap.allBlank = true) (inner : Text)
    (hlog : name = "console".toList → logArgument? inner = none) :
    ofLine table (name ++ gap ++ '(' :: inner ++ [')']) = .call name (splitArguments inner) := by
  have hassignment : assignment? (name ++ gap ++ '(' :: inner ++ [')']) = none := by
    rw [List.append_assoc, List.cons_append]
    exact assignment?_parenthesis hword hgap _
  have hshape : (name ++ gap ++ '(' :: inner ++ [')']).callShape? = some (name, inner) :=
    Text.callShape?_eq_some_iff.mpr ⟨hword, gap, hgap, rfl⟩
  have hnested : nestedOutput? (name ++ gap ++ '(' :: inner ++ [')']) = none := by
    unfold nestedOutput?
    rw [hshape, Option.bind_eq_bind, Option.bind_some]
    dsimp only
    split
    · rename_i hconsole
      rw [hlog hconsole, Option.map_none]
    · rfl
  have hcall := call?_eq_some_iff.mpr ⟨name, gap, inner, hword, hname, hgap, rfl, rfl⟩
  unfold ofLine
  rw [hassignment, hnested, hcall]
  rfl

variable {keyword : Text} {brace : Option Text}

/-- A line with a brace at its end has not the shape of a call. -/
theorem callShape?_groupText (blanks : Text) :
    (Text.groupText keyword gap inner (some blanks)).callShape? = none := by
  rw [Option.eq_none_iff_forall_ne_some]
  rintro ⟨name, inner'⟩ hshape
  obtain ⟨_, gap', _, hline⟩ := Text.callShape?_eq_some_iff.mp hshape
  have hbrace : Text.groupText keyword gap inner (some blanks) =
      keyword ++ gap ++ '(' :: inner ++ ')' :: blanks ++ ['{'] := by
    simp [Text.groupText, Text.closing]
  rw [hbrace] at hline
  exact absurd (List.append_inj' hline rfl).2 (by decide)

/-- The forms of a group that are tried before conditions and loops. -/
theorem ofLine_groupText (hword : keyword.isWord = true) (hconsole : keyword ≠ "console".toList)
    (hgap : gap.allBlank = true) (hcall : brace = none → table.contains keyword = false) :
    ofLine table (Text.groupText keyword gap inner brace) =
      (dottedOutput? (Text.groupText keyword gap inner brace) <|>
        condition? (Text.groupText keyword gap inner brace) <|>
        loop? (Text.groupText keyword gap inner brace)).getD
        (.expression (Text.groupText keyword gap inner brace)) := by
  have hassignment : assignment? (Text.groupText keyword gap inner brace) = none := by
    unfold Text.groupText
    rw [List.append_assoc, List.cons_append]
    exact assignment?_parenthesis hword hgap _
  have hothers : nestedOutput? (Text.groupText keyword gap inner brace) = none ∧
      call? table (Text.groupText keyword gap inner brace) = none := by
    unfold nestedOutput? call?
    cases brace with
    | some blanks =>
      rw [callShape?_groupText]
      exact ⟨rfl, rfl⟩
    | none =>
      have hshape : (Text.groupText keyword gap inner none).callShape? = some (keyword, inner) :=
        Text.callShape?_eq_some_iff.mpr ⟨hword, gap, hgap, rfl⟩
      rw [hshape]
      simp only [Option.bind_eq_bind, Option.bind_some, if_neg hconsole, hcall rfl,
        Bool.false_eq_true, if_false, and_self]
  unfold ofLine
  rw [hassignment, hothers.1, hothers.2]
  rfl

variable (hgap : gap.allBlank = true) (hinner : inner.allBlank = false)
  (hbrace : ∀ blanks ∈ brace, Text.allBlank blanks = true)
include hgap hinner hbrace

theorem ofLine_condition (hcall : brace = none → table.contains "if".toList = false) :
    ofLine table (Text.groupText "if" gap inner brace) = .condition inner.trim := by
  have hcondition : condition? (Text.groupText "if" gap inner brace) =
      some (.condition inner.trim) :=
    (group_eq_some_iff _ _).mpr ⟨gap, inner, brace, hgap, hinner, hbrace, rfl, rfl⟩
  have hdotted : dottedOutput? (Text.groupText "if" gap inner brace) = none := rfl
  rw [ofLine_groupText rfl (by decide) hgap hcall, hdotted, hcondition]
  rfl

theorem ofLine_loop (hcall : brace = none → table.contains "for".toList = false) :
    ofLine table (Text.groupText "for" gap inner brace) = .loop inner.trim := by
  have hloop : loop? (Text.groupText "for" gap inner brace) = some (.loop inner.trim) :=
    (group_eq_some_iff _ _).mpr ⟨gap, inner, brace, hgap, hinner, hbrace, rfl, rfl⟩
  have hdotted : dottedOutput? (Text.groupText "for" gap inner brace) = none := rfl
  have hcondition : condition? (Text.groupText "for" gap inner brace) = none := rfl
  rw [ofLine_groupText rfl (by decide) hgap hcall, hdotted, hcondition, hloop]
  rfl

end lines

/-! ### What is taken from parentheses -/

/-- Whether the statement is that of a line with a text in parentheses. -/
def isGroup : Statement → Bool
  | call _ _ => true
  | condition _ => true
  | loop _ => true
  | _ => false

/-- The statement with what it takes from another text in the parentheses. -/
def regroup (inner : Text) : Statement → Statement
  | call name _ => call name (splitArguments inner)
  | condition _ => condition inner.trim
  | loop _ => loop inner.trim
  | other => other

/-- The statement is taken from `inner`, which stands between the first opening and the last closing
    parenthesis, and would be taken from any other text there. -/
structure Takes (table : DeclarationTable) (statement : Statement) (head inner tail : Text) :
    Prop where
  first : '(' ∉ head
  last : ')' ∉ tail
  taken : statement = statement.regroup inner
  any : ∀ inner' : Text, inner'.allBlank = false → ¬ "log(".toList <+: inner' →
    ofLine table (head ++ '(' :: (inner' ++ ')' :: tail)) = statement.regroup inner'

section takes
variable {listing : Listing} {table : DeclarationTable} {name gap : Text}

theorem parenthesis_not_mem (hword : name.isWord = true) (hgap : gap.allBlank = true) :
    '(' ∉ name ++ gap := by
  rw [List.mem_append]
  rintro (hmem | hmem)
  · exact absurd ((Text.isWord_iff.mp hword).2 _ hmem) (by decide)
  · exact absurd (List.all_eq_true.mp hgap _ hmem) (by decide)

theorem takes_call (hbuild : DeclarationTable.ofListing listing = .ok table)
    (hname : table.contains name = true) (hgap : gap.allBlank = true) (inner : Text) :
    Takes table (.call name (splitArguments inner)) (name ++ gap) inner [] where
  first := parenthesis_not_mem (DeclarationTable.isWord_of_contains hbuild hname) hgap
  last := List.not_mem_nil
  taken := rfl
  any inner' _ hlog := by
    have hword := DeclarationTable.isWord_of_contains hbuild hname
    have hline := ofLine_call hword hname hgap inner' ?_
    · rwa [List.append_assoc, List.cons_append] at hline
    · intro _
      unfold logArgument?
      cases hstrip : Text.stripStart? "log(".toList inner' with
      | none => rfl
      | some rest => exact absurd ⟨rest, (Text.stripStart?_eq_some_iff.mp hstrip).symm⟩ hlog

theorem closing_not_mem {brace : Option Text}
    (hbrace : ∀ blanks ∈ brace, Text.allBlank blanks = true) :
    ')' ∉ Text.closing brace := by
  cases brace with
  | none => exact List.not_mem_nil
  | some blanks =>
    intro hmem
    rcases List.mem_append.mp hmem with hmem | hmem
    · exact absurd (List.all_eq_true.mp (hbrace blanks rfl) _ hmem) (by decide)
    · exact absurd hmem (by decide)

theorem takes_group {keyword : Text} {brace : Option Text} {f : Text → Statement}
    (hword : keyword.isWord = true) (hgap : gap.allBlank = true)
    (hbrace : ∀ blanks ∈ brace, Text.allBlank blanks = true)
    (hregroup : ∀ inner inner', (f inner).regroup inner' = f inner')
    (hline : ∀ inner : Text, inner.allBlank = false →
      ofLine table (Text.groupText keyword gap inner brace) = f inner)
    (inner : Text) : Takes table (f inner) (keyword ++ gap) inner (Text.closing brace) where
  first := parenthesis_not_mem hword hgap
  last := closing_not_mem hbrace
  taken := (hregroup inner inner).symm
  any inner' hinner' _ := by
    have hgroup := hline inner' hinner'
    unfold Text.groupText at hgroup
    rw [List.append_assoc, List.cons_append] at hgroup
    rw [hgroup, hregroup]

/-- A group without a brace has the form of a call, too, which comes first when the keyword is
    declared. -/
theorem Form.IsFirst.not_contains {form : Form table} (h : form.IsFirst) {keyword inner : Text}
    (hgap : gap.allBlank = true) (hplace : 2 < form.place)
    (hline : form.line = Text.groupText keyword gap inner none) :
    table.contains keyword = false := by
  by_contra hname
  rw [Bool.not_eq_false] at hname
  have hle := h (.call keyword gap inner hname hgap) hline.symm
  exact absurd hle (Nat.not_le_of_lt hplace)

/-- A call, a condition or a loop header takes its texts from parentheses. -/
theorem exists_takes {line : Text} {statement : Statement}
    (hbuild : DeclarationTable.ofListing listing = .ok table) (h : ofLine table line = statement)
    (hgroup : statement.isGroup = true) :
    ∃ head inner tail : Text, line = head ++ '(' :: (inner ++ ')' :: tail) ∧
      Takes table statement head inner tail := by
  rcases (ofLine_eq_iff hbuild).mp h with ⟨form, hline, hmeans, hfirst⟩ | ⟨_, hplain⟩
  · rw [← hline]
    cases form with
    | call name gap inner hname hgap =>
      obtain ⟨arguments, harguments, rfl⟩ := hmeans
      obtain rfl := Text.hasArguments_iff.mp harguments
      refine ⟨name ++ gap, inner, [], ?_, takes_call hbuild hname hgap inner⟩
      show name ++ gap ++ '(' :: inner ++ [')'] = name ++ gap ++ '(' :: (inner ++ [')'])
      rw [List.append_assoc (name ++ gap), List.cons_append]
    | condition gap inner brace hgap hinner hbrace =>
      obtain rfl : statement = .condition inner.trim := hmeans
      refine ⟨"if".toList ++ gap, inner, Text.closing brace, ?_, ?_⟩
      · show Text.groupText "if" gap inner brace = _
        rw [Text.groupText, List.append_assoc ("if".toList ++ gap), List.cons_append]
      · refine takes_group (f := fun inner => .condition inner.trim) rfl hgap hbrace
          (fun _ _ => rfl) ?_ inner
        intro inner' hinner'
        refine ofLine_condition hgap hinner' hbrace ?_
        rintro rfl
        exact hfirst.not_contains hgap (show 2 < 4 by decide) rfl
    | loop gap inner brace hgap hinner hbrace =>
      obtain rfl : statement = .loop inner.trim := hmeans
      refine ⟨"for".toList ++ gap, inner, Text.closing brace, ?_, ?_⟩
      · show Text.groupText "for" gap inner brace = _
        rw [Text.groupText, List.append_assoc ("for".toList ++ gap), List.cons_append]
      · refine takes_group (f := fun inner => .loop inner.trim) rfl hgap hbrace
          (fun _ _ => rfl) ?_ inner
        intro inner' hinner'
        refine ofLine_loop hgap hinner' hbrace ?_
        rintro rfl
        exact hfirst.not_contains hgap (show 2 < 5 by decide) rfl
    | _ =>
      obtain rfl := hmeans
      cases hgroup
  · rw [hplain] at hgroup
    cases hgroup

end takes

/-- The text that a call, a condition or a loop header takes from its parentheses lasts from the
    first opening to the last closing parenthesis of the line. It never closes more than it has
    opened exactly when the first parenthesis is closed by the last one or by none, and this is not
    asked for: with any other text there, that is not blank and is no output, the line has a
    statement of the same kind. -/
theorem last_parenthesis_taken {listing : Listing} {table : DeclarationTable}
    (hbuild : DeclarationTable.ofListing listing = .ok table) (number : Nat) (line : Text)
    (statement : Statement) (hclassify : classify? table number line = some statement)
    (hgroup : statement.isGroup = true) :
    ∃ head inner tail : Text, line = head ++ '(' :: (inner ++ ')' :: tail) ∧
      '(' ∉ head ∧ ')' ∉ tail ∧
      statement = statement.regroup inner ∧
      (inner.KeepsOpen ↔
        ∀ group rest : Text, inner ++ ')' :: tail = group ++ ')' :: rest → group.Balanced →
          rest = tail) ∧
      ∀ inner' : Text, inner'.allBlank = false → ¬ "log(".toList <+: inner' →
        classify? table number (head ++ '(' :: (inner' ++ ')' :: tail)) =
          some (statement.regroup inner') := by
  unfold classify? at hclassify
  split at hclassify
  · cases hclassify
  · rename_i hstructural
    cases hclassify
    obtain ⟨head, inner, tail, hline, htakes⟩ := exists_takes hbuild rfl hgroup
    refine ⟨head, inner, tail, hline, htakes.first, htakes.last, htakes.taken,
      Text.keepsOpen_iff_closed_at_end htakes.last, ?_⟩
    intro inner' hinner' hlog
    have hother : table.isStructural number (head ++ '(' :: (inner' ++ ')' :: tail)) = false := by
      rw [Bool.not_eq_true, DeclarationTable.isStructural, Bool.or_eq_false_iff] at hstructural
      rw [DeclarationTable.isStructural, Bool.or_eq_false_iff, beq_eq_false_iff_ne]
      refine ⟨?_, hstructural.2⟩
      -- a brace alone has no parenthesis
      intro hbrace
      have hmem : '(' ∈ ['}'] := hbrace ▸ List.mem_append_right head List.mem_cons_self
      exact absurd hmem (by decide)
    unfold classify?
    rw [hother, htakes.any inner' hinner' hlog]
    rfl

/-- Two calls with an operator between them have the form of one call. -/
theorem last_parenthesis_taken_two_calls :
    let line : Text := "f(1) + f(2)"
    ∃ table, DeclarationTable.ofListing ⟨["function f(a) \x7b", "\x7d"]⟩ = .ok table ∧
      classify? table 3 line = some (.call "f" ["1) + f(2"]) ∧
      ∃ head inner tail : Text, line = head ++ '(' :: (inner ++ ')' :: tail) ∧
        '(' ∉ head ∧ ')' ∉ tail ∧
        (inner.KeepsOpen ↔
          ∀ group rest : Text, inner ++ ')' :: tail = group ++ ')' :: rest → group.Balanced →
            rest = tail) := by
  intro line
  have hbuild : DeclarationTable.ofListing ⟨["function f(a) \x7b", "\x7d"]⟩ =
      .ok ⟨[⟨"f", ["a"], [], 1⟩], [1]⟩ := by
    decide +kernel
  have hclassify : classify? ⟨[⟨"f", ["a"], [], 1⟩], [1]⟩ 3 line =
      some (.call "f" ["1) + f(2"]) := by
    decide +kernel
  obtain ⟨head, inner, tail, hline, hhead, htail, _, hopen, _⟩ :=
    last_parenthesis_taken hbuild 3 line _ hclassify rfl
  exact ⟨_, hbuild, hclassify, head, inner, tail, hline, hhead, htail, hopen⟩

/-- In that line the text between the parentheses closes the first one before it ends. -/
theorem two_calls_close_too_many :
    ¬ ∀ (listing : Listing) (table : DeclarationTable) (number : Nat) (statement : Statement)
      (head inner tail : Text), DeclarationTable.ofListing listing = .ok table →
      classify? table number (head ++ '(' :: (inner ++ ')' :: tail)) = some statement →
        statement.isGroup = true →
      '(' ∉ head → ')' ∉ tail → inner.KeepsOpen := by
  intro h
  have hopen : Text.KeepsOpen "1) + f(2" :=
    h ⟨["function f(a) \x7b", "\x7d"]⟩ ⟨[⟨"f", ["a"], [], 1⟩], [1]⟩ 3 (.call "f" ["1) + f(2"])
      "f" "1) + f(2" []
      (by decide +kernel) (by decide +kernel) rfl (by decide) (by decide)
  exact absurd hopen (by decide +kernel)

/-! ### Calls -/

/-- A call with its arguments, one after the other. -/
def callText (name : Text) (arguments : List Text) : Text :=
  name ++ '(' :: List.intercalate ", ".toList arguments ++ [')']

/-- A call reads back the arguments that it is written with, in their order, whatever stands in
    their quotes and parentheses. -/
theorem call_reads_arguments_back {listing : Listing} {table : DeclarationTable}
    (hbuild : DeclarationTable.ofListing listing = .ok table) (name : Text)
    (hname : table.contains name = true) (hconsole : name ≠ "console".toList)
    (arguments : List Text) (harguments : ∀ argument ∈ arguments, Text.IsArgument argument)
    (number : Nat) (hstructural : table.isStructural number (callText name arguments) = false) :
    classify? table number (callText name arguments) = some (.call name arguments) := by
  have hword := DeclarationTable.isWord_of_contains hbuild hname
  have hline := ofLine_call hword hname (rfl : Text.allBlank [] = true)
    (List.intercalate ", ".toList arguments) fun h => absurd h hconsole
  rw [List.append_nil, Text.hasArguments_iff.mp (Text.hasArguments_intercalate harguments)] at hline
  unfold classify?
  rw [hstructural]
  exact congrArg some hline

/-- Arguments with commas, parentheses, `=` and quotes of the other kind in quotes and in calls of
    their own. -/
theorem call_reads_arguments_back_nested :
    let arguments : List Text := ["', (\"'", "g(1, h(')', 2)) + x", "a == \"it's = )\""]
    ∃ table, DeclarationTable.ofListing ⟨["function f(a) \x7b", "\x7d"]⟩ = .ok table ∧
      (∀ argument ∈ arguments, Text.IsArgument argument) ∧
      callText "f" arguments = "f(', (\"', g(1, h(')', 2)) + x, a == \"it's = )\")".toList ∧
      classify? table 3 (callText "f" arguments) = some (.call "f" arguments) := by
  intro arguments
  have hbuild : DeclarationTable.ofListing ⟨["function f(a) \x7b", "\x7d"]⟩ =
      .ok ⟨[⟨"f", ["a"], [], 1⟩], [1]⟩ := by
    decide +kernel
  have harguments : ∀ argument ∈ arguments, Text.IsArgument argument := by decide +kernel
  refine ⟨_, hbuild, harguments, by decide +kernel, ?_⟩
  exact call_reads_arguments_back hbuild "f" (by decide +kernel) (by decide) arguments harguments 3
    (by decide +kernel)

end Statement
end Stepwise
