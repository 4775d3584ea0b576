import Stepwise.Highlight
import Stepwise.Proofs.Scanning

/-!
# Highlighting keeps the line

A line is cut into tokens from left to right. Up to the comment the state of the scan for quotes
tells what is open:

- `Cuts` is what one character does that does not begin a comment (`exists_cuts`), and
  `exists_tokens_append` what a text does in which no comment begins,
- the tokens have the text of the line (`textOf_tokensFrom`),
- each quoted stretch is one token, and the comment is the last one (`tokens_quoted`,
  `tokens_comment`); no other token is of these two kinds (`isRight_of_mem_placesFrom`).
-/

namespace Stepwise

/-- The text of a line of spans. -/
def Line.text (line : Line) : Text := line.flatMap Span.text

namespace Highlight

/-! ### Quoted stretches and comments -/

/-- Where `before` has been read and `rest` follows, a comment begins. -/
def BeginsComment (before rest : Text) : Prop := before.quoteAfter = none ∧ "//".toList <+: rest

/-- No comment begins in `before`, when `rest` follows it. -/
def NoComment (before rest : Text) : Prop :=
  ∀ start more : Text, before = start ++ more → more ≠ [] → ¬ BeginsComment start (more ++ rest)

instance (before rest : Text) : Decidable (BeginsComment before rest) :=
  inferInstanceAs (Decidable (before.quoteAfter = none ∧ "//".toList <+: rest))

instance (before rest : Text) : Decidable (NoComment before rest) :=
  decidable_of_iff (∀ n < before.length,
      ¬ BeginsComment (before.take n) (before.drop n ++ rest)) (by
    constructor
    · rintro h start more rfl hmore
      have hlength := h start.length (by simpa using List.length_pos_of_ne_nil hmore)
      rwa [List.take_left, List.drop_left] at hlength
    · intro h n hn
      exact h _ _ (List.take_append_drop n before).symm
        (List.drop_eq_nil_iff.not.mpr (Nat.not_le_of_lt hn)))

/-- A text from a quote to the next one of its kind, or to the end of the line if there is none. -/
inductive Stretch : (stretch after : Text) → Prop where
  | closed {mark : Char} {inner : Text} (hmark : isQuote mark = true) (hinner : mark ∉ inner)
    (after : Text) :
    Stretch (mark :: inner ++ [mark]) after
  | unclosed {mark : Char} {inner : Text} (hmark : isQuote mark = true) (hinner : mark ∉ inner) :
    Stretch (mark :: inner) []

/-- The line `before ++ stretch ++ after` has a quoted stretch between the two, which does not begin
    in a comment. -/
structure QuotedAt (before stretch after : Text) : Prop where
  outside : before.quoteAfter = none
  noComment : NoComment before (stretch ++ after)
  stretch : Stretch stretch after

/-- The comment of the line `before ++ comment` begins after `before`. -/
structure CommentAt (before comment : Text) : Prop where
  begins : BeginsComment before comment
  noComment : NoComment before comment

theorem noComment_nil (rest : Text) : NoComment [] rest := by
  intro start more heq hmore
  exact absurd (List.append_eq_nil_iff.mp heq.symm).2 hmore

/-- What holds of a text holds of its beginning. -/
theorem NoComment.of_append {before more rest : Text} (h : NoComment (before ++ more) rest) :
    NoComment before (more ++ rest) := by
  intro start between heq hbetween
  have hlonger := h start (between ++ more) (by rw [heq, List.append_assoc])
    (List.append_ne_nil_of_left_ne_nil hbetween more)
  rwa [List.append_assoc] at hlonger

/-- One more character, if no comment begins at it. -/
theorem NoComment.concat {before rest : Text} {c : Char} (h : NoComment before (c :: rest))
    (hc : ¬ BeginsComment before (c :: rest)) : NoComment (before ++ [c]) rest := by
  intro start more heq hmore
  -- the last character of `more` is `c`
  rcases List.eq_nil_or_concat more with rfl | ⟨more, d, rfl⟩
  · exact absurd rfl hmore
  · rw [List.concat_eq_append, ← List.append_assoc] at heq
    obtain ⟨hbefore, hd⟩ := List.append_inj' heq rfl
    obtain rfl := List.singleton_inj.mp hd
    rw [List.concat_eq_append, List.append_assoc, List.singleton_append]
    by_cases hnil : more = []
    · rw [hnil, List.append_nil] at hbefore
      rwa [hnil, List.nil_append, ← hbefore]
    · exact h start more hbefore hnil

theorem not_beginsComment_of_noComment {before rest : Text} {c : Char}
    (h : NoComment (before ++ [c]) rest) :
    ¬ BeginsComment before (c :: rest) := h before [c] rfl (List.cons_ne_nil _ _)

/-! ### Texts of tokens -/

/-- The text of some tokens. -/
def textOf (tokens : List Token) : Text := tokens.flatMap Token.text

theorem textOf_append (tokens tokens' : List Token) :
    textOf (tokens ++ tokens') = textOf tokens ++ textOf tokens' :=
  List.flatMap_append

theorem textOf_cons (token : Token) (tokens : List Token) :
    textOf (token :: tokens) = token.text ++ textOf tokens :=
  List.flatMap_cons

theorem textOf_token? (kind : TokenKind) (text : Text) : textOf (token? kind text) = text := by
  cases text with
  | nil => rfl
  | cons c rest => exact List.append_nil _

/-! ### One character -/

/-- What is open in a state of the scan for quotes. -/
def Open.ofQuote : Quote → Open
  | none => .word
  | some mark => .quote mark

/-- What one character does that does not begin a comment: the tokens that it ends, and what is
    begun after it. -/
inductive Cuts : Quote → (begun : Text) → (c : Char) → List Token → (begun' : Text) → Prop where
  | close (mark : Char) (begun : Text) : Cuts (some mark) begun mark [⟨.quoted, begun ++ [mark]⟩] []
  | inside {mark c : Char} (h : c ≠ mark) (begun : Text) :
    Cuts (some mark) begun c [] (begun ++ [c])
  | quote {c : Char} (h : isQuote c = true) (begun : Text) :
    Cuts none begun c (token? .unmarked begun) [c]
  | part {c : Char} (h : isQuote c = false) (hpart : isWordPart c = true) (begun : Text) :
    Cuts none begun c [] (begun ++ [c])
  | symbol {c : Char} (h : isQuote c = false) (hpart : isWordPart c = false) (begun : Text) :
    Cuts none begun c (token? (wordKind begun (c == '(')) begun ++ [⟨symbolKind c, [c]⟩]) []

theorem slashes_iff {c : Char} {rest : Text} :
    "//".toList <+: c :: rest ↔ c = '/' ∧ rest.head? = some '/' := by
  show ['/', '/'] <+: c :: rest ↔ _
  cases rest with
  | nil => simp
  | cons d rest => simp [List.cons_prefix_cons, eq_comm]

theorem tokensFrom_comment (begun : Text) {comment : Text} (h : "//".toList <+: comment) :
    tokensFrom .word begun comment = token? .unmarked begun ++ [⟨.comment, comment⟩] := by
  obtain ⟨rest, rfl⟩ := h
  rfl

/-- Each character that does not begin a comment makes one of these cuts. -/
theorem exists_cuts {quote : Quote} {c : Char} {rest : Text} (begun : Text)
    (h : quote = none → ¬ "//".toList <+: c :: rest) :
    ∃ (done : List Token) (begun' : Text), Cuts quote begun c done begun' ∧
      tokensFrom (.ofQuote quote) begun (c :: rest) =
        done ++ tokensFrom (.ofQuote (quote.next c)) begun' rest := by
  cases quote with
  | some mark =>
    by_cases hc : c = mark
    · subst hc
      refine ⟨_, _, .close c begun, ?_⟩
      simp [Open.ofQuote, tokensFrom, Quote.next]
    · refine ⟨_, _, .inside hc begun, ?_⟩
      simp [Open.ofQuote, tokensFrom, Quote.next, hc]
  | none =>
    have hslashes := mt slashes_iff.mpr (h rfl)
    cases hquote : isQuote c with
    | true =>
      refine ⟨_, _, .quote hquote begun, ?_⟩
      simp only [Open.ofQuote, tokensFrom, Quote.next, hquote, hslashes, if_true, if_false]
    | false =>
      cases hpart : isWordPart c with
      | true =>
        refine ⟨_, _, .part hquote hpart begun, ?_⟩
        simp only [Open.ofQuote, tokensFrom, Quote.next, hquote, hslashes, hpart, if_true, if_false,
          Bool.false_eq_true, List.nil_append]
      | false =>
        refine ⟨_, _, .symbol hquote hpart begun, ?_⟩
        simp only [Open.ofQuote, tokensFrom, Quote.next, hquote, hslashes, hpart, if_false,
          Bool.false_eq_true, List.append_assoc, List.singleton_append]

variable {quote : Quote} {begun begun' : Text} {c : Char} {done : List Token}

/-- No character is lost. -/
theorem Cuts.text_eq (h : Cuts quote begun c done begun') :
    textOf done ++ begun' = begun ++ [c] := by
  cases h with
  | close => simp [textOf]
  | inside => rfl
  | quote => rw [textOf_token?]
  | part => rfl
  | symbol =>
    rw [textOf_append, textOf_token?, List.append_nil]
    rfl

/-! ### The whole line -/

/-- The tokens have the text of the line. -/
theorem textOf_tokensFrom (quote : Quote) (begun rest : Text) :
    textOf (tokensFrom (.ofQuote quote) begun rest) = begun ++ rest := by
  induction rest generalizing quote begun with
  | nil =>
    cases quote with
    | none => exact (textOf_token? _ _).trans (List.append_nil _).symm
    | some mark => exact textOf_cons _ []
  | cons c rest ih =>
    by_cases h : quote = none ∧ "//".toList <+: c :: rest
    · obtain ⟨rfl, hslashes⟩ := h
      show textOf (tokensFrom .word begun (c :: rest)) = _
      rw [tokensFrom_comment begun hslashes, textOf_append, textOf_token?]
      exact congrArg (begun ++ ·) (List.append_nil _)
    · obtain ⟨done, begun', hcuts, htokens⟩ := exists_cuts begun (not_and.mp h)
      rw [htokens, textOf_append, ih, ← List.append_assoc, hcuts.text_eq, List.append_assoc,
        List.singleton_append]

/-- What the characters of a text have cut off when no comment begins in it. -/
theorem exists_tokens_append {start rest : Text} (h : NoComment start rest) :
    ∃ (done : List Token) (begun : Text),
      tokens (start ++ rest) = done ++ tokensFrom (.ofQuote start.quoteAfter) begun rest ∧
        textOf done ++ begun = start := by
  induction start using List.reverseRecOn generalizing rest with
  | nil => exact ⟨[], [], rfl, rfl⟩
  | append_singleton start c ih =>
    obtain ⟨done, begun, htokens, htext⟩ := ih (h.of_append)
    have hcomment := not_beginsComment_of_noComment h
    obtain ⟨done', begun', hcuts, hstep⟩ := exists_cuts begun (not_and.mp hcomment)
    refine ⟨done ++ done', begun', ?_, ?_⟩
    · rw [Text.quoteAfter_concat, List.append_assoc, List.append_assoc, ← hstep]
      exact htokens
    · rw [textOf_append, List.append_assoc, hcuts.text_eq, ← List.append_assoc, htext]

/-! ### Quoted tokens and comments -/

/-- A quoted stretch is read to its end. -/
theorem tokensFrom_inner {mark : Char} {inner : Text} (h : mark ∉ inner) (begun rest : Text) :
    tokensFrom (.quote mark) begun (inner ++ rest) =
      tokensFrom (.quote mark) (begun ++ inner) rest := by
  induction inner generalizing begun with
  | nil => rw [List.append_nil, List.nil_append]
  | cons c inner ih =>
    rw [List.mem_cons, not_or] at h
    rw [List.cons_append, tokensFrom, if_neg (Ne.symm h.1), ih h.2, List.append_assoc,
      List.singleton_append]

theorem tokensFrom_quote {mark : Char} (hmark : isQuote mark = true) (begun rest : Text) :
    tokensFrom .word begun (mark :: rest) =
      token? .unmarked begun ++ tokensFrom (.quote mark) [mark] rest := by
  have hslash : ¬ (mark = '/' ∧ rest.head? = some '/') := by
    rintro ⟨rfl, _⟩
    cases hmark
  rw [tokensFrom, if_neg hslash, if_pos hmark]

/-- Outside quotes, a stretch is one token. -/
theorem exists_tokensFrom_stretch {stretch after : Text} (h : Stretch stretch after)
    (begun : Text) :
    ∃ later, tokensFrom .word begun (stretch ++ after) =
      token? .unmarked begun ++ ⟨.quoted, stretch⟩ :: later := by
  cases h with
  | @closed mark inner hmark hinner =>
    refine ⟨tokensFrom .word [] after, ?_⟩
    rw [List.append_assoc, List.cons_append, tokensFrom_quote hmark, tokensFrom_inner hinner,
      List.singleton_append, List.singleton_append, tokensFrom, if_pos rfl]
  | @unclosed mark inner hmark hinner =>
    refine ⟨[], ?_⟩
    rw [List.cons_append, tokensFrom_quote hmark, tokensFrom_inner hinner]
    rfl

/-- A quoted stretch is one token at its place. -/
theorem tokens_quoted {before stretch after : Text} (h : QuotedAt before stretch after) :
    ∃ pre post : List Token, tokens (before ++ stretch ++ after) =
      pre ++ ⟨.quoted, stretch⟩ :: post ∧
      textOf pre = before ∧ textOf post = after := by
  obtain ⟨done, begun, htokens, htext⟩ := exists_tokens_append h.noComment
  obtain ⟨later, hlater⟩ := exists_tokensFrom_stretch h.stretch begun
  have hpre : textOf (done ++ token? .unmarked begun) = before := by
    rw [textOf_append, textOf_token?, htext]
  have hall : tokens (before ++ stretch ++ after) =
      done ++ token? .unmarked begun ++ ⟨.quoted, stretch⟩ :: later := by
    rw [List.append_assoc, htokens, h.outside, List.append_assoc]
    exact congrArg (done ++ ·) hlater
  refine ⟨_, _, hall, hpre, ?_⟩
  -- what is left of the line is what the other tokens have
  have hline : textOf (tokens (before ++ stretch ++ after)) = before ++ stretch ++ after :=
    textOf_tokensFrom none [] _
  rw [hall, textOf_append, hpre, textOf_cons, ← List.append_assoc] at hline
  exact List.append_cancel_left hline

/-- The comment is the last token. -/
theorem tokens_comment {before comment : Text} (h : CommentAt before comment) :
    ∃ pre : List Token, tokens (before ++ comment) = pre ++ [⟨.comment, comment⟩] ∧
      textOf pre = before := by
  obtain ⟨done, begun, htokens, htext⟩ := exists_tokens_append h.noComment
  refine ⟨done ++ token? .unmarked begun, ?_, ?_⟩
  · rw [htokens, h.begins.1, List.append_assoc]
    exact congrArg (done ++ ·) (tokensFrom_comment begun h.begins.2)
  · rw [textOf_append, textOf_token?, htext]

/-! ### No others -/

/-- A kind of token that is neither quoted nor a comment. -/
def IsOther (kind : TokenKind) : Prop := kind ≠ .quoted ∧ kind ≠ .comment

theorem isOther_unmarked : IsOther .unmarked := ⟨nofun, nofun⟩

theorem isOther_word (word : Text) (isCalled : Bool) : IsOther (wordKind word isCalled) := by
  unfold wordKind
  repeat' split
  all_goals exact ⟨nofun, nofun⟩

theorem isOther_symbol (c : Char) : IsOther (symbolKind c) := by
  unfold symbolKind
  split
  all_goals exact ⟨nofun, nofun⟩

theorem eq_of_mem_token? {kind : TokenKind} {text : Text} {token : Token}
    (h : token ∈ token? kind text) :
    token = ⟨kind, text⟩ := by
  unfold token? at h
  split at h
  · cases h
  · exact List.mem_singleton.mp h

/-- A quoted token ends only at the quote that closes it. -/
theorem Cuts.isOther_or_close (h : Cuts quote begun c done begun') :
    (∀ token ∈ done, IsOther token.kind) ∨ quote = some c ∧ done = [⟨.quoted, begun ++ [c]⟩] := by
  cases h with
  | close => exact .inr ⟨rfl, rfl⟩
  | inside => exact .inl (List.forall_mem_nil _)
  | quote =>
    refine .inl fun token hmem => ?_
    rw [eq_of_mem_token? hmem]
    exact isOther_unmarked
  | part => exact .inl (List.forall_mem_nil _)
  | symbol =>
    refine .inl fun token hmem => ?_
    rcases List.mem_append.mp hmem with hmem | hmem
    · rw [eq_of_mem_token? hmem]
      exact isOther_word begun _
    · rw [List.mem_singleton.mp hmem]
      exact isOther_symbol c

/-- After `before`, the text `begun` has been read, and the scan is in the state `quote`. In a
    quoted stretch, all of the stretch that has been read is begun. -/
structure Begun (quote : Quote) (before begun : Text) : Prop where
  quoteAfter_eq : (before ++ begun).quoteAfter = quote
  stretch : ∀ mark, quote = some mark →
    before.quoteAfter = none ∧ isQuote mark = true ∧ ∃ inner : Text, mark ∉ inner ∧
      begun = mark :: inner

/-- What has been begun stays so from character to character. -/
theorem Begun.cuts {before : Text} (h : Begun quote before begun)
    (hcuts : Cuts quote begun c done begun') :
    Begun (quote.next c) (before ++ textOf done) begun' := by
  refine ⟨?_, ?_⟩
  · rw [List.append_assoc, hcuts.text_eq, ← List.append_assoc, Text.quoteAfter_concat,
      h.quoteAfter_eq]
  · intro mark hmark
    -- a quote is open after a cut only if it was open before, or if the character is one
    cases hcuts with
    | close => simp [Quote.next] at hmark
    | @inside mark' _ hne =>
      have hsame : mark' = mark := by simpa [Quote.next, hne] using hmark
      subst hsame
      obtain ⟨hbefore, hquote, inner, hinner, rfl⟩ := h.stretch mark' rfl
      refine ⟨?_, hquote, inner ++ [c], ?_, rfl⟩
      · rw [textOf, List.flatMap_nil, List.append_nil]
        exact hbefore
      · rw [List.mem_append, not_or, List.mem_singleton]
        exact ⟨hinner, Ne.symm hne⟩
    | quote hquote =>
      have hsame : c = mark := by simpa [Quote.next, hquote] using hmark
      subst hsame
      refine ⟨?_, hquote, [], List.not_mem_nil, rfl⟩
      rw [textOf_token?, h.quoteAfter_eq]
    | part hquote => simp [Quote.next, hquote] at hmark
    | symbol hquote => simp [Quote.next, hquote] at hmark

/-- Some tokens, each with the text before it. -/
def placesFrom (before : Text) : List Token → List (Text × Token)
  | [] => []
  | token :: rest => (before, token) :: placesFrom (before ++ token.text) rest

theorem placesFrom_append (before : Text) (tokens tokens' : List Token) :
    placesFrom before (tokens ++ tokens') =
      placesFrom before tokens ++ placesFrom (before ++ textOf tokens) tokens' := by
  induction tokens generalizing before with
  | nil =>
    rw [textOf, List.flatMap_nil, List.append_nil]
    rfl
  | cons token tokens ih =>
    rw [List.cons_append, placesFrom, ih, textOf_cons, List.append_assoc]
    rfl

theorem mem_of_mem_placesFrom {before : Text} {tokens : List Token} {place : Text × Token}
    (h : place ∈ placesFrom before tokens) : place.2 ∈ tokens := by
  induction tokens generalizing before with
  | nil => cases h
  | cons token tokens ih =>
    rcases List.mem_cons.mp h with rfl | hmem
    · exact List.mem_cons_self
    · exact List.mem_cons_of_mem _ (ih hmem)

/-- A token of the line is quoted or a comment only where the line has a quoted stretch or its
    comment. -/
structure IsRight (line : Text) (place : Text × Token) : Prop where
  quoted : place.2.kind = .quoted →
    ∃ after, line = place.1 ++ place.2.text ++ after ∧ QuotedAt place.1 place.2.text after
  comment : place.2.kind = .comment → line = place.1 ++ place.2.text ∧
    CommentAt place.1 place.2.text

theorem IsOther.isRight {line : Text} {place : Text × Token} (h : IsOther place.2.kind) :
    IsRight line place :=
  ⟨fun hquoted => absurd hquoted h.1, fun hcomment => absurd hcomment h.2⟩

/-- The tokens that a character ends are right. -/
theorem Cuts.isRight {before rest : Text} {place : Text × Token}
    (h : Cuts quote begun c done begun') (hbegun : Begun quote before begun)
    (hfree : NoComment (before ++ begun) (c :: rest)) (hmem : place ∈ placesFrom before done) :
    IsRight (before ++ begun ++ c :: rest) place := by
  rcases h.isOther_or_close with hothers | ⟨rfl, rfl⟩
  · exact (hothers _ (mem_of_mem_placesFrom hmem)).isRight
  · -- the stretch that is closed here has been begun at its quote
    obtain rfl : place = (before, ⟨.quoted, begun ++ [c]⟩) := List.mem_singleton.mp hmem
    obtain ⟨hbefore, hmark, inner, hinner, rfl⟩ := hbegun.stretch c rfl
    have hstart : NoComment before (c :: inner ++ [c] ++ rest) := by
      rw [List.append_assoc, List.singleton_append]
      exact hfree.of_append
    refine ⟨fun _ => ⟨rest, ?_, hbefore, hstart, .closed hmark hinner rest⟩, nofun⟩
    rw [List.append_assoc, List.append_assoc, List.append_assoc, List.singleton_append]

theorem isRight_of_mem_placesFrom {before rest : Text} {place : Text × Token}
    (hbegun : Begun quote before begun) (hfree : NoComment (before ++ begun) rest)
    (hmem : place ∈ placesFrom before (tokensFrom (.ofQuote quote) begun rest)) :
    IsRight (before ++ begun ++ rest) place := by
  -- from character to character, what has been begun moves on
  induction rest generalizing quote before begun with
  | nil =>
    cases quote with
    | none =>
      apply IsOther.isRight
      rw [eq_of_mem_token? (mem_of_mem_placesFrom hmem)]
      exact isOther_word begun false
    | some mark =>
      obtain rfl : place = (before, ⟨.quoted, begun⟩) := List.mem_singleton.mp hmem
      obtain ⟨hbefore, hmark, inner, hinner, rfl⟩ := hbegun.stretch mark rfl
      exact ⟨fun _ => ⟨[], rfl, hbefore, hfree.of_append, .unclosed hmark hinner⟩, nofun⟩
  | cons c rest ih =>
    by_cases h : quote = none ∧ "//".toList <+: c :: rest
    · obtain ⟨rfl, hslashes⟩ := h
      have htokens : tokensFrom (.ofQuote none) begun (c :: rest) = _ :=
        tokensFrom_comment begun hslashes
      rw [htokens, placesFrom_append, textOf_token?, List.mem_append] at hmem
      rcases hmem with hmem | hmem
      · apply IsOther.isRight
        rw [eq_of_mem_token? (mem_of_mem_placesFrom hmem)]
        exact isOther_unmarked
      · obtain rfl : place = (before ++ begun, ⟨.comment, c :: rest⟩) := List.mem_singleton.mp hmem
        exact ⟨nofun, fun _ => ⟨rfl, ⟨hbegun.quoteAfter_eq, hslashes⟩, hfree⟩⟩
    · obtain ⟨done, begun', hcuts, htokens⟩ := exists_cuts begun (not_and.mp h)
      rw [htokens, placesFrom_append, List.mem_append] at hmem
      rcases hmem with hmem | hmem
      · exact hcuts.isRight hbegun hfree hmem
      · have hcomment : ¬ BeginsComment (before ++ begun) (c :: rest) := by
          rintro ⟨hquote, hslashes⟩
          exact h ⟨hbegun.quoteAfter_eq ▸ hquote, hslashes⟩
        have hread : before ++ textOf done ++ begun' = before ++ begun ++ [c] := by
          rw [List.append_assoc, hcuts.text_eq, List.append_assoc]
        have hright := ih (hbegun.cuts hcuts) (hread ▸ hfree.concat hcomment) hmem
        rwa [hread, List.append_assoc, List.singleton_append] at hright

/-! ### Spans -/

/-- The span that shows a token. -/
def spanOf (token : Token) : Span := ⟨token.text, token.kind.style⟩

theorem text_map_spanOf (tokens : List Token) :
    Line.text (tokens.map spanOf) = textOf tokens := List.flatMap_map ..

/-- Highlighting keeps the line. The spans have its text. A quoted stretch that does not begin in a
    comment is one span with its quotes, and the comment, which begins at the first `//` outside of
    such stretches, is one span and the last one. No other tokens are quoted or a comment. -/
theorem highlighting_lossless (line : Text) :
    (highlighted line).text = line ∧
      (∀ before stretch after : Text, line = before ++ stretch ++ after →
        QuotedAt before stretch after →
        ∃ pre post : Line, highlighted line = pre ++ ⟨stretch, TokenKind.quoted.style⟩ :: post ∧
          pre.text = before ∧ post.text = after) ∧
      (∀ before comment : Text, line = before ++ comment → CommentAt before comment →
        ∃ pre : Line, highlighted line = pre ++ [⟨comment, TokenKind.comment.style⟩] ∧
          pre.text = before) ∧
      ∀ (pre : List Token) (token : Token) (post : List Token), tokens line = pre ++ token :: post →
        (token.kind = .quoted → QuotedAt (textOf pre) token.text (textOf post)) ∧
          (token.kind = .comment → CommentAt (textOf pre) token.text ∧ textOf post = []) := by
  have hspans : highlighted line = (tokens line).map spanOf := rfl
  have htext : textOf (tokens line) = line := textOf_tokensFrom none [] line
  rw [hspans]
  refine ⟨(text_map_spanOf _).trans htext, ?_, ?_, ?_⟩
  · rintro before stretch after rfl hquoted
    obtain ⟨pre, post, htokens, hpre, hpost⟩ := tokens_quoted hquoted
    refine ⟨pre.map spanOf, post.map spanOf, ?_, (text_map_spanOf _).trans hpre,
      (text_map_spanOf _).trans hpost⟩
    rw [htokens, List.map_append, List.map_cons]
    rfl
  · rintro before comment rfl hcomment
    obtain ⟨pre, htokens, hpre⟩ := tokens_comment hcomment
    refine ⟨pre.map spanOf, ?_, (text_map_spanOf _).trans hpre⟩
    rw [htokens, List.map_append]
    rfl
  · intro pre token post htokens
    have hplace : (textOf pre, token) ∈ placesFrom [] (tokens line) := by
      rw [htokens, placesFrom_append]
      exact List.mem_append_right _ List.mem_cons_self
    have hbegun : Begun none [] [] := ⟨rfl, nofun⟩
    have hright : IsRight line (textOf pre, token) :=
      isRight_of_mem_placesFrom hbegun (noComment_nil line) hplace
    have hline : line = textOf pre ++ token.text ++ textOf post := by
      rw [← htext, htokens, textOf_append, textOf_cons, List.append_assoc]
    refine ⟨fun hkind => ?_, fun hkind => ?_⟩
    · obtain ⟨after, heq, hquoted⟩ := hright.quoted hkind
      rwa [List.append_cancel_left (hline.symm.trans heq)]
    · obtain ⟨heq, hcomment⟩ := hright.comment hkind
      exact ⟨hcomment,
        List.append_cancel_left ((hline.symm.trans heq).trans (List.append_nil _).symm)⟩

/-- Two slashes in quotes begin no comment, and a quote in the comment begins no stretch. -/
theorem highlighting_lossless_slashes :
    let line : Text := "π = \"// it's\" + n // don't"
    QuotedAt "π = " "\"// it's\"" " + n // don't" ∧ CommentAt "π = \"// it's\" + n " "// don't" ∧
      (∃ pre post : Line, highlighted line =
        pre ++ ⟨"\"// it's\"", TokenKind.quoted.style⟩ :: post ∧ pre.text = "π = ".toList ∧
        post.text = " + n // don't".toList) ∧
      ∃ pre : Line, highlighted line = pre ++ [⟨"// don't", TokenKind.comment.style⟩] ∧
        pre.text = "π = \"// it's\" + n ".toList := by
  intro line
  have hquotes : "\"// it's\"".toList = '"' :: "// it's".toList ++ ['"'] := by decide +kernel
  have hquoted : QuotedAt "π = " "\"// it's\"" " + n // don't" :=
    ⟨by decide +kernel, by decide +kernel, hquotes ▸ .closed rfl (by decide +kernel) _⟩
  have hcomment : CommentAt "π = \"// it's\" + n " "// don't" :=
    ⟨by decide +kernel, by decide +kernel⟩
  obtain ⟨_, hstretch, hlast, _⟩ := highlighting_lossless line
  exact ⟨hquoted, hcomment, hstretch _ _ _ (by decide +kernel) hquoted,
    hlast _ _ (by decide +kernel) hcomment⟩

end Highlight
end Stepwise
