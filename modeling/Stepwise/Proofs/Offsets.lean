import Stepwise.Proofs.Scanning

/-!
# Places outside quotes

A scan tells the places of the characters outside quotes as offsets in bytes of UTF-8. Here it is
said which places these are, and what an offset is good for:

- `QuotesClosed` says without a scan that no quotes are open after a text (`quotesClosed_iff`), so
  that `mem_unquoted_iff` says which characters of a text stand outside quotes,
- the offsets increase (`pairwise_offset`), so that a search gives what it finds at the least offset
  (`findSome?_eq_some_iff_least`),
- `cutBytes?` cuts a text at an offset, which is possible at the boundaries between its characters
  and nowhere else (`isSome_cutBytes?_iff`).
-/

namespace Stepwise
namespace Text

/-! ### Closed quotes -/

/-- All quotes of the text are closed: it consists of characters that are no quotes, and of
    stretches from a quote to the next one of the same kind. -/
inductive QuotesClosed : Text → Prop where
  | nil : QuotesClosed []
  | plain {c : Char} {rest : Text} (hc : isQuote c = false) (hrest : QuotesClosed rest) :
    QuotesClosed (c :: rest)
  | quoted {mark : Char} {inner rest : Text} (hmark : isQuote mark = true) (hinner : mark ∉ inner)
    (hrest : QuotesClosed rest) : QuotesClosed (mark :: inner ++ mark :: rest)

theorem QuotesClosed.quoteAfter_eq {text : Text} (h : text.QuotesClosed) :
    text.quoteAfter = none := by
  induction h with
  | nil => rfl
  | @plain c rest hc _ ih =>
    have hnext : Quote.next none c = none := if_neg (by rw [hc]; exact Bool.false_ne_true)
    show rest.foldl Quote.next (Quote.next none c) = none
    rw [hnext]
    exact ih
  | @quoted mark inner rest hmark hinner _ ih =>
    have hopen : Quote.next none mark = some mark := if_pos hmark
    have hclose : Quote.next (some mark) mark = none := if_pos rfl
    show (mark :: inner ++ mark :: rest).foldl Quote.next none = none
    rw [List.cons_append, List.foldl_cons, hopen, List.foldl_append, foldl_next_of_not_mem hinner,
      List.foldl_cons, hclose]
    exact ih

/-- A scan that ends outside quotes has closed the stretch that it began in, if there was one, and
    all later ones. -/
theorem quotesClosed_of_foldl {quote : Quote} {text : Text}
    (h : text.foldl Quote.next quote = none) :
    (quote = none → text.QuotesClosed) ∧
      ∀ mark, quote = some mark →
        ∃ inner rest : Text, text = inner ++ mark :: rest ∧ mark ∉ inner ∧ rest.QuotesClosed := by
  -- the two states of the scan need each other, so they go through one induction
  induction text generalizing quote with
  | nil =>
    refine ⟨fun _ => .nil, ?_⟩
    intro mark hquote
    exact absurd (hquote.symm.trans h) (Option.some_ne_none mark)
  | cons c text ih =>
    rw [List.foldl_cons] at h
    obtain ⟨houtside, hinside⟩ := ih h
    constructor
    · intro hquote
      by_cases hc : isQuote c = true
      · have hnext : quote.next c = some c := by rw [hquote]; exact if_pos hc
        obtain ⟨inner, rest, htext, hinner, hrest⟩ := hinside c hnext
        rw [htext]
        exact .quoted hc hinner hrest
      · have hnext : quote.next c = none := by rw [hquote]; exact if_neg hc
        exact .plain (Bool.eq_false_iff.mpr hc) (houtside hnext)
    · intro mark hquote
      by_cases hc : c = mark
      · have hnext : quote.next c = none := by rw [hquote]; exact if_pos hc
        exact ⟨[], text, by rw [hc, List.nil_append], List.not_mem_nil, houtside hnext⟩
      · have hnext : quote.next c = some mark := by rw [hquote]; exact if_neg hc
        obtain ⟨inner, rest, htext, hinner, hrest⟩ := hinside mark hnext
        refine ⟨c :: inner, rest, by rw [htext, List.cons_append], ?_, hrest⟩
        intro hmem
        rcases List.mem_cons.mp hmem with heq | hmem
        · exact hc heq.symm
        · exact hinner hmem

/-- The scan is outside quotes exactly after the texts whose quotes are closed. -/
theorem quotesClosed_iff {text : Text} : text.QuotesClosed ↔ text.quoteAfter = none :=
  ⟨QuotesClosed.quoteAfter_eq, fun h => (quotesClosed_of_foldl h).1 rfl⟩

/-! ### Cuts -/

/-- The cuts of a text that is read on from `seen`. -/
theorem mem_unquotedFrom_iff {quote : Quote} {seen text : Text} {cut : Cut} :
    cut ∈ unquotedFrom quote seen text ↔
      ∃ between : Text, cut.seen = between.reverse ++ seen ∧ text = between ++ cut.onward ∧
        (between.foldl Quote.next quote).isOutside cut.char = true := by
  induction text generalizing quote seen with
  | nil =>
    constructor
    · intro h
      exact absurd h List.not_mem_nil
    · intro h
      obtain ⟨between, _, htext, _⟩ := h
      exact absurd (List.append_eq_nil_iff.mp htext.symm).2 (List.cons_ne_nil _ _)
  | cons c rest ih =>
    -- the cut is at `c`, or it is one of those that the scan finds when it has read `c`
    have hcases : cut ∈ unquotedFrom quote seen (c :: rest) ↔
        (quote.isOutside c = true ∧ cut = ⟨seen, c, rest⟩) ∨
          cut ∈ unquotedFrom (quote.next c) (c :: seen) rest := by
      rw [unquotedFrom]
      split
      · rename_i hc
        rw [List.mem_cons, and_iff_right hc]
      · rename_i hc
        rw [or_iff_right fun h => hc h.1]
    rw [hcases, ih]
    constructor
    · intro h
      rcases h with ⟨hc, rfl⟩ | ⟨between, hseen, htext, hout⟩
      · exact ⟨[], rfl, rfl, hc⟩
      · refine ⟨c :: between, ?_, by rw [htext, List.cons_append], hout⟩
        rw [hseen, List.reverse_cons, List.append_assoc, List.singleton_append]
    · intro h
      obtain ⟨between, hseen, htext, hout⟩ := h
      cases between with
      | nil =>
        left
        obtain ⟨rfl, rfl⟩ := List.cons.inj htext
        obtain rfl : cut.seen = seen := hseen
        exact ⟨hout, rfl⟩
      | cons d between =>
        right
        obtain ⟨rfl, hrest⟩ := List.cons.inj htext
        refine ⟨between, ?_, hrest, hout⟩
        rw [hseen, List.reverse_cons, List.append_assoc, List.singleton_append]

/-- A character stands outside quotes when the quotes before it are closed and it is no quote
    itself. -/
theorem mem_unquoted_iff {text : Text} {cut : Cut} :
    cut ∈ text.unquoted ↔ text = cut.before ++ cut.onward ∧ cut.before.QuotesClosed ∧
      isQuote cut.char = false := by
  have houtside : (cut.before.foldl Quote.next none).isOutside cut.char = true ↔
      cut.before.QuotesClosed ∧ isQuote cut.char = false := by
    rw [quotesClosed_iff, Quote.isOutside, Bool.and_eq_true, Option.isNone_iff_eq_none,
      Bool.not_eq_true']
    exact Iff.rfl
  rw [unquoted, mem_unquotedFrom_iff]
  constructor
  · intro h
    obtain ⟨between, hseen, htext, hout⟩ := h
    have hbefore : cut.before = between := by
      rw [Cut.before, hseen, List.append_nil, List.reverse_reverse]
    rw [hbefore] at houtside ⊢
    exact ⟨htext, houtside.mp hout⟩
  · intro h
    obtain ⟨htext, hout⟩ := h
    refine ⟨cut.before, ?_, htext, houtside.mpr hout⟩
    rw [Cut.before, List.reverse_reverse, List.append_nil]

/-! ### Offsets -/

theorem utf8Size_append (text text' : Text) :
    utf8Size (text ++ text') = utf8Size text + utf8Size text' := by
  induction text with
  | nil => exact (Nat.zero_add _).symm
  | cons c text ih =>
    show c.utf8Size + utf8Size (text ++ text') = c.utf8Size + utf8Size text + utf8Size text'
    rw [ih, Nat.add_assoc]

theorem utf8Size_reverse (text : Text) : utf8Size text.reverse = utf8Size text := by
  induction text with
  | nil => rfl
  | cons c text ih =>
    rw [List.reverse_cons, utf8Size_append, ih]
    exact Nat.add_comm _ _

/-- The size of a text is the number of bytes of the string with its characters. -/
theorem utf8ByteSize_ofList (text : Text) : (String.ofList text).utf8ByteSize = utf8Size text := by
  induction text with
  | nil => rfl
  | cons c text ih =>
    rw [← List.singleton_append, String.ofList_append, String.utf8ByteSize_append, ih,
      ← String.singleton_eq_ofList, String.utf8ByteSize_singleton]
    rfl

theorem offset_eq (cut : Cut) : cut.offset = utf8Size cut.before := (utf8Size_reverse cut.seen).symm

theorem pairwise_offset_from (quote : Quote) (seen text : Text) :
    (unquotedFrom quote seen text).Pairwise fun cut later => cut.offset < later.offset := by
  induction text generalizing quote seen with
  | nil => exact List.Pairwise.nil
  | cons c rest ih =>
    rw [unquotedFrom]
    split
    · refine List.pairwise_cons.mpr ⟨?_, ih _ _⟩
      intro later hlater
      -- a later cut has seen `c`, which takes at least one byte
      obtain ⟨between, hseen, -, -⟩ := mem_unquotedFrom_iff.mp hlater
      have hsize : later.offset = utf8Size between.reverse + (c.utf8Size + utf8Size seen) := by
        rw [Cut.offset, hseen, utf8Size_append]
        rfl
      have hpos := c.utf8Size_pos
      show utf8Size seen < later.offset
      omega
    · exact ih _ _

/-- The offsets of the characters outside quotes increase. -/
theorem pairwise_offset (text : Text) :
    text.unquoted.Pairwise fun cut later => cut.offset < later.offset :=
  pairwise_offset_from none [] text

/-- A search gives what it finds at the least offset at which there is something to find. -/
theorem findSome?_eq_some_iff_least {β : Type} {f : Cut → Option β} {text : Text} {b : β} :
    text.unquoted.findSome? f = some b ↔
      ∃ cut ∈ text.unquoted, f cut = some b ∧
        ∀ other ∈ text.unquoted, (f other).isSome = true → cut.offset ≤ other.offset := by
  have hpairwise := pairwise_offset text
  constructor
  · intro h
    obtain ⟨earlier, cut, later, hcuts, hfound, hnone⟩ := List.findSome?_eq_some_iff.mp h
    rw [hcuts] at hpairwise ⊢
    refine ⟨cut, by simp, hfound, ?_⟩
    intro other hother hsome
    rcases List.mem_append.mp hother with hother | hother
    · rw [hnone other hother] at hsome
      cases hsome
    · rcases List.mem_cons.mp hother with rfl | hother
      · exact Nat.le_refl _
      · have hlater := (List.pairwise_append.mp hpairwise).2.1
        exact Nat.le_of_lt (List.rel_of_pairwise_cons hlater hother)
  · intro h
    obtain ⟨cut, hcut, hfound, hleast⟩ := h
    obtain ⟨earlier, later, hcuts⟩ := List.append_of_mem hcut
    refine List.findSome?_eq_some_iff.mpr ⟨earlier, cut, later, hcuts, hfound, ?_⟩
    intro other hother
    by_contra hsome
    -- an earlier cut at which something is found would have a lesser offset
    have hle := hleast other (by rw [hcuts]; exact List.mem_append_left _ hother)
      (Option.isSome_iff_ne_none.mpr hsome)
    rw [hcuts] at hpairwise
    have hlt := (List.pairwise_append.mp hpairwise).2.2 other hother cut List.mem_cons_self
    omega

/-- The characters outside quotes, each with its offset. -/
def positions (text : Text) : List (Nat × Char) :=
  text.unquoted.map fun cut => (cut.offset, cut.char)

theorem pairwise_positions (text : Text) : (text.positions.map Prod.fst).Pairwise (· < ·) := by
  rw [positions, List.map_map, List.pairwise_map]
  exact pairwise_offset text

theorem mem_positions_iff {text : Text} {offset : Nat} {c : Char} :
    (offset, c) ∈ text.positions ↔
      ∃ before rest : Text, text = before ++ c :: rest ∧ utf8Size before = offset ∧
        before.QuotesClosed ∧
        isQuote c = false := by
  rw [positions, List.mem_map]
  constructor
  · intro h
    obtain ⟨cut, hcut, heq⟩ := h
    obtain ⟨htext, hclosed, hquote⟩ := mem_unquoted_iff.mp hcut
    obtain ⟨rfl, rfl⟩ := Prod.mk.inj heq
    exact ⟨cut.before, cut.rest, htext, (offset_eq cut).symm, hclosed, hquote⟩
  · intro h
    obtain ⟨before, rest, htext, hsize, hclosed, hquote⟩ := h
    have hbefore : Cut.before ⟨before.reverse, c, rest⟩ = before := List.reverse_reverse before
    refine ⟨⟨before.reverse, c, rest⟩, mem_unquoted_iff.mpr ?_, ?_⟩
    · rw [hbefore]
      exact ⟨htext, hclosed, hquote⟩
    · rw [offset_eq, hbefore, hsize]

/-! ### Cutting at an offset -/

/-- What stands before and after an offset in bytes. A text is not cut inside a character, nor after
    its end. -/
def cutBytes? : Nat → Text → Option (Text × Text)
  | 0, text => some ([], text)
  | _ + 1, [] => none
  | offset + 1, c :: rest =>
    if c.utf8Size ≤ offset + 1 then
      (cutBytes? (offset + 1 - c.utf8Size) rest).map fun (before, after) => (c :: before, after)
    else none

theorem cutBytes?_cons {c : Char} {offset : Nat} (rest : Text) :
    cutBytes? (c.utf8Size + offset) (c :: rest) =
      (cutBytes? offset rest).map fun (before, after) => (c :: before, after) := by
  have hpos := c.utf8Size_pos
  obtain ⟨n, hn⟩ : ∃ n, c.utf8Size + offset = n + 1 := ⟨c.utf8Size + offset - 1, by omega⟩
  have hrest : n + 1 - c.utf8Size = offset := by omega
  rw [hn, cutBytes?, if_pos (by omega), hrest]

/-- A text is cut between two parts at the size of the first one. -/
theorem cutBytes?_append (before after : Text) :
    cutBytes? (utf8Size before) (before ++ after) = some (before, after) := by
  induction before with
  | nil =>
    show cutBytes? 0 after = some ([], after)
    rw [cutBytes?]
  | cons c before ih =>
    have hsize : utf8Size (c :: before) = c.utf8Size + utf8Size before := rfl
    rw [hsize, List.cons_append, cutBytes?_cons, ih]
    rfl

theorem eq_append_of_cutBytes? {offset : Nat} {text before after : Text}
    (h : cutBytes? offset text = some (before, after)) :
    text = before ++ after ∧ utf8Size before = offset := by
  induction text generalizing offset before with
  | nil =>
    cases offset with
    | zero =>
      cases h
      exact ⟨rfl, rfl⟩
    | succ offset => cases h
  | cons c rest ih =>
    cases offset with
    | zero =>
      cases h
      exact ⟨rfl, rfl⟩
    | succ offset =>
      rw [cutBytes?] at h
      split at h
      · rename_i hle
        obtain ⟨parts, hparts, heq⟩ := Option.map_eq_some_iff.mp h
        obtain ⟨rfl, rfl⟩ := Prod.mk.inj heq
        obtain ⟨hrest, hsize⟩ := ih hparts
        refine ⟨by rw [hrest, List.cons_append], ?_⟩
        show c.utf8Size + utf8Size parts.1 = offset + 1
        omega
      · cases h

/-- A text can be cut at the boundaries between its characters in UTF-8, and nowhere else. -/
theorem isSome_cutBytes?_iff {offset : Nat} {text : Text} :
    (cutBytes? offset text).isSome = true ↔
      String.Pos.Raw.IsValid (String.ofList text) ⟨offset⟩ := by
  rw [String.Pos.Raw.isValid_ofList]
  constructor
  · intro h
    obtain ⟨parts, hparts⟩ := Option.isSome_iff_exists.mp h
    obtain ⟨htext, hsize⟩ := eq_append_of_cutBytes? hparts
    refine ⟨parts.1.length, ?_⟩
    rw [htext, List.take_left, utf8ByteSize_ofList, hsize]
  · intro h
    obtain ⟨length, hlength⟩ := h
    have hoffset : offset = utf8Size (text.take length) := hlength.trans (utf8ByteSize_ofList _)
    have hcut := cutBytes?_append (text.take length) (text.drop length)
    rw [List.take_append_drop, ← hoffset] at hcut
    rw [hcut]
    rfl

end Text
end Stepwise
