import Stepwise.Expression
import Stepwise.Proofs.Offsets
import Stepwise.Proofs.Text

/-!
# Splitting at an operator

An expression is split at the first place outside quotes where an operator stands with text on both
sides. The search is the same for both kinds of operators, and so is what is said about it:

- `OperatorFamily` is what the search needs to know of a kind of operators: their texts, and which
  one a text begins with; where two of them begin a text the longer one counts,
- `SplitsAt` says that a text can be split at a place, and `SplitsFirst` that this is the first such
  place; `split?_eq_some_iff` and `isSome_split?_iff` show that the search finds it,
- `splitByOffset?` makes the same search with offsets in bytes, at which the text is cut; no offset
  that it comes to lies inside a character (`splitByOffset?_eq`),
- `operators_split_leftmost` puts this together for the two kinds of operators.
-/

namespace Stepwise
namespace Expression

/-! ### Reading an operator -/

/-- The text begins with no operator that is longer than `op`. -/
def Longest {α : Type} (symbol : α → Text) (op : α) (text : Text) : Prop :=
  ∀ op', symbol op' <+: text → (symbol op').length ≤ (symbol op).length

/-- A kind of operators. -/
structure OperatorFamily (α : Type) where
  /-- The text of an operator. -/
  symbol : α → Text
  /-- The operator that a text begins with, and what follows it. -/
  read? : Text → Option (α × Text)
  /-- Of the operators that a text begins with, the longest one is read. -/
  read?_eq_some_iff : ∀ {text : Text} {op : α} {rest : Text},
    read? text = some (op, rest) ↔ text = symbol op ++ rest ∧ Longest symbol op text
  /-- Operators are not empty, and do not begin with a quote. -/
  exists_head : ∀ op, ∃ c more, symbol op = c :: more ∧ isQuote c = false
  /-- Each character of an operator takes one byte. -/
  utf8Size_symbol : ∀ op, Text.utf8Size (symbol op) = (symbol op).length

theorem ofChar?_eq_some_iff {c : Char} {op : Arithmetic} :
    Arithmetic.ofChar? c = some op ↔ op.symbol = [c] := by
  constructor
  · intro h
    unfold Arithmetic.ofChar? at h
    split at h <;> cases h <;> rfl
  · intro h
    cases op <;> cases h <;> rfl

/-- The arithmetic operator that a text begins with, and what follows it. -/
def readArithmetic? : Text → Option (Arithmetic × Text)
  | [] => none
  | c :: rest => (Arithmetic.ofChar? c).map fun op => (op, rest)

theorem readArithmetic?_eq_some_iff {text : Text} {op : Arithmetic} {rest : Text} :
    readArithmetic? text = some (op, rest) ↔ text = op.symbol ++ rest ∧
      Longest Arithmetic.symbol op text := by
  have hlength : ∀ op : Arithmetic, op.symbol.length = 1 := by
    intro op
    cases op <;> rfl
  have hlongest : Longest Arithmetic.symbol op text := by
    intro op' _
    rw [hlength op, hlength op']
  rw [and_iff_left hlongest]
  cases text with
  | nil =>
    constructor
    · intro h
      cases h
    · intro h
      cases op <;> cases h
  | cons c text =>
    rw [readArithmetic?, Option.map_eq_some_iff]
    constructor
    · intro h
      obtain ⟨op', hchar, heq⟩ := h
      obtain ⟨rfl, rfl⟩ := Prod.mk.inj heq
      rw [ofChar?_eq_some_iff.mp hchar, List.singleton_append]
    · intro h
      -- the operator is the first character, whichever it is
      obtain ⟨d, hd⟩ := List.length_eq_one_iff.mp (hlength op)
      rw [hd, List.singleton_append] at h
      obtain ⟨rfl, rfl⟩ := List.cons.inj h
      exact ⟨op, ofChar?_eq_some_iff.mpr hd, rfl⟩

/-- An operator is read as such, if no `=` follows that would make it another one. -/
theorem read?_symbol (op : Comparison) {rest : Text} (h : ∀ c, rest.head? = some c → c ≠ '=') :
    Comparison.read? (op.symbol ++ rest) = some (op, rest) := by
  cases rest with
  | nil => cases op <;> rfl
  | cons c rest =>
    have hc : c ≠ '=' := h c rfl
    cases op <;> simp [Comparison.symbol, Comparison.read?, hc]

theorem length_symbol_le (op : Comparison) : op.symbol.length ≤ 2 := by
  cases op <;> decide

/-- A sign that is read alone is not followed by `=`, so that no operator of two characters stands
    there. -/
theorem longest_of_sign {op : Comparison} {c : Char} {rest : Text} (hop : op.symbol = [c])
    (hrest : ∀ more, rest ≠ '=' :: more) : Longest Comparison.symbol op (c :: rest) := by
  intro op' hbegins
  rw [hop]
  have htwo : ∀ d : Char, op'.symbol = [d, '='] → op'.symbol.length ≤ 1 := by
    intro d hd
    rw [hd] at hbegins
    obtain ⟨more, hmore⟩ := (List.cons_prefix_cons.mp hbegins).2
    exact absurd hmore.symm (hrest more)
  cases op' with
  | eq => exact htwo '=' rfl
  | ne => exact htwo '!' rfl
  | lt => exact Nat.le_refl 1
  | gt => exact Nat.le_refl 1
  | le => exact htwo '<' rfl
  | ge => exact htwo '>' rfl

theorem readComparison?_eq_some_iff {text : Text} {op : Comparison} {rest : Text} :
    Comparison.read? text = some (op, rest) ↔ text = op.symbol ++ rest ∧
      Longest Comparison.symbol op text := by
  constructor
  · intro h
    unfold Comparison.read? at h
    split at h <;> cases h
    case h_5 hnot => exact ⟨rfl, longest_of_sign rfl hnot⟩
    case h_6 hnot => exact ⟨rfl, longest_of_sign rfl hnot⟩
    all_goals exact ⟨rfl, fun op' _ => length_symbol_le op'⟩
  · intro h
    obtain ⟨htext, hlongest⟩ := h
    subst htext
    -- an operator of one character is not followed by `=`, since the two would be a longer one
    have hhead : ∀ longer : Comparison, longer.symbol = op.symbol ++ ['='] →
        ∀ c, rest.head? = some c → c ≠ '=' := by
      intro longer hlonger c hc heq
      obtain ⟨more, hmore⟩ := List.head?_eq_some_iff.mp hc
      have hle := hlongest longer
        ⟨more, by rw [hlonger, hmore, heq, List.append_assoc, List.singleton_append]⟩
      rw [hlonger, List.length_append] at hle
      exact absurd hle (Nat.not_succ_le_self _)
    cases op with
    | lt => exact read?_symbol .lt (hhead .le rfl)
    | gt => exact read?_symbol .gt (hhead .ge rfl)
    | eq => rfl
    | ne => rfl
    | le => rfl
    | ge => rfl

namespace OperatorFamily

/-- The arithmetic operators. -/
def arithmetic : OperatorFamily Arithmetic where
  symbol := Arithmetic.symbol
  read? := readArithmetic?
  read?_eq_some_iff := readArithmetic?_eq_some_iff
  exists_head := by
    intro op
    cases op <;> exact ⟨_, _, rfl, rfl⟩
  utf8Size_symbol := by
    intro op
    cases op <;> rfl

/-- The comparison operators. -/
def comparison : OperatorFamily Comparison where
  symbol := Comparison.symbol
  read? := Comparison.read?
  read?_eq_some_iff := readComparison?_eq_some_iff
  exists_head := by
    intro op
    cases op <;> exact ⟨_, _, rfl, rfl⟩
  utf8Size_symbol := by
    intro op
    cases op <;> rfl

end OperatorFamily

/-! ### Places to split at -/

section
variable {α : Type}

/-- The text can be split between `before` and `after`: the operator stands between them and outside
    quotes, no longer operator stands there, and neither side is blank. So `a <=` cannot be split at
    `<`: the operator there is `<=`, and nothing follows it. -/
structure SplitsAt (symbol : α → Text) (text before : Text) (op : α) (after : Text) : Prop where
  text_eq : text = before ++ (symbol op ++ after)
  quotes : before.QuotesClosed
  longest : Longest symbol op (symbol op ++ after)
  left : before.allBlank = false
  right : after.allBlank = false

/-- The text can be split at this place, and at none before it. -/
structure SplitsFirst (symbol : α → Text) (text before : Text) (op : α) (after : Text) : Prop
    extends SplitsAt symbol text before op after where
  first : ∀ {before' : Text} {op' : α} {after' : Text}, SplitsAt symbol text before' op' after' →
    Text.utf8Size before ≤ Text.utf8Size before'

/-- What is found in the text is the first place where it can be split, with what is left of both
    sides when blanks are taken away; and there is one to be found whenever the text can be split at
    all. -/
structure SplitsLeftmost (symbol : α → Text) (text : Text) (found : Option (Text × α × Text)) :
    Prop where
  isSome_iff : found.isSome = true ↔ ∃ before op after, SplitsAt symbol text before op after
  eq_some_iff : ∀ {left : Text} {op : α} {right : Text}, found = some (left, op, right) ↔
    ∃ before after, SplitsFirst symbol text before op after ∧ left = before.trim ∧
      right = after.trim

variable {symbol : α → Text} {text before after left right : Text} {op : α}

/-- The operands are parts of the text. -/
theorem SplitsAt.infix_operands (h : SplitsAt symbol text before op after) :
    before.trim <:+: text ∧ after.trim <:+: text := by
  rw [h.text_eq]
  constructor
  · exact (Text.infix_trim before).trans (List.prefix_append _ _).isInfix
  · exact (Text.infix_trim after).trans
      ((List.suffix_append _ _).trans (List.suffix_append _ _)).isInfix

/-- The operands are shorter than the text, since both sides have text. -/
theorem SplitsAt.length_operands (h : SplitsAt symbol text before op after) :
    before.trim.length < text.length ∧ after.trim.length < text.length := by
  have hpos : ∀ side : Text, side.allBlank = false → 0 < side.length := by
    intro side hside
    apply List.length_pos_iff.mpr
    rintro rfl
    cases hside
  have hbefore := hpos before h.left
  have hafter := hpos after h.right
  have hlength := congrArg List.length h.text_eq
  rw [List.length_append, List.length_append] at hlength
  have htrim := Text.length_trim_le before
  have htrim' := Text.length_trim_le after
  omega

theorem operands?_eq_some_iff {op' : α} :
    operands? op before after = some (left, op', right) ↔
      before.allBlank = false ∧ after.allBlank = false ∧ left = before.trim ∧ op' = op ∧
        right = after.trim := by
  have hblank : ∀ text : Text, text.trim.isEmpty = text.allBlank := by
    intro text
    rw [Bool.eq_iff_iff, List.isEmpty_iff]
    exact Text.trim_eq_nil_iff
  simp only [operands?, hblank]
  by_cases hside : (before.allBlank || after.allBlank) = true
  · rw [if_pos hside]
    constructor
    · intro h
      cases h
    · intro h
      obtain ⟨hbefore, hafter, _⟩ := h
      rw [hbefore, hafter] at hside
      cases hside
  · rw [if_neg hside]
    rw [Bool.not_eq_true, Bool.or_eq_false_iff] at hside
    constructor
    · intro h
      cases h
      exact ⟨hside.1, hside.2, rfl, rfl, rfl⟩
    · intro h
      obtain ⟨_, _, hleft, hop, hright⟩ := h
      rw [hleft, hop, hright]

/-! ### The search -/

namespace OperatorFamily
variable (ops : OperatorFamily α)

/-- The operands around the operator that stands after `before`, when `onward` follows there. -/
def splitAt? (before onward : Text) : Option (Text × α × Text) :=
  (ops.read? onward).bind fun (op, after) => operands? op before after

/-- The operands around the first operator outside quotes that has text on both sides. -/
def split? (text : Text) : Option (Text × α × Text) :=
  text.unquoted.findSome? fun cut => ops.splitAt? cut.before cut.onward

variable {ops}

/-- At a character outside quotes, the text is split exactly when it can be split there. -/
theorem splitAt?_eq_some_iff {cut : Cut} (hcut : cut ∈ text.unquoted) :
    ops.splitAt? cut.before cut.onward = some (left, op, right) ↔
      ∃ after, SplitsAt ops.symbol text cut.before op after ∧ left = cut.before.trim ∧
        right = after.trim := by
  obtain ⟨htext, hclosed, -⟩ := Text.mem_unquoted_iff.mp hcut
  rw [splitAt?, Option.bind_eq_some_iff]
  constructor
  · intro h
    obtain ⟨found, hread, hoperands⟩ := h
    obtain ⟨hbefore, hafter, hleft, hop, hright⟩ := operands?_eq_some_iff.mp hoperands
    obtain ⟨honward, hlongest⟩ := ops.read?_eq_some_iff.mp hread
    rw [← hop] at honward hlongest
    refine ⟨found.2, ⟨?_, hclosed, ?_, hbefore, hafter⟩, hleft, hright⟩
    · rw [← honward]
      exact htext
    · rw [← honward]
      exact hlongest
  · intro h
    obtain ⟨after, hsplits, hleft, hright⟩ := h
    have honward : cut.onward = ops.symbol op ++ after :=
      List.append_cancel_left (htext.symm.trans hsplits.text_eq)
    refine ⟨(op, after), ops.read?_eq_some_iff.mpr ⟨honward, ?_⟩, ?_⟩
    · rw [honward]
      exact hsplits.longest
    · exact operands?_eq_some_iff.mpr ⟨hsplits.left, hsplits.right, hleft, rfl, hright⟩

/-- Where a text can be split there is a character outside quotes, the first one of the operator. -/
theorem exists_cut (h : SplitsAt ops.symbol text before op after) :
    ∃ cut ∈ text.unquoted, cut.before = before := by
  obtain ⟨c, more, hsymbol, hc⟩ := ops.exists_head op
  have hbefore : Cut.before ⟨before.reverse, c, more ++ after⟩ = before :=
    List.reverse_reverse before
  refine ⟨⟨before.reverse, c, more ++ after⟩, Text.mem_unquoted_iff.mpr ?_, hbefore⟩
  rw [hbefore]
  refine ⟨?_, h.quotes, hc⟩
  rw [h.text_eq, hsymbol]
  rfl

/-- The search splits a text at the first place where it can be split. -/
theorem split?_eq_some_iff :
    ops.split? text = some (left, op, right) ↔
      ∃ before after, SplitsFirst ops.symbol text before op after ∧ left = before.trim ∧
        right = after.trim := by
  rw [split?, Text.findSome?_eq_some_iff_least]
  constructor
  · intro h
    obtain ⟨cut, hcut, hfound, hleast⟩ := h
    obtain ⟨after, hsplits, hleft, hright⟩ := (splitAt?_eq_some_iff hcut).mp hfound
    refine ⟨cut.before, after, ⟨hsplits, ?_⟩, hleft, hright⟩
    intro before' op' after' hother
    obtain ⟨cut', hcut', rfl⟩ := exists_cut hother
    have hsome := (splitAt?_eq_some_iff hcut').mpr ⟨after', hother, rfl, rfl⟩
    have hle := hleast cut' hcut' (by rw [hsome]; rfl)
    rwa [Text.offset_eq, Text.offset_eq] at hle
  · intro h
    obtain ⟨before, after, hsplits, hleft, hright⟩ := h
    obtain ⟨cut, hcut, rfl⟩ := exists_cut hsplits.toSplitsAt
    refine ⟨cut, hcut, (splitAt?_eq_some_iff hcut).mpr ⟨after, hsplits.toSplitsAt, hleft, hright⟩,
      ?_⟩
    intro other hother hsome
    obtain ⟨⟨left', op', right'⟩, hfound⟩ := Option.isSome_iff_exists.mp hsome
    obtain ⟨after', hsplits', -, -⟩ := (splitAt?_eq_some_iff hother).mp hfound
    rw [Text.offset_eq, Text.offset_eq]
    exact hsplits.first hsplits'

/-- The search finds a place whenever there is one. -/
theorem isSome_split?_iff :
    (ops.split? text).isSome = true ↔
      ∃ before op after, SplitsAt ops.symbol text before op after := by
  constructor
  · intro h
    obtain ⟨⟨left, op, right⟩, hfound⟩ := Option.isSome_iff_exists.mp h
    obtain ⟨before, after, hsplits, -, -⟩ := split?_eq_some_iff.mp hfound
    exact ⟨before, op, after, hsplits.toSplitsAt⟩
  · intro h
    obtain ⟨before, op, after, hsplits⟩ := h
    obtain ⟨cut, hcut, rfl⟩ := exists_cut hsplits
    have hsome := (splitAt?_eq_some_iff hcut).mpr ⟨after, hsplits, rfl, rfl⟩
    exact List.findSome?_isSome_iff.mpr ⟨cut, hcut, by rw [hsome]; rfl⟩

variable (ops)

theorem splitsLeftmost_split? (text : Text) : SplitsLeftmost ops.symbol text (ops.split? text) :=
  ⟨isSome_split?_iff, split?_eq_some_iff⟩

/-! ### The search by offsets -/

/-- What the search finds at an offset, where as many bytes are passed over as the operator has
    characters. There is no answer if the text cannot be cut at one of the two offsets. -/
def splitAtOffset? (text : Text) (offset : Nat) : Option (Option (Text × α × Text)) := do
  let (before, onward) ← text.cutBytes? offset
  match ops.read? onward with
  | none => return none
  | some (op, _) =>
    let (_, after) ← text.cutBytes? (offset + (ops.symbol op).length)
    return operands? op before after

/-- The search that knows the offsets of the characters outside quotes. There is no answer if it
    comes to an offset at which the text cannot be cut. -/
def splitByOffset? (text : Text) : Option (Option (Text × α × Text)) :=
  text.positions.findSomeM? fun place => ops.splitAtOffset? text place.1

/-- At the offset of a character outside quotes, the text can be cut, and is split in the same
    way. -/
theorem splitAtOffset?_offset {cut : Cut} (hcut : cut ∈ text.unquoted) :
    ops.splitAtOffset? text cut.offset = some (ops.splitAt? cut.before cut.onward) := by
  obtain ⟨htext, -, -⟩ := Text.mem_unquoted_iff.mp hcut
  have hbefore : text.cutBytes? cut.offset = some (cut.before, cut.onward) := by
    rw [htext, Text.offset_eq]
    exact Text.cutBytes?_append _ _
  rw [splitAtOffset?, hbefore, splitAt?]
  simp only [Option.bind_eq_bind, Option.bind_some]
  cases hread : ops.read? cut.onward with
  | none => rfl
  | some found =>
    -- the operator begins what is read from here on, so that the next cut is between it and what
    -- follows
    have honward := (ops.read?_eq_some_iff.mp hread).1
    have hafter : text.cutBytes? (cut.offset + (ops.symbol found.1).length) =
        some (cut.before ++ ops.symbol found.1, found.2) := by
      rw [htext, honward, Text.offset_eq, ← ops.utf8Size_symbol, ← Text.utf8Size_append,
        ← List.append_assoc]
      exact Text.cutBytes?_append _ _
    simp only [hafter]
    rfl

/-- The search by offsets never fails, and finds the same. -/
theorem splitByOffset?_eq (text : Text) : ops.splitByOffset? text = some (ops.split? text) := by
  have hrun : ∀ cuts : List Cut, (∀ cut ∈ cuts, cut ∈ text.unquoted) →
      (cuts.map fun cut => (cut.offset, cut.char)).findSomeM?
        (fun place => ops.splitAtOffset? text place.1) =
        some (cuts.findSome? fun cut => ops.splitAt? cut.before cut.onward) := by
    intro cuts hcuts
    induction cuts with
    | nil => rfl
    | cons cut cuts ih =>
      have hlater := ih fun later hmem => hcuts later (List.mem_cons_of_mem _ hmem)
      rw [List.map_cons, List.findSomeM?_cons,
        ops.splitAtOffset?_offset (hcuts cut List.mem_cons_self), List.findSome?_cons, hlater]
      cases ops.splitAt? cut.before cut.onward <;> rfl
  exact hrun text.unquoted fun _ hmem => hmem

end OperatorFamily
end

/-! ### The two kinds of operators -/

theorem splitArithmetic?_eq (text : Text) :
    splitArithmetic? text = OperatorFamily.arithmetic.split? text := by
  have hsame : ∀ cut : Cut,
      ((Arithmetic.ofChar? cut.char).bind fun op => operands? op cut.before cut.rest) =
      OperatorFamily.arithmetic.splitAt? cut.before cut.onward := by
    intro cut
    show _ = ((Arithmetic.ofChar? cut.char).map fun op => (op, cut.rest)).bind _
    rw [Option.bind_map]
    rfl
  exact congrArg text.unquoted.findSome? (funext hsame)

theorem splitComparison?_eq (text : Text) :
    splitComparison? text = OperatorFamily.comparison.split? text := rfl

theorem splitsLeftmost_arithmetic (text : Text) :
    SplitsLeftmost Arithmetic.symbol text (splitArithmetic? text) := by
  rw [splitArithmetic?_eq]
  exact OperatorFamily.splitsLeftmost_split? OperatorFamily.arithmetic text

theorem splitsLeftmost_comparison (text : Text) :
    SplitsLeftmost Comparison.symbol text (splitComparison? text) := by
  rw [splitComparison?_eq]
  exact OperatorFamily.splitsLeftmost_split? OperatorFamily.comparison text

/-- Splitting is leftmost and exact. The places outside quotes are told by increasing offsets, at
    each of which a character begins. Either kind of operators splits a text at the first such place
    where an operator stands with text on both sides, and only if there is one; an operator of two
    characters goes before one of one character. The search by offsets finds the same: a text can be
    cut at the boundaries between characters only, and it is cut nowhere else. -/
theorem operators_split_leftmost (text : Text) :
    ((text.positions.map Prod.fst).Pairwise (· < ·) ∧
      (∀ offset c, (offset, c) ∈ text.positions ↔
        ∃ before rest : Text, text = before ++ c :: rest ∧ Text.utf8Size before = offset ∧
          before.QuotesClosed ∧
          isQuote c = false) ∧
      ∀ place ∈ text.positions, String.Pos.Raw.IsValid (String.ofList text) ⟨place.1⟩) ∧
    (SplitsLeftmost Arithmetic.symbol text (splitArithmetic? text) ∧
      SplitsLeftmost Comparison.symbol text (splitComparison? text)) ∧
    (∀ offset, (text.cutBytes? offset).isSome = true ↔
      String.Pos.Raw.IsValid (String.ofList text) ⟨offset⟩) ∧
    OperatorFamily.arithmetic.splitByOffset? text = some (splitArithmetic? text) ∧
    OperatorFamily.comparison.splitByOffset? text = some (splitComparison? text) := by
  refine ⟨⟨text.pairwise_positions, fun offset c => Text.mem_positions_iff, ?_⟩,
    ⟨splitsLeftmost_arithmetic text, splitsLeftmost_comparison text⟩,
    fun offset => Text.isSome_cutBytes?_iff, ?_, ?_⟩
  · intro place hplace
    obtain ⟨before, rest, htext, hsize, -, -⟩ := Text.mem_positions_iff.mp hplace
    apply Text.isSome_cutBytes?_iff.mp
    rw [htext, ← hsize, Text.cutBytes?_append]
    rfl
  · rw [splitArithmetic?_eq]
    exact OperatorFamily.splitByOffset?_eq OperatorFamily.arithmetic text
  · rw [splitComparison?_eq]
    exact OperatorFamily.splitByOffset?_eq OperatorFamily.comparison text

/-- A sign with nothing before it, operators in quotes, `=` after an operator of two characters,
    quotes that are not closed, and characters of two bytes; and an operator of two characters with
    nothing after it. -/
theorem operators_split_leftmost_intricate :
    let text : Text := "-é'<*' >== + 'ü"
    (∃ before after, SplitsFirst Arithmetic.symbol text before .add after ∧
      "-é'<*' >==".toList = before.trim ∧ "'ü".toList = after.trim) ∧
    (∃ before after, SplitsFirst Comparison.symbol text before .ge after ∧
      "-é'<*'".toList = before.trim ∧ "= + 'ü".toList = after.trim) ∧
    String.Pos.Raw.IsValid (String.ofList text) ⟨8⟩ ∧
      ¬ String.Pos.Raw.IsValid (String.ofList text) ⟨2⟩ ∧
    ¬ ∃ before op after, SplitsAt Comparison.symbol "a <=".toList before op after := by
  intro text
  obtain ⟨⟨-, -, hvalid⟩, ⟨harithmetic, hcomparison⟩, hcut, -, -⟩ := operators_split_leftmost text
  refine ⟨harithmetic.eq_some_iff.mp (by decide +kernel),
    hcomparison.eq_some_iff.mp (by decide +kernel), hvalid (8, '>') (by decide +kernel), ?_, ?_⟩
  · intro hinside
    exact absurd ((hcut 2).mpr hinside) (by decide +kernel)
  · intro hsplits
    have hsome := (operators_split_leftmost "a <=".toList).2.1.2.isSome_iff.mpr hsplits
    exact absurd hsome (by decide +kernel)

end Expression
end Stepwise
