import Stepwise.Declaration

/-!
# Bodies of declarations

The body of a declaration is found by counting braces line by line. Here the lines of a body are
told by their numbers instead, so that bodies of different declarations can be compared:

- `Listing.depthAfter` is the number of braces that are open after a line, counted from a line
  before which one is open; `depthAfter_sub` compares two such counts that begin at different lines,
- `Listing.Closes` says that a line is the first one after which none is open,
- `takeBody?_eq_some_iff`: what is taken as a body are the lines before that line,
- `declare_eq_ok_iff` and `declare_eq_error_iff`: what a header declares, and what is wrong with it.
-/

namespace Stepwise

/-- The opening braces less the closing braces of some lines, outside quotes. -/
def totalBalance (lines : List Text) : Int :=
  lines.foldr (fun line balance => line.braceBalance + balance) 0

theorem totalBalance_cons (line : Text) (lines : List Text) :
    totalBalance (line :: lines) = line.braceBalance + totalBalance lines := rfl

theorem totalBalance_append (lines lines' : List Text) :
    totalBalance (lines ++ lines') = totalBalance lines + totalBalance lines' := by
  induction lines with
  | nil => simp [totalBalance]
  | cons line lines ih =>
    rw [List.cons_append, totalBalance_cons, totalBalance_cons, ih]
    omega

/-! ### Depths -/

namespace Listing

/-- The lines from line `first` up to line `last`, which is not one of them. -/
def between (listing : Listing) (first last : Nat) : List Text :=
  (listing.lines.take (last - 1)).drop (first - 1)

/-- The braces that are open after line `number`, when one is open before line `first`. -/
def depthAfter (listing : Listing) (first number : Nat) : Int :=
  1 + totalBalance (listing.between first (number + 1))

/-- Line `last` is the first one from line `first` on after which no brace is open. -/
structure Closes (listing : Listing) (first last : Nat) : Prop where
  first_le : first ≤ last
  le_size : last ≤ listing.size
  closed : listing.depthAfter first last ≤ 0
  open_before : ∀ number, first ≤ number → number < last → 0 < listing.depthAfter first number

variable {listing : Listing} {first number last : Nat}

/-- The braces of the lines up to one are those before it and those from it on. -/
theorem totalBalance_between (listing : Listing) (h : first ≤ last) :
    totalBalance (listing.lines.take (first - 1)) + totalBalance (listing.between first last) =
      totalBalance (listing.lines.take (last - 1)) := by
  have htake : (listing.lines.take (last - 1)).take (first - 1) =
      listing.lines.take (first - 1) := by
    rw [List.take_take, Nat.min_eq_left (by omega)]
  unfold between
  rw [← htake, ← totalBalance_append, List.take_append_drop]

/-- Two counts that begin at different lines differ by the same amount after all later lines. -/
theorem depthAfter_sub (listing : Listing) {first' : Nat} (h : first ≤ number + 1)
    (h' : first' ≤ number + 1) {later : Nat} (hlater : number ≤ later) :
    listing.depthAfter first later - listing.depthAfter first' later =
      listing.depthAfter first number - listing.depthAfter first' number := by
  have hnumber := totalBalance_between listing h
  have hnumber' := totalBalance_between listing h'
  have hlast := totalBalance_between listing (show first ≤ later + 1 by omega)
  have hlast' := totalBalance_between listing (show first' ≤ later + 1 by omega)
  unfold depthAfter
  omega

/-- Before the first line one brace is open. -/
theorem depthAfter_pred (listing : Listing) (h : 1 ≤ first) :
    listing.depthAfter first (first - 1) = 1 := by
  have hbalance := totalBalance_between listing (Nat.le_refl first)
  unfold depthAfter
  rw [show first - 1 + 1 = first from by omega]
  omega

/-- A line changes the depth by its own balance. -/
theorem depthAfter_succ {line : Text} (hfirst : first ≤ number + 1)
    (hline : listing.get? (number + 1) = some line) :
    listing.depthAfter first (number + 1) =
      listing.depthAfter first number + line.braceBalance := by
  have hbefore := totalBalance_between listing hfirst
  have hafter := totalBalance_between listing (show first ≤ number + 1 + 1 by omega)
  have hget : listing.lines[number]? = some line := hline
  have htake : totalBalance (listing.lines.take (number + 1)) =
      totalBalance (listing.lines.take number) + line.braceBalance := by
    rw [List.take_add_one, hget, totalBalance_append]
    simp [totalBalance]
  unfold depthAfter
  rw [Nat.add_sub_cancel] at hbefore hafter
  omega

/-- When no brace is open after some line, there is a first such line. -/
theorem exists_closes (hfirst : first ≤ number) (hsize : number ≤ listing.size)
    (hdepth : listing.depthAfter first number ≤ 0) :
    ∃ last, last ≤ number ∧ listing.Closes first last := by
  induction number using Nat.strongRecOn with
  | ind number ih =>
    -- either no brace is open after an earlier line already, or this line is the first one
    by_cases hearlier : ∃ earlier, first ≤ earlier ∧ earlier < number ∧
      listing.depthAfter first earlier ≤ 0
    · obtain ⟨earlier, hge, hlt, hle⟩ := hearlier
      obtain ⟨last, hlast, hcloses⟩ := ih earlier hlt hge (by omega) hle
      exact ⟨last, by omega, hcloses⟩
    · refine ⟨number, Nat.le_refl _, hfirst, hsize, hdepth, ?_⟩
      intro earlier hge hlt
      by_cases hle : listing.depthAfter first earlier ≤ 0
      · exact absurd ⟨earlier, hge, hlt, hle⟩ hearlier
      · omega

/-- A body has one last line. -/
theorem Closes.unique {last' : Nat} (h : listing.Closes first last)
    (h' : listing.Closes first last') :
    last = last' := by
  rcases Nat.lt_trichotomy last last' with hlt | heq | hgt
  · have := h'.open_before last h.first_le hlt
    have := h.closed
    omega
  · exact heq
  · have := h.open_before last' h'.first_le hgt
    have := h'.closed
    omega

end Listing

/-! ### Taking bodies -/

/-- A body is taken up to the first line after which no brace is open. -/
theorem takeBody?_eq_some_iff {depth : Int} {lines body : List Text} :
    takeBody? depth lines = some body ↔ ∃ k, k < lines.length ∧ body = lines.take k ∧
      depth + totalBalance (lines.take (k + 1)) ≤ 0 ∧
      ∀ j < k, 0 < depth + totalBalance (lines.take (j + 1)) := by
  induction lines generalizing depth body with
  | nil => simp [takeBody?]
  | cons line rest ih =>
    have hstep : ∀ k, depth + totalBalance ((line :: rest).take (k + 1)) =
        depth + line.braceBalance + totalBalance (rest.take k) := by
      intro k
      rw [List.take_succ_cons, totalBalance_cons]
      omega
    have hone : depth + totalBalance ((line :: rest).take 1) = depth + line.braceBalance := by
      rw [hstep 0]
      simp [totalBalance]
    simp only [takeBody?]
    by_cases hclosed : depth + line.braceBalance ≤ 0
    · -- this line closes the body, which has no lines
      rw [if_pos hclosed]
      constructor
      · intro h
        cases h
        exact ⟨0, by simp, by simp, by rw [hone]; exact hclosed, by simp⟩
      · rintro ⟨k, _, rfl, _, hopen⟩
        cases k with
        | zero => rfl
        | succ k =>
          have := hopen 0 (by omega)
          rw [hone] at this
          omega
    · -- this line belongs to the body, and the count goes on with the depth after it
      rw [if_neg hclosed, Option.map_eq_some_iff]
      constructor
      · rintro ⟨body', hbody', rfl⟩
        obtain ⟨k, hk, rfl, hle, hopen⟩ := ih.mp hbody'
        refine ⟨k + 1, by simpa using hk, by simp, by rw [hstep]; exact hle, ?_⟩
        intro j hj
        cases j with
        | zero =>
          rw [hone]
          omega
        | succ j =>
          rw [hstep]
          exact hopen j (by omega)
      · rintro ⟨k, hk, rfl, hle, hopen⟩
        cases k with
        | zero =>
          rw [hone] at hle
          exact absurd hle hclosed
        | succ k =>
          refine ⟨rest.take k,
            ih.mpr ⟨k, by simpa using hk, rfl, by rw [← hstep]; exact hle, ?_⟩, by simp⟩
          intro j hj
          rw [← hstep]
          exact hopen (j + 1) (by omega)

namespace Listing

variable {listing : Listing} {first last : Nat}

/-- The first lines after line `first` are those up to some other line. -/
theorem take_drop_eq_between (h : 1 ≤ first) (k : Nat) :
    (listing.lines.drop (first - 1)).take k = listing.between first (first + k) := by
  unfold between
  rw [List.take_drop, show first + k - 1 = first - 1 + k from by omega]

/-- The body that begins with line `first` has the lines before the one that closes it. -/
theorem takeBody?_drop_eq_some_iff (h : 1 ≤ first) {body : List Text} :
    takeBody? 1 (listing.lines.drop (first - 1)) = some body ↔
      ∃ last, listing.Closes first last ∧ body = listing.between first last := by
  rw [takeBody?_eq_some_iff]
  simp only [take_drop_eq_between h, List.length_drop]
  constructor
  · rintro ⟨k, hk, rfl, hle, hopen⟩
    refine ⟨first + k, ⟨by omega, by unfold size; omega, hle, ?_⟩, rfl⟩
    intro number hge hlt
    obtain ⟨j, rfl⟩ := Nat.exists_eq_add_of_le hge
    exact hopen j (by omega)
  · rintro ⟨last, hcloses, rfl⟩
    obtain ⟨k, rfl⟩ := Nat.exists_eq_add_of_le hcloses.first_le
    have hsize := hcloses.le_size
    unfold size at hsize
    refine ⟨k, by omega, rfl, hcloses.closed, ?_⟩
    intro j hj
    exact hcloses.open_before (first + j) (by omega) (by omega)

end Listing

/-! ### What headers declare -/

/-- The number of the first line of the body, for a header on line `number`. -/
def Header.bodyStart (header : Header) (number : Nat) : Nat :=
  if header.opensBody then number + 1 else number + 2

theorem Header.lt_bodyStart (header : Header) (number : Nat) :
    number < header.bodyStart number := by
  unfold bodyStart
  split <;> omega

namespace Listing

/-- The header on a line, if the line is one. -/
def headerAt? (listing : Listing) (number : Nat) : Option Header :=
  (listing.get? number).bind Header.ofLine?

/-- The opening brace stands at the end of the header on line `number`, or alone on the next
    line. -/
def HasBrace (listing : Listing) (header : Header) (number : Nat) : Prop :=
  header.opensBody = true ∨ listing.get? (number + 1) = some ['{']

/-- After some line of the body, for a header on line `number`, no brace is open. -/
def BodyEnds (listing : Listing) (header : Header) (number : Nat) : Prop :=
  ∃ line, header.bodyStart number ≤ line ∧ line ≤ listing.size ∧
    listing.depthAfter (header.bodyStart number) line ≤ 0

/-- The header on line `number` declares a function: its name, its parameters, and as the body the
    lines from the first one up to the one that closes it. -/
def Declares (listing : Listing) (header : Header) (number : Nat) (d : Declaration) : Prop :=
  ∃ last, listing.Closes (header.bodyStart number) last ∧
    d = ⟨header.name, header.parameters, listing.between (header.bodyStart number) last, number⟩

/-- What is wrong with the header on line `number`: its brace is missing, or else its body does not
    end. -/
def Faults (listing : Listing) (header : Header) (number : Nat) (fault : DeclarationFault) : Prop :=
  (¬ listing.HasBrace header number ∧ fault = .missingBrace header.name number) ∨
    (listing.HasBrace header number ∧ ¬ listing.BodyEnds header number ∧
      fault = .unclosedBody header.name number)

variable {listing : Listing} {header : Header} {number : Nat}

theorem headerAt?_pos (h : listing.headerAt? number = some header) : 1 ≤ number := by
  cases number with
  | zero => cases h
  | succ number => omega

theorem headerAt?_le_size (h : listing.headerAt? number = some header) : number ≤ listing.size := by
  cases number with
  | zero => exact Nat.zero_le _
  | succ number =>
    obtain ⟨line, hline, _⟩ := Option.bind_eq_some_iff.mp h
    exact (List.getElem?_eq_some_iff.mp hline).1

/-- A brace alone is no header. -/
theorem headerAt?_brace (h : listing.get? number = some ['{']) :
    listing.headerAt? number = none := by
  unfold headerAt?
  rw [h]
  rfl

/-- The body ends when a line closes it. -/
theorem bodyEnds_iff : listing.BodyEnds header number ↔
    ∃ last, listing.Closes (header.bodyStart number) last := by
  constructor
  · rintro ⟨line, hfirst, hsize, hdepth⟩
    obtain ⟨last, _, hcloses⟩ := exists_closes hfirst hsize hdepth
    exact ⟨last, hcloses⟩
  · rintro ⟨last, hcloses⟩
    exact ⟨last, hcloses.first_le, hcloses.le_size, hcloses.closed⟩

/-- The lines after the opening brace are those from the first line of the body on. -/
theorem afterBrace?_eq_some_iff {rest : List Text} :
    header.afterBrace? (listing.lines.drop number) = some rest ↔
      listing.HasBrace header number ∧ rest = listing.lines.drop (header.bodyStart number - 1) := by
  unfold Header.afterBrace? HasBrace Header.bodyStart
  by_cases hopens : header.opensBody = true
  · simp [hopens, eq_comm]
  · simp only [hopens, Bool.false_eq_true, if_false, false_or]
    -- the brace stands alone on the line after the header, the first one that is left
    show _ ↔ listing.lines[number]? = some ['{'] ∧ rest = listing.lines.drop (number + 1)
    rw [← List.drop_drop, ← List.head?_drop]
    cases listing.lines.drop number with
    | nil => simp
    | cons line lines =>
      by_cases hbrace : line = ['{']
      · simp [hbrace, eq_comm]
      · simp only [List.head?_cons, Option.some.injEq, hbrace, false_and, iff_false]
        split
        · rename_i heq
          cases heq
          exact absurd rfl hbrace
        · simp

/-- One header declares one function. -/
theorem Declares.unique {d d' : Declaration} (h : listing.Declares header number d)
    (h' : listing.Declares header number d') : d = d' := by
  obtain ⟨last, hcloses, rfl⟩ := h
  obtain ⟨last', hcloses', rfl⟩ := h'
  rw [hcloses.unique hcloses']

/-- What becomes of a header: its brace is missing, its body does not end, or it declares a
    function. -/
theorem declare_cases (listing : Listing) (header : Header) (number : Nat) :
    (¬ listing.HasBrace header number ∧
      header.declare number (listing.lines.drop number) =
        .error (.missingBrace header.name number)) ∨
    (listing.HasBrace header number ∧ ¬ listing.BodyEnds header number ∧
      header.declare number (listing.lines.drop number) =
        .error (.unclosedBody header.name number)) ∨
    (listing.HasBrace header number ∧ ∃ d, listing.Declares header number d ∧
      header.declare number (listing.lines.drop number) = .ok d) := by
  have hpos : 1 ≤ header.bodyStart number := by
    have := header.lt_bodyStart number
    omega
  unfold Header.declare
  cases hbrace : header.afterBrace? (listing.lines.drop number) with
  | none =>
    refine .inl ⟨?_, rfl⟩
    intro hhas
    rw [afterBrace?_eq_some_iff.mpr ⟨hhas, rfl⟩] at hbrace
    cases hbrace
  | some rest =>
    obtain ⟨hhas, rfl⟩ := afterBrace?_eq_some_iff.mp hbrace
    refine .inr ?_
    cases hbody : takeBody? 1 (listing.lines.drop (header.bodyStart number - 1)) with
    | none =>
      refine .inl ⟨hhas, ?_, by simp only [hbody]⟩
      intro hends
      obtain ⟨last, hcloses⟩ := bodyEnds_iff.mp hends
      rw [(takeBody?_drop_eq_some_iff hpos).mpr ⟨last, hcloses, rfl⟩] at hbody
      cases hbody
    | some body =>
      obtain ⟨last, hcloses, rfl⟩ := (takeBody?_drop_eq_some_iff hpos).mp hbody
      exact .inr ⟨hhas, _, ⟨last, hcloses, rfl⟩, by simp only [hbody]⟩

/-- A header declares a function when it has its brace and its body is closed. -/
theorem declare_eq_ok_iff {d : Declaration} :
    header.declare number (listing.lines.drop number) = .ok d ↔
      listing.HasBrace header number ∧ listing.Declares header number d := by
  rcases declare_cases listing header number with ⟨hmissing, heq⟩ | ⟨_, hends, heq⟩ |
    ⟨hhas, d', hd', heq⟩
  · simp [heq, hmissing]
  · rw [heq]
    simp only [reduceCtorEq, false_iff]
    rintro ⟨_, last, hcloses, _⟩
    exact hends (bodyEnds_iff.mpr ⟨last, hcloses⟩)
  · rw [heq, Except.ok.injEq]
    constructor
    · rintro rfl
      exact ⟨hhas, hd'⟩
    · rintro ⟨_, hd⟩
      exact hd'.unique hd

/-- A header that declares nothing lacks its brace or the end of its body. -/
theorem declare_eq_error_iff {fault : DeclarationFault} :
    header.declare number (listing.lines.drop number) = .error fault ↔
      listing.Faults header number fault := by
  unfold Faults
  rcases declare_cases listing header number with ⟨hmissing, heq⟩ | ⟨hhas, hends, heq⟩ |
    ⟨hhas, d, hd, heq⟩
  · simp [heq, hmissing, eq_comm]
  · simp [heq, hhas, hends, eq_comm]
  · obtain ⟨last, hcloses, _⟩ := hd
    have hends : listing.BodyEnds header number := bodyEnds_iff.mpr ⟨last, hcloses⟩
    simp [heq, hhas, hends]

end Listing
end Stepwise
