import Mathlib.Data.List.Nodup
import Stepwise.Proofs.Bodies

/-!
# Tables of declarations

The declarations of a listing are collected in one pass, which stops at the first header that is at
fault. Here the pass is compared with what the headers of the listing say, each on its own:

- `scan_invariant`: what holds at the start and is kept by every line holds of the table in the end,
- `Collects`: after some lines, all their headers are sound, and the table has the last declaration
  of every name, by line,
- `scan_eq_error`: the fault is that of the first header at fault,
- `table_of_headers` puts these together.

Bodies may contain declarations. `bodies_nest` shows that they then contain them whole, although the
two counts of braces begin with different headers, and the braces and quotes in the header inside
need not match.
-/

namespace Stepwise

/-! ### Tables -/

namespace DeclarationTable

/-- A declaration that is added replaces those of its name. -/
theorem mem_insert {table : DeclarationTable} {d e : Declaration} :
    e ∈ (table.insert d).declarations ↔ e = d ∨ e ∈ table.declarations ∧ e.name ≠ d.name := by
  simp only [insert, List.mem_append, List.mem_filter, List.mem_singleton, bne_iff_ne]
  exact or_comm

/-- Looking up a name finds the one declaration of that name. -/
theorem get?_eq_some_iff {table : DeclarationTable}
    (h : (table.declarations.map Declaration.name).Nodup) (name : Text) (d : Declaration) :
    table.get? name = some d ↔ d ∈ table.declarations ∧ d.name = name := by
  unfold get?
  constructor
  · intro hfind
    exact ⟨List.mem_of_find?_eq_some hfind, by simpa using List.find?_some hfind⟩
  · rintro ⟨hmem, rfl⟩
    cases hfind : table.declarations.find? fun e => e.name == d.name with
    | none => exact absurd (List.find?_eq_none.mp hfind d hmem) (by simp)
    | some e =>
      have hname : e.name = d.name := by simpa using List.find?_some hfind
      rw [List.inj_on_of_nodup_map h (List.mem_of_find?_eq_some hfind) hmem hname]

end DeclarationTable

namespace Listing

variable {listing : Listing} {table table' : DeclarationTable} {n : Nat}

/-! ### The pass over the lines -/

/-- The lines after line `n` begin with line `n + 1`. -/
theorem get?_of_drop {line : Text} {rest : List Text} (h : listing.lines.drop n = line :: rest) :
    listing.get? (n + 1) = some line ∧ rest = listing.lines.drop (n + 1) := by
  constructor
  · show listing.lines[n]? = some line
    rw [← List.head?_drop, h]
    rfl
  · rw [← List.drop_drop, h]
    rfl

theorem headerAt?_of_get? {number : Nat} {line : Text} (h : listing.get? number = some line) :
    listing.headerAt? number = Header.ofLine? line := by
  unfold headerAt?
  rw [h]
  rfl

/-- What every line keeps holds of the table in the end. -/
theorem scan_invariant {P : Nat → DeclarationTable → Prop}
    (hplain : ∀ n table, P n table → listing.headerAt? (n + 1) = none → P (n + 1) table)
    (hheader : ∀ n table header d, P n table → listing.headerAt? (n + 1) = some header →
      listing.HasBrace header (n + 1) → listing.Declares header (n + 1) d →
      P (n + 1) ⟨(table.insert d).declarations, table.structural ++ header.structuralLines (n + 1)⟩)
    (hn : n ≤ listing.size)
    (h : DeclarationTable.scan (n + 1) (listing.lines.drop n) table = .ok table')
    (hstart : P n table) :
    P listing.size table' := by
  induction hdrop : listing.lines.drop n generalizing n table with
  | nil =>
    rw [hdrop] at h
    cases h
    have hlen := List.drop_eq_nil_iff.mp hdrop
    obtain rfl : n = listing.size := Nat.le_antisymm hn hlen
    exact hstart
  | cons line rest ih =>
    obtain ⟨hline, rfl⟩ := get?_of_drop hdrop
    have hlt : n + 1 ≤ listing.size := (List.getElem?_eq_some_iff.mp hline).1
    have hat := headerAt?_of_get? hline
    rw [hdrop] at h
    simp only [DeclarationTable.scan] at h
    cases hof : Header.ofLine? line with
    | none =>
      simp only [hof] at h
      exact ih hlt h (hplain n table hstart (hat.trans hof)) rfl
    | some header =>
      simp only [hof] at h
      cases hdeclare : header.declare (n + 1) (listing.lines.drop (n + 1)) with
      | error fault =>
        simp only [hdeclare] at h
        cases h
      | ok d =>
        simp only [hdeclare] at h
        obtain ⟨hbrace, hd⟩ := declare_eq_ok_iff.mp hdeclare
        exact ih hlt h (hheader n table header d hstart (hat.trans hof) hbrace hd) rfl

/-- Whether the header on line `number` declares a function: it has its brace, and its body ends. -/
def IsSound (listing : Listing) (header : Header) (number : Nat) : Prop :=
  listing.HasBrace header number ∧ listing.BodyEnds header number

theorem Declares.isSound {header : Header} {number : Nat} {d : Declaration}
    (hbrace : listing.HasBrace header number) (h : listing.Declares header number d) :
    listing.IsSound header number := by
  obtain ⟨last, hcloses, _⟩ := h
  exact ⟨hbrace, bodyEnds_iff.mpr ⟨last, hcloses⟩⟩

/-- A sound header is not at fault. -/
theorem Faults.not_isSound {header : Header} {number : Nat} {fault : DeclarationFault}
    (h : listing.Faults header number fault) : ¬ listing.IsSound header number := by
  rintro ⟨hbrace, hends⟩
  rcases h with ⟨hmissing, _⟩ | ⟨_, hopen, _⟩
  · exact hmissing hbrace
  · exact hopen hends

/-- A header has at most one fault. -/
theorem Faults.unique {header : Header} {number : Nat} {fault fault' : DeclarationFault}
    (h : listing.Faults header number fault) (h' : listing.Faults header number fault') :
    fault = fault' := by
  rcases h with ⟨hmissing, rfl⟩ | ⟨hbrace, _, rfl⟩
  · rcases h' with ⟨_, rfl⟩ | ⟨hbrace, _, _⟩
    · rfl
    · exact absurd hbrace hmissing
  · rcases h' with ⟨hmissing, _⟩ | ⟨_, _, rfl⟩
    · exact absurd hbrace hmissing
    · rfl

/-- The pass stops at a header at fault, and all headers that it passed are sound. -/
theorem scan_eq_error {fault : DeclarationFault}
    (h : DeclarationTable.scan (n + 1) (listing.lines.drop n) table = .error fault) :
    ∃ number header, listing.headerAt? number = some header ∧ listing.Faults header number fault ∧
      ∀ earlier header', n < earlier → earlier < number → listing.headerAt? earlier = some header' →
        listing.IsSound header' earlier := by
  induction hdrop : listing.lines.drop n generalizing n table with
  | nil =>
    rw [hdrop] at h
    cases h
  | cons line rest ih =>
    obtain ⟨hline, rfl⟩ := get?_of_drop hdrop
    have hat := headerAt?_of_get? hline
    rw [hdrop] at h
    simp only [DeclarationTable.scan] at h
    -- a header further on is the first one at fault if the one on this line is sound
    have hlater : ∀ table, DeclarationTable.scan (n + 1 + 1) (listing.lines.drop (n + 1)) table =
        .error fault →
        (∀ header', listing.headerAt? (n + 1) = some header' → listing.IsSound header' (n + 1)) →
        ∃ number header, listing.headerAt? number = some header ∧
          listing.Faults header number fault ∧
          ∀ earlier header', n < earlier → earlier < number →
            listing.headerAt? earlier = some header' →
            listing.IsSound header' earlier := by
      intro table hscan hsound
      obtain ⟨number, header, hheader, hfault, hearlier⟩ := ih hscan rfl
      refine ⟨number, header, hheader, hfault, ?_⟩
      intro earlier header' hgt hlt hheader'
      by_cases heq : earlier = n + 1
      · subst heq
        exact hsound header' hheader'
      · exact hearlier earlier header' (by omega) hlt hheader'
    cases hof : Header.ofLine? line with
    | none =>
      simp only [hof] at h
      apply hlater table h
      intro header' hheader'
      rw [hat, hof] at hheader'
      cases hheader'
    | some header =>
      simp only [hof] at h
      cases hdeclare : header.declare (n + 1) (listing.lines.drop (n + 1)) with
      | error fault' =>
        simp only [hdeclare] at h
        cases h
        refine ⟨n + 1, header, hat.trans hof, declare_eq_error_iff.mp hdeclare, ?_⟩
        intro earlier header' hgt hlt
        omega
      | ok d =>
        simp only [hdeclare] at h
        obtain ⟨hbrace, hd⟩ := declare_eq_ok_iff.mp hdeclare
        apply hlater _ h
        intro header' hheader'
        rw [hat, hof] at hheader'
        cases hheader'
        exact hd.isSound hbrace

/-! ### What is collected -/

/-- Among the first `n` lines, line `number` has the last header of its name. -/
def IsLast (listing : Listing) (n number : Nat) (header : Header) : Prop :=
  number ≤ n ∧ listing.headerAt? number = some header ∧
    ∀ later header', number < later → later ≤ n → listing.headerAt? later = some header' →
      header'.name ≠ header.name

/-- The table has what the headers of the first `n` lines declare. -/
structure Collects (listing : Listing) (n : Nat) (table : DeclarationTable) : Prop where
  /-- No header is at fault. -/
  sound : ∀ number header, number ≤ n → listing.headerAt? number = some header →
    listing.IsSound header number
  /-- The last header of every name counts. -/
  mem_iff : ∀ d, d ∈ table.declarations ↔
    ∃ number header, listing.IsLast n number header ∧ listing.Declares header number d
  /-- The declarations are in the order of their lines. -/
  sorted : table.declarations.Pairwise fun d e => d.line < e.line

/-- A line that is no header changes nothing. -/
theorem isLast_succ_of_none (h : listing.headerAt? (n + 1) = none) {number : Nat}
    {header : Header} :
    listing.IsLast (n + 1) number header ↔ listing.IsLast n number header := by
  constructor
  · rintro ⟨hle, hheader, hlast⟩
    have hne : number ≠ n + 1 := by
      rintro rfl
      rw [h] at hheader
      cases hheader
    exact ⟨by omega, hheader, fun later header' hlt hle => hlast later header' hlt (by omega)⟩
  · rintro ⟨hle, hheader, hlast⟩
    refine ⟨by omega, hheader, ?_⟩
    intro later header' hlt hle' hheader'
    have hne : later ≠ n + 1 := by
      rintro rfl
      rw [h] at hheader'
      cases hheader'
    exact hlast later header' hlt (by omega) hheader'

/-- A header is the last one of its name, and the others stay those of theirs. -/
theorem isLast_succ_of_some {header : Header} (h : listing.headerAt? (n + 1) = some header)
    {number : Nat} {header' : Header} :
    listing.IsLast (n + 1) number header' ↔
      (number = n + 1 ∧ header' = header) ∨
        (listing.IsLast n number header' ∧ header'.name ≠ header.name) := by
  constructor
  · rintro ⟨hle, hheader', hlast⟩
    by_cases heq : number = n + 1
    · subst heq
      exact .inl ⟨rfl, Option.some.inj (hheader'.symm.trans h)⟩
    · have hlt : number ≤ n := by omega
      refine .inr ⟨⟨hlt, hheader', fun later header'' hlt' hle' =>
        hlast later header'' hlt' (by omega)⟩, ?_⟩
      exact (hlast (n + 1) header (by omega) (Nat.le_refl _) h).symm
  · rintro (⟨rfl, rfl⟩ | ⟨⟨hle, hheader', hlast⟩, hname⟩)
    · exact ⟨Nat.le_refl _, h, fun later _ hlt hle => by omega⟩
    · refine ⟨by omega, hheader', ?_⟩
      intro later header'' hlt hle' hheader''
      by_cases heq : later = n + 1
      · subst heq
        rw [h] at hheader''
        cases hheader''
        exact hname.symm
      · exact hlast later header'' hlt (by omega) hheader''

/-- Every name with a header has a last one. -/
theorem exists_isLast {number : Nat} {header : Header} (hle : number ≤ n)
    (h : listing.headerAt? number = some header) :
    ∃ number' header', listing.IsLast n number' header' ∧ header'.name = header.name := by
  induction n with
  | zero =>
    have := headerAt?_pos h
    omega
  | succ n ih =>
    cases hat : listing.headerAt? (n + 1) with
    | none =>
      have hne : number ≠ n + 1 := by
        rintro rfl
        rw [hat] at h
        cases h
      obtain ⟨number', header', hlast, hname⟩ := ih (by omega)
      exact ⟨number', header', (isLast_succ_of_none hat).mpr hlast, hname⟩
    | some header₁ =>
      by_cases hname₁ : header₁.name = header.name
      · exact ⟨n + 1, header₁, (isLast_succ_of_some hat).mpr (.inl ⟨rfl, rfl⟩), hname₁⟩
      · have hne : number ≠ n + 1 := by
          rintro rfl
          rw [hat] at h
          cases h
          exact hname₁ rfl
        obtain ⟨number', header', hlast, hname⟩ := ih (by omega)
        refine ⟨number', header', (isLast_succ_of_some hat).mpr (.inr ⟨hlast, ?_⟩), hname⟩
        rw [hname]
        exact fun heq => hname₁ heq.symm

namespace Collects

theorem start (listing : Listing) : listing.Collects 0 .empty where
  sound number header hle hheader := by
    have := headerAt?_pos hheader
    omega
  mem_iff d := by
    constructor
    · intro hmem
      cases hmem
    · rintro ⟨number, header, ⟨hle, hheader, _⟩, _⟩
      have := headerAt?_pos hheader
      omega
  sorted := .nil

/-- A line that is no header adds nothing. -/
theorem plain (h : listing.Collects n table) (hnone : listing.headerAt? (n + 1) = none) :
    listing.Collects (n + 1) table where
  sound number header hle hheader := by
    have hne : number ≠ n + 1 := by
      rintro rfl
      rw [hnone] at hheader
      cases hheader
    exact h.sound number header (by omega) hheader
  mem_iff d := by
    simp only [isLast_succ_of_none hnone]
    exact h.mem_iff d
  sorted := h.sorted

/-- A header adds its declaration in place of the one that its name had. -/
theorem add (h : listing.Collects n table) {header : Header} {d : Declaration}
    (hheader : listing.headerAt? (n + 1) = some header) (hbrace : listing.HasBrace header (n + 1))
    (hd : listing.Declares header (n + 1) d) (structural : List Nat) :
    listing.Collects (n + 1) ⟨(table.insert d).declarations, structural⟩ := by
  have hname : d.name = header.name := by
    obtain ⟨last, _, rfl⟩ := hd
    rfl
  have hline : d.line = n + 1 := by
    obtain ⟨last, _, rfl⟩ := hd
    rfl
  constructor
  · intro number header' hle hheader'
    by_cases heq : number = n + 1
    · subst heq
      rw [hheader] at hheader'
      cases hheader'
      exact hd.isSound hbrace
    · exact h.sound number header' (by omega) hheader'
  · intro e
    rw [DeclarationTable.mem_insert, h.mem_iff]
    simp only [isLast_succ_of_some hheader]
    constructor
    · rintro (rfl | ⟨⟨number, header', hlast, hdeclares⟩, hne⟩)
      · exact ⟨n + 1, header, .inl ⟨rfl, rfl⟩, hd⟩
      · refine ⟨number, header', .inr ⟨hlast, ?_⟩, hdeclares⟩
        obtain ⟨last, _, rfl⟩ := hdeclares
        rw [← hname]
        exact hne
    · rintro ⟨number, header', ⟨rfl, rfl⟩ | ⟨hlast, hne⟩, hdeclares⟩
      · exact .inl (hdeclares.unique hd)
      · refine .inr ⟨⟨number, header', hlast, hdeclares⟩, ?_⟩
        obtain ⟨last, _, rfl⟩ := hdeclares
        rw [hname]
        exact hne
  · show (table.declarations.filter _ ++ [d]).Pairwise _
    rw [List.pairwise_append]
    refine ⟨h.sorted.filter _, List.pairwise_singleton _ _, ?_⟩
    intro e he d' hd'
    rw [List.mem_singleton.mp hd', hline]
    -- what was collected before is on earlier lines
    obtain ⟨number, header', ⟨hle, _⟩, last, _, rfl⟩ := (h.mem_iff e).mp (List.mem_filter.mp he).1
    show number < n + 1
    omega

/-- No two declarations have the same name. -/
theorem nodup (h : listing.Collects n table) : (table.declarations.map Declaration.name).Nodup := by
  unfold List.Nodup
  rw [List.pairwise_map]
  refine h.sorted.imp_of_mem ?_
  intro d e hd he hlt heq
  obtain ⟨number, header, ⟨_, _, hlast⟩, last, _, rfl⟩ := (h.mem_iff d).mp hd
  obtain ⟨number', header', ⟨hle', hheader', _⟩, last', _, rfl⟩ := (h.mem_iff e).mp he
  exact hlast number' header' hlt hle' hheader' heq.symm

end Collects

/-- The table of a listing has what all its headers declare. -/
theorem collects_of_ofListing (h : DeclarationTable.ofListing listing = .ok table) :
    listing.Collects listing.size table :=
  scan_invariant (fun _ _ hc hnone => hc.plain hnone)
    (fun _ _ _ _ hc hheader hbrace hd => hc.add hheader hbrace hd _) (Nat.zero_le _) h
      (.start listing)

/-- The fault of a listing is that of its first header at fault. -/
theorem faults_of_ofListing {fault : DeclarationFault}
    (h : DeclarationTable.ofListing listing = .error fault) :
    ∃ number header, listing.headerAt? number = some header ∧ listing.Faults header number fault ∧
      ∀ earlier header', earlier < number → listing.headerAt? earlier = some header' →
        listing.IsSound header' earlier := by
  have hscan : DeclarationTable.scan (0 + 1) (listing.lines.drop 0) .empty = .error fault := h
  obtain ⟨number, header, hheader, hfault, hearlier⟩ := scan_eq_error hscan
  exact ⟨number, header, hheader, hfault, fun earlier header' hlt hheader' =>
    hearlier earlier header' (headerAt?_pos hheader') hlt hheader'⟩

/-- The pass over a listing finds what its headers say. It succeeds when every header is sound, and
    otherwise tells the fault of the first header that is not. The table has one declaration for
    every declared name, that of the last header of the name, by line. -/
theorem table_of_headers (listing : Listing) :
    ((∃ table, DeclarationTable.ofListing listing = .ok table) ↔
      ∀ number header, listing.headerAt? number = some header → listing.IsSound header number) ∧
    (∀ fault, DeclarationTable.ofListing listing = .error fault ↔
      ∃ number header, listing.headerAt? number = some header ∧ listing.Faults header number fault ∧
        ∀ earlier header', earlier < number → listing.headerAt? earlier = some header' →
          listing.IsSound header' earlier) ∧
    (∀ table, DeclarationTable.ofListing listing = .ok table →
      (∀ name, table.contains name = true ↔
        ∃ number header, listing.headerAt? number = some header ∧ header.name = name) ∧
      (∀ name d, table.get? name = some d ↔ d ∈ table.declarations ∧ d.name = name) ∧
      (∀ d, d ∈ table.declarations ↔
        ∃ number header, listing.IsLast listing.size number header ∧
          listing.Declares header number d) ∧
      table.declarations.Pairwise fun d e => d.line < e.line) := by
  have hsound : ∀ table, DeclarationTable.ofListing listing = .ok table →
      ∀ number header, listing.headerAt? number = some header → listing.IsSound header number := by
    intro table h number header hheader
    exact (collects_of_ofListing h).sound number header (headerAt?_le_size hheader) hheader
  refine ⟨⟨?_, ?_⟩, ?_, ?_⟩
  · rintro ⟨table, h⟩
    exact hsound table h
  · intro hall
    cases h : DeclarationTable.ofListing listing with
    | ok table => exact ⟨table, rfl⟩
    | error fault =>
      obtain ⟨number, header, hheader, hfault, _⟩ := faults_of_ofListing h
      exact absurd (hall number header hheader) hfault.not_isSound
  · intro fault
    constructor
    · exact faults_of_ofListing
    · rintro ⟨number, header, hheader, hfault, hearlier⟩
      cases h : DeclarationTable.ofListing listing with
      | ok table => exact absurd (hsound table h number header hheader) hfault.not_isSound
      | error fault' =>
        -- there is only one first header at fault
        obtain ⟨number', header', hheader', hfault', hearlier'⟩ := faults_of_ofListing h
        rcases Nat.lt_trichotomy number number' with hlt | rfl | hgt
        · exact absurd (hearlier' number header hlt hheader) hfault.not_isSound
        · rw [hheader] at hheader'
          cases hheader'
          rw [hfault.unique hfault']
        · exact absurd (hearlier number' header' hgt hheader') hfault'.not_isSound
  · intro table h
    have hcollects := collects_of_ofListing h
    have hget := DeclarationTable.get?_eq_some_iff hcollects.nodup
    refine ⟨?_, hget, hcollects.mem_iff, hcollects.sorted⟩
    intro name
    unfold DeclarationTable.contains
    rw [Option.isSome_iff_exists]
    constructor
    · rintro ⟨d, hd⟩
      obtain ⟨hmem, hname⟩ := (hget name d).mp hd
      obtain ⟨number, header, ⟨_, hheader, _⟩, last, _, rfl⟩ := (hcollects.mem_iff d).mp hmem
      exact ⟨number, header, hheader, hname⟩
    · rintro ⟨number, header, hheader, rfl⟩
      obtain ⟨number', header', hlast, hname⟩ := exists_isLast (headerAt?_le_size hheader) hheader
      obtain ⟨last, hcloses⟩ := bodyEnds_iff.mp (hsound table h number' header' hlast.2.1).2
      exact ⟨_, (hget _ _).mpr
        ⟨(hcollects.mem_iff _).mpr ⟨number', header', hlast, last, hcloses, rfl⟩, hname⟩⟩

/-! ### Bodies inside bodies -/

/-- The line that closes the body of the header on line `number`, as the pass finds it. -/
def closingLine? (listing : Listing) (number : Nat) : Option Nat := do
  let header ← listing.headerAt? number
  let rest ← header.afterBrace? (listing.lines.drop number)
  let body ← takeBody? 1 rest
  return header.bodyStart number + body.length

theorem closingLine?_eq_some_iff {number last : Nat} :
    listing.closingLine? number = some last ↔ ∃ header, listing.headerAt? number = some header ∧
      listing.HasBrace header number ∧ listing.Closes (header.bodyStart number) last := by
  have hlength : ∀ header : Header, ∀ last, listing.Closes (header.bodyStart number) last →
      header.bodyStart number + (listing.between (header.bodyStart number) last).length = last := by
    intro header last hcloses
    have := header.lt_bodyStart number
    have hfirst := hcloses.first_le
    have hsize := hcloses.le_size
    unfold size at hsize
    unfold between
    rw [List.length_drop, List.length_take]
    omega
  have hpos : ∀ header : Header, 1 ≤ header.bodyStart number := by
    intro header
    have := header.lt_bodyStart number
    omega
  unfold closingLine?
  simp only [Option.bind_eq_bind, Option.bind_eq_some_iff, Option.pure_def, Option.some.injEq]
  constructor
  · rintro ⟨header, hheader, rest, hrest, body, hbody, rfl⟩
    obtain ⟨hbrace, rfl⟩ := afterBrace?_eq_some_iff.mp hrest
    obtain ⟨last, hcloses, rfl⟩ := (takeBody?_drop_eq_some_iff (hpos header)).mp hbody
    refine ⟨header, hheader, hbrace, ?_⟩
    rw [hlength header last hcloses]
    exact hcloses
  · rintro ⟨header, hheader, hbrace, hcloses⟩
    exact ⟨header, hheader, _, afterBrace?_eq_some_iff.mpr ⟨hbrace, rfl⟩, _,
      (takeBody?_drop_eq_some_iff (hpos header)).mpr ⟨last, hcloses, rfl⟩,
      hlength header last hcloses⟩

/-- A header inside a body comes after the opening brace of the body. -/
theorem bodyStart_le {i j : Nat} {header header' : Header} (hij : i < j)
    (hbrace : listing.HasBrace header i) (hheader' : listing.headerAt? j = some header') :
    header.bodyStart i ≤ j := by
  unfold Header.bodyStart
  by_cases hopens : header.opensBody = true
  · rw [if_pos hopens]
    omega
  · rw [if_neg hopens]
    -- the line after the header is a brace alone
    have hne : j ≠ i + 1 := by
      rintro rfl
      have hnone := headerAt?_brace (hbrace.resolve_left hopens)
      rw [hnone] at hheader'
      cases hheader'
    omega

/-- At the first line of a body inside another one, at least as many braces of the outer one are
    open as the body inside begins with. -/
theorem one_le_depth_bodyStart {first j last : Nat} {header : Header} (hfirst : first ≤ j)
    (hlast : j < last) (hcloses : listing.Closes first last) (hbrace : listing.HasBrace header j) :
    header.bodyStart j ≤ last ∧ 1 ≤ listing.depthAfter first (header.bodyStart j - 1) := by
  have hopen := hcloses.open_before j hfirst hlast
  unfold Header.bodyStart
  by_cases hopens : header.opensBody = true
  · rw [if_pos hopens]
    exact ⟨hlast, hopen⟩
  · rw [if_neg hopens]
    have hdepth : listing.depthAfter first (j + 1) =
        listing.depthAfter first j + Text.braceBalance ['{'] :=
      depthAfter_succ (by omega) (hbrace.resolve_left hopens)
    have hbalance : Text.braceBalance ['{'] = 1 := rfl
    -- the brace alone opens one more, so that it does not close the outer body
    have hne : last ≠ j + 1 := by
      rintro rfl
      have := hcloses.closed
      omega
    exact ⟨by omega, by show 1 ≤ listing.depthAfter first (j + 1); omega⟩

/-- The body of a header inside a body that is closed is closed no later than the body around it. -/
theorem exists_closingLine_le {i j last : Nat} {header' : Header} (hij : i < j)
    (hlast : listing.closingLine? i = some last) (hheader' : listing.headerAt? j = some header')
    (hbrace' : listing.HasBrace header' j) (hinside : j < last) :
    ∃ last', listing.closingLine? j = some last' ∧ last' ≤ last := by
  obtain ⟨header, hheader, hbrace, hcloses⟩ := closingLine?_eq_some_iff.mp hlast
  have hfirst := bodyStart_le hij hbrace hheader'
  obtain ⟨hstart, hopen⟩ := one_le_depth_bodyStart hfirst hinside hcloses hbrace'
  have hpos := header'.lt_bodyStart j
  -- the count of the outer body stays ahead by what it has at the first line of the body inside
  have hsub :=
    listing.depthAfter_sub (show header.bodyStart i ≤ header'.bodyStart j - 1 + 1 by omega)
      (show header'.bodyStart j ≤ header'.bodyStart j - 1 + 1 by omega)
      (show header'.bodyStart j - 1 ≤ last by omega)
  have hone := listing.depthAfter_pred (show 1 ≤ header'.bodyStart j by omega)
  have hclosed := hcloses.closed
  obtain ⟨last', hle, hcloses'⟩ := exists_closes hstart hcloses.le_size
    (show listing.depthAfter (header'.bodyStart j) last ≤ 0 by omega)
  exact ⟨last', closingLine?_eq_some_iff.mpr ⟨header', hheader', hbrace', hcloses'⟩, hle⟩

/-- Bodies are inside one another or apart. When the body of a header is closed, a later header
    comes after it, or lacks its brace, or has a body that is closed no later. So the bodies of all
    headers before one that is reported to have no end are over, and a body that is closed contains
    no such header. -/
theorem bodies_nest (listing : Listing) :
    (∀ i j last header, i < j → listing.closingLine? i = some last →
      listing.headerAt? j = some header → last ≤ j ∨ (listing.HasBrace header j →
        ∃ last', listing.closingLine? j = some last' ∧ last' ≤ last)) ∧
    (∀ name j, DeclarationTable.ofListing listing = .error (.unclosedBody name j) →
      ∀ i header, i < j → listing.headerAt? i = some header →
        ∃ last, listing.closingLine? i = some last ∧ last ≤ j) := by
  refine ⟨?_, ?_⟩
  · intro i j last header hij hlast hheader
    by_cases hinside : j < last
    · exact .inr fun hbrace => exists_closingLine_le hij hlast hheader hbrace hinside
    · exact .inl (by omega)
  · intro name j h i header hij hheader
    obtain ⟨number, header', hheader', hfault, hearlier⟩ := faults_of_ofListing h
    obtain ⟨hbrace', hopen, heq⟩ : listing.HasBrace header' number ∧
        ¬ listing.BodyEnds header' number ∧
        DeclarationFault.unclosedBody name j = .unclosedBody header'.name number := by
      rcases hfault with ⟨_, heq⟩ | hfault
      · cases heq
      · exact hfault
    cases heq
    obtain ⟨hbrace, hends⟩ := hearlier i header hij hheader
    obtain ⟨last, hcloses⟩ := bodyEnds_iff.mp hends
    have hlast := closingLine?_eq_some_iff.mpr ⟨header, hheader, hbrace, hcloses⟩
    refine ⟨last, hlast, ?_⟩
    by_cases hinside : j < last
    · -- the body inside would be closed
      obtain ⟨last', hlast', _⟩ := exists_closingLine_le hij hlast hheader' hbrace' hinside
      obtain ⟨header'', hheader'', _, hcloses'⟩ := closingLine?_eq_some_iff.mp hlast'
      rw [hheader'] at hheader''
      cases hheader''
      exact absurd (bodyEnds_iff.mpr ⟨last', hcloses'⟩) hopen
    · omega

-- the quote in the second header hides its brace from the first count, and one line closes both
-- bodies
example :
    let listing : Listing := ⟨["function f() \x7b", "function g(') \x7b", "\x7d"]⟩
    listing.closingLine? 1 = some 3 ∧ listing.closingLine? 2 = some 3 := by
  decide

end Listing
end Stepwise
