import Stepwise.Recording

/-!
# Listings that grow

Text that is added at the end of a script does not change what its own lines mean, as long as the
script was accepted and the added lines declare nothing:

- `ofText_append`: the listing of two texts with a line feed between them is one listing after the
  other,
- `declare_append`: a body that is closed is closed by the same line whatever follows, stray braces
  included,
- `ofListing_append`: the declarations and the structural lines stay the same,
- `executable_append`: the lines that are executed stay the same, and the added ones come after
  them.
-/

namespace Stepwise

/-! ### Lines -/

/-- The lines of two texts with a line feed between them are the lines of both. -/
theorem Listing.ofText_append (a b : Text) :
    Listing.ofText (a ++ '\n' :: b) = ⟨(Listing.ofText a).lines ++ (Listing.ofText b).lines⟩ := by
  unfold Listing.ofText
  rw [List.splitOn_append_cons_self, List.map_append, List.filter_append]

/-! ### Declarations -/

/-- A body that is closed does not depend on the lines after it. -/
theorem takeBody?_append {depth : Int} {lines body : List Text}
    (h : takeBody? depth lines = some body) (extra : List Text) :
    takeBody? depth (lines ++ extra) = some body := by
  induction lines generalizing depth body with
  | nil => cases h
  | cons line rest ih =>
    simp only [List.cons_append, takeBody?] at h ⊢
    by_cases hclosed : depth + line.braceBalance ≤ 0
    · -- this line closes the body
      rw [if_pos hclosed] at h ⊢
      exact h
    · rw [if_neg hclosed] at h ⊢
      obtain ⟨body', hbody', rfl⟩ := Option.map_eq_some_iff.mp h
      rw [ih hbody']
      rfl

namespace Header

variable {header : Header} {number : Nat} {lines : List Text}

/-- The opening brace of a header is found before any lines that are added. -/
theorem afterBrace?_append {rest : List Text} (h : header.afterBrace? lines = some rest)
    (extra : List Text) : header.afterBrace? (lines ++ extra) = some (rest ++ extra) := by
  unfold afterBrace? at h ⊢
  by_cases hopens : header.opensBody = true
  · rw [if_pos hopens] at h ⊢
    rw [Option.some.inj h]
  · rw [if_neg hopens] at h ⊢
    split at h
    · cases h
      rfl
    · cases h

/-- What a header declares does not depend on the lines after the body. -/
theorem declare_append {d : Declaration} (h : header.declare number lines = .ok d)
    (extra : List Text) :
    header.declare number (lines ++ extra) = .ok d := by
  unfold declare at h ⊢
  cases hbrace : header.afterBrace? lines with
  | none =>
    rw [hbrace] at h
    cases h
  | some rest =>
    rw [hbrace] at h
    rw [afterBrace?_append hbrace]
    cases hbody : takeBody? 1 rest with
    | none =>
      simp only [hbody] at h
      cases h
    | some body =>
      simp only [hbody] at h
      simp only [takeBody?_append hbody]
      exact h

end Header

namespace DeclarationTable

variable {table table' : DeclarationTable}

/-- Lines that are added are looked at last, with all declarations before them collected. -/
theorem scan_append {number : Nat} {lines : List Text} (h : scan number lines table = .ok table')
    (extra : List Text) :
    scan number (lines ++ extra) table = scan (number + lines.length) extra table' := by
  induction lines generalizing number table with
  | nil =>
    cases h
    rfl
  | cons line rest ih =>
    have hnumber : number + (line :: rest).length = number + 1 + rest.length := by
      rw [List.length_cons]
      omega
    rw [hnumber]
    simp only [List.cons_append, scan] at h ⊢
    cases hheader : Header.ofLine? line with
    | none =>
      simp only [hheader] at h
      exact ih h
    | some header =>
      simp only [hheader] at h
      cases hdeclare : header.declare number rest with
      | error fault =>
        simp only [hdeclare] at h
        cases h
      | ok d =>
        -- the declaration is the same one, since its body was closed
        simp only [hdeclare] at h
        simp only [Header.declare_append hdeclare]
        exact ih h

/-- Lines without headers declare nothing. -/
theorem scan_of_plain {lines : List Text} (h : ∀ line ∈ lines, Header.ofLine? line = none)
    (number : Nat) (table : DeclarationTable) : scan number lines table = .ok table := by
  induction lines generalizing number with
  | nil => rfl
  | cons line rest ih =>
    simp only [scan, h line List.mem_cons_self]
    exact ih (fun line hmem => h line (List.mem_cons_of_mem _ hmem)) _

/-- Adding lines without headers keeps the declarations and the structural lines of a script. -/
theorem ofListing_append {listing : Listing} {extra : List Text} (h : ofListing listing = .ok table)
    (hplain : ∀ line ∈ extra, Header.ofLine? line = none) :
    ofListing ⟨listing.lines ++ extra⟩ = .ok table := by
  unfold ofListing at h ⊢
  rw [scan_append h, scan_of_plain hplain]

end DeclarationTable

/-! ### Executed lines -/

/-- The lines of a listing keep their numbers and their statements when lines are added. -/
theorem Runner.executable_append (table : DeclarationTable) (listing : Listing)
    (extra : List Text) :
    executable table listing <+: executable table ⟨listing.lines ++ extra⟩ := by
  unfold executable Listing.numbered
  rw [List.zipIdx_append, List.filterMap_append]
  exact List.prefix_append _ _

end Stepwise
