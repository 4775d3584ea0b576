import Stepwise.Text.Blank

/-!
# Listings

The listing of a script has its lines without the blanks at either end, and without the lines that
are blank. Lines are numbered from one in the listing; these numbers are used everywhere else.
-/

namespace Stepwise

/-- The lines of a script. -/
structure Listing where
  lines : List Text
deriving DecidableEq, Repr

namespace Listing

/-- The listing of a source text. -/
def ofText (source : Text) : Listing :=
  ⟨((source.splitOn '\n').map Text.trim).filter fun line => !line.isEmpty⟩

/-- The number of lines. -/
def size (listing : Listing) : Nat := listing.lines.length

/-- The line of a number, if there is one. -/
def get? (listing : Listing) : (number : Nat) → Option Text
  | 0 => none
  | n + 1 => listing.lines[n]?

/-- The lines with their numbers. -/
def numbered (listing : Listing) : List (Text × Nat) := listing.lines.zipIdx 1

end Listing
end Stepwise
