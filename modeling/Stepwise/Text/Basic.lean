/-!
# Text

A piece of text is the list of its characters. Beside the operations on lists that the standard
library has, the rest of this library needs a few that speak of text:

- cutting at the first occurrence of a character (`cutAt?`) and at a fixed beginning or end
  (`stripStart?`, `stripEnd?`), and into lines (`lines`),
- the decimal numeral of a number (`ofNat`) and alignment (`padStart`, `padEnd`),
- the size of a text in UTF-8 (`utf8Size`).
-/

namespace Stepwise

/-- A piece of text: the list of its characters. -/
abbrev Text := List Char

instance : Coe String Text := ⟨String.toList⟩

namespace Text

/-! ### Cutting -/

/-- The text before and after the first `sep`, if there is one. -/
def cutAt? (sep : Char) : Text → Option (Text × Text)
  | [] => none
  | c :: rest =>
    if c = sep then some ([], rest)
    else (cutAt? sep rest).map fun (before, after) => (c :: before, after)

/-- What follows `start`, when the text begins with it. -/
def stripStart? (start text : Text) : Option Text := start.isPrefixOf? text

/-- What precedes the last character, when that character is `last`. -/
def stripEnd? (last : Char) (text : Text) : Option Text :=
  if text.getLast? = some last then some text.dropLast else none

/-- The text without its last character, if that is `last`; otherwise the text itself. -/
def dropEnd (last : Char) (text : Text) : Text := (text.stripEnd? last).getD text

/-- The lines of a text. A line feed ends a line, also together with a carriage return before it.
The empty text is one empty line. -/
def lines (text : Text) : List Text :=
  let pieces := text.splitOn '\n'
  let ended := pieces.dropLast.map (dropEnd '\r')
  let last := pieces.getLastD []
  if last.isEmpty && !ended.isEmpty then ended else ended ++ [last]

/-! ### Numerals and alignment -/

/-- The decimal numeral of `n`. -/
def ofNat (n : Nat) : Text := Nat.toDigits 10 n

/-- The text with copies of `fill` in front, so that it has at least `width` characters. -/
def padStart (fill : Char) (width : Nat) (text : Text) : Text :=
  List.replicate (width - text.length) fill ++ text

/-- The text with copies of `fill` behind it, so that it has at least `width` characters. -/
def padEnd (fill : Char) (width : Nat) (text : Text) : Text :=
  text ++ List.replicate (width - text.length) fill

/-! ### Size -/

/-- The number of bytes that the text takes in UTF-8. -/
def utf8Size (text : Text) : Nat := text.foldr (fun c size => c.utf8Size + size) 0

end Text
end Stepwise
