import Stepwise.Text.Basic

/-!
# Scanning outside quotes

A single or double quote opens a quoted stretch, which lasts to the next quote of the same kind or
to the end of the text. There are no escapes. Everything that looks for operators, commas or braces
looks only at the characters outside such stretches:

- `Quote.next` follows the stretches character by character,
- `unquoted` lists the characters outside them, each as a `Cut` of the text,
- `topLevelPieces` splits at the commas outside quotes and parentheses,
- `braceBalance` is the number of opening braces less that of closing braces.
-/

namespace Stepwise

/-- A quote character opens and closes a quoted stretch. -/
def isQuote (c : Char) : Bool := c == '"' || c == '\''

/-- The quote character of the stretch a scan is inside of, if it is inside one. -/
abbrev Quote := Option Char

namespace Quote

/-- The state of the scan after one more character. -/
def next : Quote → Char → Quote
  | some quote, c => if c = quote then none else some quote
  | none, c => if isQuote c then some c else none

/-- Whether a character read in this state stands outside quotes; quote characters never do. -/
def isOutside (quote : Quote) (c : Char) : Bool := quote.isNone && !isQuote c

end Quote

/-- One character of a text with what stands before and after it. -/
structure Cut where
  /-- The characters before, the nearest one first. -/
  seen : Text
  /-- The character itself. -/
  char : Char
  /-- The characters after. -/
  rest : Text
deriving DecidableEq, Repr

namespace Cut

/-- The characters before the cut, in reading order. -/
def before (cut : Cut) : Text := cut.seen.reverse

/-- The offset of the character in bytes of UTF-8. -/
def offset (cut : Cut) : Nat := Text.utf8Size cut.seen

/-- What the character and all that follows it reads. -/
def onward (cut : Cut) : Text := cut.char :: cut.rest

end Cut

namespace Text

/-- The characters outside quotes of a text that is read on from `seen` in state `quote`. -/
def unquotedFrom (quote : Quote) (seen : Text) : Text → List Cut
  | [] => []
  | c :: rest =>
    let later := unquotedFrom (quote.next c) (c :: seen) rest
    if quote.isOutside c then ⟨seen, c, rest⟩ :: later else later

/-- The characters outside quotes, in order. -/
def unquoted (text : Text) : List Cut := unquotedFrom none [] text

/-! ### Commas -/

/-- The depth of parentheses after one more character outside quotes; it never falls below zero. -/
def nextDepth (depth : Nat) (c : Char) : Nat :=
  if c = '(' then depth + 1 else if c = ')' then depth - 1 else depth

/-- The pieces of a text that is read on in state `quote`, inside `depth` parentheses. -/
def topLevelPiecesFrom (quote : Quote) (depth : Nat) : Text → List Text
  | [] => [[]]
  | c :: rest =>
    if quote.isOutside c then
      if c = ',' ∧ depth = 0 then [] :: topLevelPiecesFrom none 0 rest
      else (topLevelPiecesFrom none (nextDepth depth c) rest).modifyHead (c :: ·)
    else (topLevelPiecesFrom (quote.next c) depth rest).modifyHead (c :: ·)

/-- The pieces between the commas that stand outside quotes and outside parentheses. -/
def topLevelPieces (text : Text) : List Text := topLevelPiecesFrom none 0 text

/-! ### Braces -/

/-- What one character outside quotes adds to the balance of braces. -/
def braceWeight (c : Char) : Int :=
  if c = '{' then 1 else if c = '}' then -1 else 0

/-- The opening braces less the closing braces, outside quotes. -/
def braceBalance (text : Text) : Int :=
  text.unquoted.foldr (fun cut balance => braceWeight cut.char + balance) 0

end Text
end Stepwise
