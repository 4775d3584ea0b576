import Stepwise.Text.Blank

/-!
# Words and the shapes built from them

Names are words: non-empty runs of ASCII letters, digits and underscores. Two shapes of a line are
recognised here, without looking inside their parentheses:

- `callShape?`: a word, blanks, and a parenthesised rest that ends the line,
- `groupShape?`: a fixed keyword, blanks, and a parenthesised rest that ends the line or stands
  before a final opening brace.
-/

namespace Stepwise

/-- A word character: an ASCII letter, an ASCII digit or an underscore. -/
def isWordChar (c : Char) : Bool := c.isAlphanum || c == '_'

namespace Text

/-- A word: at least one character, and word characters only. -/
def isWord (text : Text) : Bool := !text.isEmpty && text.all isWordChar

/-- The longest beginning of word characters, and the rest. -/
def spanWord (text : Text) : Text × Text := (text.takeWhile isWordChar, text.dropWhile isWordChar)

/-- What follows an opening parenthesis, blanks before it apart. -/
def openParen? (text : Text) : Option Text := stripStart? ['('] text.trimStart

/-- The name and the argument text of a line `name (arguments)`. The closing parenthesis is the last
character of the line. -/
def callShape? (line : Text) : Option (Text × Text) :=
  let (name, rest) := line.spanWord
  if name.isEmpty then none
  else do
    let inner ← openParen? rest
    let arguments ← stripEnd? ')' inner
    return (name, arguments)

/-- The text between the parentheses of a line `keyword (inner)` or `keyword (inner) {`, when it
is not blank. -/
def groupShape? (keyword line : Text) : Option Text := do
  let rest ← stripStart? keyword line
  let inner ← openParen? rest
  let inner := match stripEnd? '{' inner with
    | some head => head.trimEnd
    | none => inner
  let inner ← stripEnd? ')' inner
  if inner.allBlank then none else return inner

end Text
end Stepwise
