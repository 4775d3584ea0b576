import Stepwise.Text.Letter
import Stepwise.Text.Quoted
import Stepwise.Screen.Row

/-!
# Highlighting

A line of a script is cut into tokens, which are shown in different styles: words by their meaning,
quoted stretches, brackets, other symbols one by one, and a comment up to the end of the line. The
tokens of a line joined together are the line again.

- `tokens` cuts a line,
- `TokenKind.style` is the style of each kind of token.
-/

namespace Stepwise

/-- What a token is. -/
inductive TokenKind where
  | keyword
  /-- A truth value, a value for nothing, or a word that begins with a digit. -/
  | constant
  /-- The name of the console. -/
  | console
  /-- A name before an opening parenthesis. -/
  | function
  | name
  /-- A word right before a quote or a comment. -/
  | unmarked
  | bracket
  | symbol
  | quoted
  | comment
deriving DecidableEq, Repr

/-- A piece of a line. -/
structure Token where
  kind : TokenKind
  text : Text
deriving DecidableEq, Repr

namespace TokenKind

/-- The style of a kind of token. -/
def style : TokenKind → Style
  | keyword => (Style.ink Palette.blue).bold
  | constant => .ink Palette.orange
  | console => .ink Palette.teal
  | function => .ink Palette.yellow
  | name => .ink Palette.ink
  | unmarked => .plain
  | bracket => .ink Palette.blue
  | symbol => .ink Palette.ink
  | quoted => .ink Palette.orange
  | comment => .ink Palette.gray

end TokenKind

namespace Highlight

/-- The words that are highlighted as keywords. -/
def keywords : List Text :=
  ["function".toList, "return".toList, "if".toList, "else".toList, "for".toList, "while".toList,
   "let".toList, "const".toList, "var".toList]

/-- The words that are highlighted as constants. -/
def constants : List Text := ["true".toList, "false".toList, "null".toList, "undefined".toList]

/-- The kind of a word, which may stand before an opening parenthesis. -/
def wordKind (word : Text) (isCalled : Bool) : TokenKind :=
  if keywords.contains word then .keyword
  else if constants.contains word then .constant
  else if word = "console".toList then .console
  else if word.head?.any Char.isDigit then .constant
  else if isCalled then .function
  else .name

/-- The kind of a single character that is not part of a word. -/
def symbolKind (c : Char) : TokenKind :=
  if "\x7b\x7d()[]".toList.contains c then .bracket else .symbol

/-- Whether a character is part of a word. -/
def isWordPart (c : Char) : Bool := isLetter c || c == '_' || c == '$'

/-- The token of a text, if the text is not empty. -/
def token? (kind : TokenKind) (text : Text) : List Token :=
  if text.isEmpty then [] else [⟨kind, text⟩]

/-- What the characters before the rest of a line begin. -/
inductive Open where
  /-- A word, possibly empty. -/
  | word
  /-- A quoted stretch up to the next such quote. -/
  | quote (mark : Char)
deriving DecidableEq, Repr

/-- The tokens of `begun`, the beginning of a token, followed by the rest of a line. -/
def tokensFrom : Open → (begun : Text) → Text → List Token
  | .word, begun, [] => token? (wordKind begun false) begun
  | .quote _, begun, [] => [⟨.quoted, begun⟩]
  | .quote mark, begun, c :: rest =>
    if c = mark then ⟨.quoted, begun ++ [c]⟩ :: tokensFrom .word [] rest
    else tokensFrom (.quote mark) (begun ++ [c]) rest
  | .word, begun, c :: rest =>
    if c = '/' ∧ rest.head? = some '/' then token? .unmarked begun ++ [⟨.comment, c :: rest⟩]
    else if isQuote c then token? .unmarked begun ++ tokensFrom (.quote c) [c] rest
    else if isWordPart c then tokensFrom .word (begun ++ [c]) rest
    else token? (wordKind begun (c == '(')) begun ++ ⟨symbolKind c, [c]⟩ :: tokensFrom .word [] rest

/-- The tokens of a line. -/
def tokens (line : Text) : List Token := tokensFrom .word [] line

/-- A line with the style of each token. -/
def highlighted (line : Text) : Line := (tokens line).map fun t => ⟨t.text, t.kind.style⟩

end Highlight
end Stepwise
