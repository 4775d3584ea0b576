import Stepwise.Declaration

/-!
# Statements

What a line does is told by its shape alone. The shapes are tried in a fixed order, since a line may
fit several of them:

1. an assignment `name = expression`,
2. output, written `console(log(expression))`,
3. a call `name(arguments)` of a declared function,
4. output, written `console.log(expression)`,
5. a condition `if (expression)`,
6. a loop header `for (clause)`,
7. any other line is a plain expression.

Nothing is evaluated here.
-/

namespace Stepwise

/-- A classified line. -/
inductive Statement where
  | assignment (name expression : Text)
  | output (expression : Text)
  | call (name : Text) (arguments : List Text)
  | condition (expression : Text)
  | loop (clause : Text)
  | expression (text : Text)
deriving DecidableEq, Repr

namespace Statement

/-- The text without the blanks at its ends, unless nothing is left. -/
def nonBlank? (text : Text) : Option Text :=
  let text := text.trim
  if text.isEmpty then none else some text

/-- The name and the expression of an assignment: the first `=` is not part of `==`, and a word
alone stands before it. -/
def assignmentParts? (line : Text) : Option (Text × Text) := do
  let (before, after) ← line.cutAt? '='
  let name := before.trimEnd
  if after.head? = some '=' || !name.isWord then none
  else
    let right ← nonBlank? after
    return (name, right)

/-- The expression of the arguments `log(expression)`, whose own closing parenthesis may be
missing. -/
def logArgument? (arguments : Text) : Option Text := do
  let inner ← Text.stripStart? "log(" arguments
  nonBlank? (inner.dropEnd ')')

/-- The expression of a line `console.log(expression)`. -/
def dottedLogArgument? (line : Text) : Option Text := do
  let rest ← Text.stripStart? "console.log(" line
  let inner ← rest.stripEnd? ')'
  nonBlank? inner

/-- The arguments of a call. -/
def splitArguments (text : Text) : List Text :=
  if text.allBlank then [] else text.topLevelPieces.map Text.trim

/-- An assignment line. -/
def assignment? (line : Text) : Option Statement :=
  (assignmentParts? line).map fun (name, right) => assignment name right

/-- An output line with nested parentheses. -/
def nestedOutput? (line : Text) : Option Statement := do
  let (name, arguments) ← line.callShape?
  if name = "console".toList then (logArgument? arguments).map output else none

/-- A call of a declared function. -/
def call? (table : DeclarationTable) (line : Text) : Option Statement := do
  let (name, arguments) ← line.callShape?
  if table.contains name then some (call name (splitArguments arguments)) else none

/-- An output line with a dotted name. -/
def dottedOutput? (line : Text) : Option Statement := (dottedLogArgument? line).map output

/-- A condition line. -/
def condition? (line : Text) : Option Statement :=
  (Text.groupShape? "if" line).map fun inner => condition inner.trim

/-- A loop header. -/
def loop? (line : Text) : Option Statement :=
  (Text.groupShape? "for" line).map fun inner => loop inner.trim

/-- The statement of a line: the first shape that it has. -/
def ofLine (table : DeclarationTable) (line : Text) : Statement :=
  (assignment? line <|> nestedOutput? line <|> call? table line <|> dottedOutput? line
    <|> condition? line <|> loop? line).getD (expression line)

/-- The statement of a line that is not structural. -/
def classify? (table : DeclarationTable) (number : Nat) (line : Text) : Option Statement :=
  if table.isStructural number line then none else some (ofLine table line)

end Statement
end Stepwise
