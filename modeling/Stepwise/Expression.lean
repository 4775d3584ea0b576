import Stepwise.Text.Word
import Stepwise.Text.Quoted
import Stepwise.Fault
import Stepwise.Variable

/-!
# Expressions

An expression is a literal, a name, or two operands with one operator between them; there is no
precedence and no nesting. What has none of these shapes is kept as the text that it is.

- `splitArithmetic?` and `splitComparison?` find the operator: the first one outside quotes with
  text on both sides,
- `resolve` gives the value of an operand; a name without a value is kept as text,
- `evaluate` gives the value of an expression; a name alone must have a value.
-/

namespace Stepwise

/-! ### Operators -/

/-- The arithmetic operators. -/
inductive Arithmetic where
  | add
  | sub
  | mul
  | div
deriving DecidableEq, Repr

namespace Arithmetic

/-- The operator that a character stands for. -/
def ofChar? : Char → Option Arithmetic
  | '+' => some add
  | '-' => some sub
  | '*' => some mul
  | '/' => some div
  | _ => none

/-- The text of an operator. -/
def symbol : Arithmetic → Text
  | add => ['+']
  | sub => ['-']
  | mul => ['*']
  | div => ['/']

/-- The result of an operator. Adding anything to a text joins the printed texts; all else is
arithmetic on numbers. -/
def apply (op : Arithmetic) (a b : Value) : Value :=
  if op = add ∧ (a.isText || b.isText) then .string (a.display ++ b.display)
  else
    let x := a.toNumber
    let y := b.toNumber
    .number (match op with
      | add => x.add y
      | sub => x.sub y
      | mul => x.mul y
      | div => x.div y)

end Arithmetic

/-- The comparison operators. -/
inductive Comparison where
  | eq
  | ne
  | lt
  | gt
  | le
  | ge
deriving DecidableEq, Repr

namespace Comparison

/-- The operator that a text begins with, and what follows it. Operators of two characters come
first. -/
def read? : Text → Option (Comparison × Text)
  | '=' :: '=' :: rest => some (eq, rest)
  | '!' :: '=' :: rest => some (ne, rest)
  | '<' :: '=' :: rest => some (le, rest)
  | '>' :: '=' :: rest => some (ge, rest)
  | '<' :: rest => some (lt, rest)
  | '>' :: rest => some (gt, rest)
  | _ => none

/-- The text of an operator. -/
def symbol : Comparison → Text
  | eq => ['=', '=']
  | ne => ['!', '=']
  | lt => ['<']
  | gt => ['>']
  | le => ['<', '=']
  | ge => ['>', '=']

/-- Whether a comparison holds. The order comparisons fail for values that are not comparable. -/
def holds (op : Comparison) (a b : Value) : Bool :=
  match op with
  | eq => a.looseEq b
  | ne => !a.looseEq b
  | lt => a.compare? b == some .lt
  | gt => a.compare? b == some .gt
  | le => a.compare? b == some .lt || a.compare? b == some .eq
  | ge => a.compare? b == some .gt || a.compare? b == some .eq

end Comparison

namespace Expression

/-! ### Splitting -/

/-- The two operands around an operator, when both have text. -/
def operands? {α : Type} (op : α) (left right : Text) : Option (Text × α × Text) :=
  let left := left.trim
  let right := right.trim
  if left.isEmpty || right.isEmpty then none else some (left, op, right)

/-- Splits at the first arithmetic operator outside quotes that has text on both sides. -/
def splitArithmetic? (text : Text) : Option (Text × Arithmetic × Text) :=
  text.unquoted.findSome? fun cut =>
    (Arithmetic.ofChar? cut.char).bind fun op => operands? op cut.before cut.rest

/-- Splits at the first comparison operator outside quotes that has text on both sides. -/
def splitComparison? (text : Text) : Option (Text × Comparison × Text) :=
  text.unquoted.findSome? fun cut =>
    (Comparison.read? cut.onward).bind fun (op, rest) => operands? op cut.before rest

/-! ### Literals -/

/-- The text inside a literal in quotes; the quote does not occur inside. -/
def quotedLiteral? : Text → Option Text
  | [] => none
  | quote :: rest =>
    if isQuote quote then
      match Text.stripEnd? quote rest with
      | some inner => if inner.contains quote then none else some inner
      | none => none
    else none

/-- The value of a number literal or a literal in quotes. -/
def literal? (text : Text) : Option Value :=
  match Number.ofLiteral? text with
  | some n => some (.number n)
  | none => (quotedLiteral? text).map .string

/-- The value of a keyword. -/
def keyword? (text : Text) : Option Value :=
  if text = "true".toList then some (.boolean true)
  else if text = "false".toList then some (.boolean false)
  else if text = "null".toList then some .null
  else if text = "undefined".toList then some .undefined
  else none

/-! ### Evaluation -/

/-- The value of an operand: a literal, the value of a variable, or else the text itself. -/
def resolve (table : VariableTable) (operand : Text) : Value :=
  let text := operand.trim
  match literal? text with
  | some value => value
  | none => (table.get? text).getD (.raw text)

/-- The value of an expression on line `line`. -/
def evaluate (table : VariableTable) (line : Nat) (expression : Text) : Except Fault Value :=
  let text := expression.trim
  match literal? text <|> keyword? text with
  | some value => .ok value
  | none =>
    if text.isWord then
      match table.get? text with
      | some value => .ok value
      | none => .error (.undefinedVariable text line)
    else
      match splitArithmetic? text with
      | some (left, op, right) => .ok (op.apply (resolve table left) (resolve table right))
      | none =>
        match splitComparison? text with
        | some (left, op, right) =>
          .ok (.boolean (op.holds (resolve table left) (resolve table right)))
        | none => .ok (.raw text)

end Expression
end Stepwise
