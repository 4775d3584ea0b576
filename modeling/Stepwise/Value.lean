import Stepwise.Number.Numeral

/-!
# Values

The values that a script computes with: numbers, texts, truth values, two kinds of nothing, and the
text of an expression that was not understood. Values are loosely typed:

- `toNumber` and `isTruthy` convert every value,
- `looseEq` and `compare?` compare values of different kinds after conversion,
- `display` is the printed text of a value, `literal` the form that shows quotes around text.

`==` on values is strict: the same kind with equal content, numbers by their own `==`.
-/

namespace Stepwise

/-- The kinds of values. -/
inductive Kind where
  | number
  | string
  | boolean
  | undefined
  | null
  /-- Text of an expression that was not understood. -/
  | raw
deriving DecidableEq, Repr

namespace Kind

/-- All kinds. -/
def all : List Kind := [number, string, boolean, undefined, null, raw]

/-- The name of a kind. -/
def name : Kind → Text
  | number => "number"
  | string => "string"
  | boolean => "boolean"
  | undefined => "undefined"
  | null => "null"
  | raw => "opaque"

end Kind

/-- A value of a script. -/
inductive Value where
  | number (n : Number)
  | string (text : Text)
  | boolean (b : Bool)
  | undefined
  | null
  /-- The text of an expression that was not understood. -/
  | raw (text : Text)
deriving DecidableEq

namespace Value

/-- The kind of a value. -/
def kind : Value → Kind
  | number _ => .number
  | string _ => .string
  | boolean _ => .boolean
  | undefined => .undefined
  | null => .null
  | raw _ => .raw

/-- The number of a number value. -/
def number? : Value → Option Number
  | number n => some n
  | _ => none

/-- The text of a value that is text, understood or not. -/
def text? : Value → Option Text
  | string text => some text
  | raw text => some text
  | _ => none

/-- Whether the value is text. -/
def isText (v : Value) : Bool := v.text?.isSome

/-- Whether the value is one of the two kinds of nothing. -/
def isNothing : Value → Bool
  | undefined => true
  | null => true
  | _ => false

/-! ### Conversions -/

/-- Zero, `nan`, empty text, falsehood and nothing count as false; all else counts as true. -/
def isTruthy : Value → Bool
  | number .nan => false
  | number (.ranked _ rank _) => rank != 0
  | string text => !text.isEmpty
  | raw text => !text.isEmpty
  | boolean b => b
  | undefined => false
  | null => false

/-- The number that a value stands for in arithmetic. -/
def toNumber : Value → Number
  | number n => n
  | boolean b => if b then .ofNat 1 else .zero false
  | null => .zero false
  | undefined => .nan
  | string text => .ofNumericText text
  | raw text => .ofNumericText text

/-! ### Comparisons -/

/-- Strict equality: the same kind and equal content. -/
def equal : Value → Value → Bool
  | number a, number b => a == b
  | string a, string b => a == b
  | boolean a, boolean b => a == b
  | undefined, undefined => true
  | null, null => true
  | raw a, raw b => a == b
  | _, _ => false

instance : BEq Value := ⟨equal⟩

/-- Loose equality. Nothing equals nothing and only that; two numbers, two truth values and two
texts are compared as what they are; all else is compared as numbers. -/
def looseEq (a b : Value) : Bool :=
  if a.isNothing || b.isNothing then a.isNothing && b.isNothing
  else match a, b with
    | number m, number n => m == n
    | boolean p, boolean q => p == q
    | _, _ =>
      match a.text?, b.text? with
      | some s, some t => s == t
      | _, _ => a.toNumber == b.toNumber

/-- The order of two values, if they are comparable. Texts are ordered by their characters' code
points; all else is compared as numbers. -/
def compare? (a b : Value) : Option Ordering :=
  match a.text?, b.text? with
  | some s, some t => some (compare s t)
  | _, _ => a.toNumber.compare? b.toNumber

/-! ### Texts of values -/

/-- The printed text of a truth value. -/
def boolText (b : Bool) : Text := if b then "true" else "false"

/-- The printed text of a value. -/
def display : Value → Text
  | number n => n.display
  | string text => text
  | raw text => text
  | boolean b => boolText b
  | undefined => "undefined"
  | null => "null"

/-- The printed text of a value, with double quotes around text. -/
def literal (v : Value) : Text :=
  match v.text? with
  | some text => '"' :: text ++ ['"']
  | none => v.display

end Value
end Stepwise
