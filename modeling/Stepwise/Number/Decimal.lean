import Stepwise.Text.Basic
import Stepwise.Number.Basic

/-!
# Decimals

A decimal is a natural number times a power of ten. Numerals are read as decimals and then rounded
once. Two grammars are read:

- `Decimal.ofLiteral?`: digits, or digits, a point and digits,
- `Number.ofNumeral?`: an optional sign, digits with an optional point somewhere among or beside
  them, and an optional exponent.
-/

namespace Stepwise

/-- The number `coefficient * 10 ^ exponent`. -/
structure Decimal where
  coefficient : Nat
  exponent : Int
deriving DecidableEq, Repr

namespace Text

/-- Whether the text is a non-empty run of ASCII digits. -/
def isDigits (text : Text) : Bool := !text.isEmpty && text.all Char.isDigit

/-- The natural number that a run of digits denotes. -/
def digitsValue (text : Text) : Nat :=
  text.foldl (fun value c => 10 * value + (c.toNat - '0'.toNat)) 0

end Text

namespace Decimal

/-- The rank nearest to a decimal. Decimals from `10 ^ 310` on are infinite and those below
`10 ^ (-330)` are zero, whatever their exponent. -/
def rank (d : Decimal) : Nat :=
  if d.coefficient = 0 then 0
  else
    let size : Int := (Text.ofNat d.coefficient).length + d.exponent
    if 310 < size then topRank
    else if size < -330 then 0
    else match d.exponent with
      | .ofNat e => nearestRank (d.coefficient * Nat.pow 10 e * unitsOfOne) 1
      | .negSucc e => nearestRank (d.coefficient * unitsOfOne) (Nat.pow 10 (e + 1))

/-- The number nearest to a decimal, with a sign. -/
def toNumber (d : Decimal) (negative : Bool) : Number := .ofRank negative d.rank

/-- The decimal of the digits before and after a point. -/
def ofParts (whole fraction : Text) : Decimal :=
  ⟨Text.digitsValue (whole ++ fraction), -(fraction.length : Int)⟩

/-- Reads digits, or digits, a point and digits. -/
def ofLiteral? (text : Text) : Option Decimal :=
  match text.cutAt? '.' with
  | none => if text.isDigits then some (ofParts text []) else none
  | some (whole, fraction) =>
    if whole.isDigits && fraction.isDigits then some (ofParts whole fraction) else none

/-- Reads a signed run of digits. -/
def readExponent? : Text → Option Int
  | '-' :: digits => if Text.isDigits digits then some (-(Text.digitsValue digits : Int)) else none
  | '+' :: digits => if Text.isDigits digits then some (Text.digitsValue digits) else none
  | digits => if Text.isDigits digits then some (Text.digitsValue digits) else none

/-- Reads what may follow the digits of a numeral: nothing, or an exponent after `e` or `E`. -/
def readSuffix? : Text → Option Int
  | [] => some 0
  | c :: rest => if c = 'e' ∨ c = 'E' then readExponent? rest else none

/-- Reads a numeral without a sign: at least one digit, an optional point, an optional exponent. -/
def ofNumeral? (text : Text) : Option Decimal :=
  let whole := text.takeWhile Char.isDigit
  let rest := text.dropWhile Char.isDigit
  let (fraction, suffix) := match rest with
    | '.' :: more => (more.takeWhile Char.isDigit, more.dropWhile Char.isDigit)
    | _ => ([], rest)
  if whole.isEmpty && fraction.isEmpty then none
  else (readSuffix? suffix).map fun e =>
    let d := ofParts whole fraction
    { d with exponent := d.exponent + e }

end Decimal

/-- Reads a numeral with an optional sign, rounded to the nearest number. -/
def Number.ofNumeral? : Text → Option Number
  | '-' :: rest => (Decimal.ofNumeral? rest).map fun d => d.toNumber true
  | '+' :: rest => (Decimal.ofNumeral? rest).map fun d => d.toNumber false
  | text => (Decimal.ofNumeral? text).map fun d => d.toNumber false

/-- Reads an unsigned literal: digits, or digits, a point and digits. -/
def Number.ofLiteral? (text : Text) : Option Number :=
  (Decimal.ofLiteral? text).map fun d => d.toNumber false

end Stepwise
