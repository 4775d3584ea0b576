import Stepwise.Text.Blank
import Stepwise.Number.Shortest

/-!
# Numerals

How numbers are written. The digits are those of the shortest decimal; a `NumeralStyle` decides
where the point goes and when an exponent is written instead:

- `NumeralStyle.display` is the style of printed values,
- `NumeralStyle.archive` is the style of archived numbers, which always show that they are not
  integers.

`Number.ofNumericText` reads a text as a number the way arithmetic on texts does.
-/

namespace Stepwise

/-- The decisions of one way to write numbers. -/
structure NumeralStyle where
  /-- The decimal that is written when two are equally near. -/
  tie : Tie
  /-- The least decimal exponent that is written without an exponent. -/
  least : Int
  /-- The greatest decimal exponent that is written without an exponent. -/
  greatest : Int
  /-- What stands after the digits of a whole number. -/
  afterWhole : Text
deriving DecidableEq, Repr

namespace NumeralStyle

/-- Printed values: no exponent from a millionth up to and without `10 ^ 21`. -/
def display : NumeralStyle := ⟨.up, -6, 20, []⟩

/-- Archived numbers: no exponent from `10 ^ (-5)` up to and without `10 ^ 16`, and always a
fraction. -/
def archive : NumeralStyle := ⟨.toEven, -5, 15, ".0"⟩

end NumeralStyle

namespace Decimal

/-- The digits of the coefficient without trailing zeros; the last digit that is left may be a
zero. -/
def significant (d : Decimal) : Text :=
  let digits := Text.ofNat d.coefficient
  match (digits.reverse.dropWhile (· == '0')).reverse with
  | [] => ['0']
  | kept => kept

/-- The power of ten of the first digit. -/
def leading (d : Decimal) : Int := d.exponent + (Text.ofNat d.coefficient).length - 1

/-- Digits whose first one counts `10 ^ leading`, written without an exponent. -/
def positional (afterWhole digits : Text) (leading : Int) : Text :=
  match leading with
  | .negSucc n => '0' :: '.' :: List.replicate n '0' ++ digits
  | .ofNat n =>
    if digits.length ≤ n + 1 then digits ++ List.replicate (n + 1 - digits.length) '0' ++ afterWhole
    else digits.take (n + 1) ++ '.' :: digits.drop (n + 1)

/-- Digits whose first one counts `10 ^ leading`, written with one digit before the point and an
exponent. -/
def scientific (digits : Text) (leading : Int) : Text :=
  let exponent := match leading with
    | .negSucc n => '-' :: Text.ofNat (n + 1)
    | .ofNat n => '+' :: Text.ofNat n
  match digits with
  | [] => 'e' :: exponent
  | [first] => first :: 'e' :: exponent
  | first :: others => first :: '.' :: others ++ 'e' :: exponent

/-- A decimal written in a style. -/
def write (style : NumeralStyle) (d : Decimal) : Text :=
  if style.least ≤ d.leading ∧ d.leading ≤ style.greatest then
    positional style.afterWhole d.significant d.leading
  else scientific d.significant d.leading

end Decimal

namespace Number

/-- The sign in front of a numeral. -/
def signText (negative : Bool) : Text := if negative then ['-'] else []

/-- The text of a finite magnitude in a style. -/
def magnitudeText (style : NumeralStyle) (rank : Nat) : Text :=
  if rank = 0 then '0' :: style.afterWhole else (Decimal.shortest style.tie rank).write style

/-- The printed text of a number; both zeros print as `0`. -/
def display : Number → Text
  | nan => "NaN"
  | ranked negative rank _ =>
    if rank = 0 then ['0']
    else if rank = topRank then signText negative ++ "Infinity".toList
    else signText negative ++ magnitudeText .display rank

/-- The archived numeral of a finite number; a negative zero keeps its sign. -/
def archived : Number → Text
  | nan => "NaN"
  | ranked negative rank _ => signText negative ++ magnitudeText .archive rank

/-- A character that may stand in a numeral inside a text. -/
def isNumeralChar (c : Char) : Bool :=
  c.isDigit || c == '.' || c == '-' || c == '+' || c == 'e' || c == 'E'

/-- The number that a text stands for in arithmetic: blanks around it do not count, a blank text is
zero, `Infinity` is read with a sign, and what is no numeral is `nan`. -/
def ofNumericText (text : Text) : Number :=
  let text := text.trim
  if text = [] then zero false
  else if text = "Infinity".toList ∨ text = "+Infinity".toList then infinity false
  else if text = "-Infinity".toList then infinity true
  else if text.all isNumeralChar then (ofNumeral? text).getD nan
  else nan

end Number
end Stepwise
