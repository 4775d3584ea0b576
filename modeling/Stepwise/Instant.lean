import Stepwise.Text.Blank
import Stepwise.Number.Decimal

/-!
# Instants

A point in time is kept as its calendar date and time of day in UTC, to the nanosecond. A minute may
have a leap second, numbered 60.

- `Instant.write` writes an instant as `2024-02-29T23:59:59.500Z`, with no, three, six or nine
  digits of a fraction,
- `Instant.read?` reads that form and some looser ones: fields of fewer digits, blanks between the
  fields, a space in place of the `T`, and a distance from UTC in place of the `Z`.
-/

namespace Stepwise

/-! ### The calendar -/

/-- Whether a year has a 29th of February. -/
def isLeapYear (year : Int) : Bool :=
  year % 4 == 0 && (year % 100 != 0 || year % 400 == 0)

/-- The number of days of a month, counted from one; zero if there is no such month. -/
def daysInMonth (year : Int) (month : Nat) : Nat :=
  match month with
  | 1 | 3 | 5 | 7 | 8 | 10 | 12 => 31
  | 4 | 6 | 9 | 11 => 30
  | 2 => if isLeapYear year then 29 else 28
  | _ => 0

/-- A date of the calendar. -/
structure Date where
  year : Int
  month : Nat
  day : Nat
deriving DecidableEq, Repr

namespace Date

/-- The years that have instants. -/
def leastYear : Int := -262143

/-- The last year that has instants. -/
def greatestYear : Int := 262142

/-- Whether there is such a date. -/
def isValid (d : Date) : Bool :=
  leastYear ≤ d.year && d.year ≤ greatestYear && 1 ≤ d.day && d.day ≤ daysInMonth d.year d.month

/-- The date one day later. -/
def next (d : Date) : Date :=
  if d.day < daysInMonth d.year d.month then { d with day := d.day + 1 }
  else if d.month < 12 then ⟨d.year, d.month + 1, 1⟩
  else ⟨d.year + 1, 1, 1⟩

/-- The date one day earlier. -/
def previous (d : Date) : Date :=
  if 1 < d.day then { d with day := d.day - 1 }
  else if 1 < d.month then ⟨d.year, d.month - 1, daysInMonth d.year (d.month - 1)⟩
  else ⟨d.year - 1, 12, 31⟩

/-- The date that is `days` days after the first of January 1970. Years are counted here from the
first of March, so that a leap day is the last day of its year. -/
def ofDays (days : Int) : Date :=
  let day := days + 719468
  let cycle := day / 146097
  let dayOfCycle := (day % 146097).toNat
  let yearOfCycle :=
    (dayOfCycle - dayOfCycle / 1460 + dayOfCycle / 36524 - dayOfCycle / 146096) / 365
  let dayOfYear := dayOfCycle - (365 * yearOfCycle + yearOfCycle / 4 - yearOfCycle / 100)
  let monthOfYear := (5 * dayOfYear + 2) / 153
  let month := if monthOfYear < 10 then monthOfYear + 3 else monthOfYear - 9
  let year := cycle * 400 + yearOfCycle
  ⟨if month ≤ 2 then year + 1 else year, month, dayOfYear - (153 * monthOfYear + 2) / 5 + 1⟩

end Date

/-- A time of day. -/
structure TimeOfDay where
  hour : Nat
  minute : Nat
  second : Nat
  nanosecond : Nat
deriving DecidableEq, Repr

/-- Whether there is such a time of day. -/
def TimeOfDay.isValid (t : TimeOfDay) : Bool :=
  t.hour < 24 && t.minute < 60 && t.second ≤ 60 && t.nanosecond < 1000000000

/-- A point in time: its date and time of day in UTC. -/
structure Instant where
  date : Date
  time : TimeOfDay
  isValid : (date.isValid && time.isValid) = true
deriving DecidableEq, Repr

namespace Instant

/-- The beginning of the year 1970. -/
def epoch : Instant := ⟨⟨1970, 1, 1⟩, ⟨0, 0, 0, 0⟩, rfl⟩

/-- The instant of a date and a time of day in UTC, if there are such. -/
def ofUtc? (date : Date) (time : TimeOfDay) : Option Instant :=
  if h : (date.isValid && time.isValid) = true then some ⟨date, time, h⟩ else none

/-- The instant that many nanoseconds after the beginning of the year 1970. -/
def ofNanoseconds? (nanoseconds : Int) : Option Instant :=
  let second := nanoseconds / 1000000000
  let secondOfDay := (second % 86400).toNat
  ofUtc? (.ofDays (second / 86400))
    ⟨secondOfDay / 3600, secondOfDay / 60 % 60, secondOfDay % 60, (nanoseconds % 1000000000).toNat⟩

/-- The instant of a date and a time of day at a place whose clocks are `offset` minutes, less than
a day, before UTC. -/
def ofLocal? (date : Date) (time : TimeOfDay) (offset : Int) : Option Instant :=
  if !(date.isValid && time.isValid) then none
  else
    let minutes := (time.hour * 60 + time.minute : Int) - offset
    let (date, minutes) :=
      if minutes < 0 then (date.previous, minutes + 1440)
      else if 1440 ≤ minutes then (date.next, minutes - 1440)
      else (date, minutes)
    ofUtc? date { time with hour := minutes.toNat / 60, minute := minutes.toNat % 60 }

/-! ### Writing -/

/-- A number with leading zeros up to `width` digits. -/
def padded (width n : Nat) : Text := Text.padStart '0' width (Text.ofNat n)

/-- A year of four digits, or one with a sign and at least four digits. -/
def writeYear (year : Int) : Text :=
  if year < 0 then '-' :: padded 4 year.natAbs
  else if 9999 < year then '+' :: padded 4 year.natAbs
  else padded 4 year.natAbs

/-- The fraction of a second, with as few groups of three digits as it needs. -/
def writeFraction (nanosecond : Nat) : Text :=
  if nanosecond = 0 then []
  else if nanosecond % 1000000 = 0 then '.' :: padded 3 (nanosecond / 1000000)
  else if nanosecond % 1000 = 0 then '.' :: padded 6 (nanosecond / 1000)
  else '.' :: padded 9 nanosecond

/-- The text of an instant. -/
def write (i : Instant) : Text :=
  writeYear i.date.year ++ '-' :: padded 2 i.date.month ++ '-' :: padded 2 i.date.day ++ 'T' ::
    padded 2 i.time.hour ++ ':' :: padded 2 i.time.minute ++ ':' :: padded 2 i.time.second ++
    writeFraction i.time.nanosecond ++ ['Z']

/-! ### Reading -/

/-- The run of at most `most` digits at the beginning of a text, and the rest. -/
def spanDigits : (most : Nat) → Text → Text × Text
  | most + 1, c :: rest =>
    if c.isDigit then
      let (digits, rest) := spanDigits most rest
      (c :: digits, rest)
    else ([], c :: rest)
  | _, text => ([], text)

/-- Reads a number of at most `most` digits, and at least one. -/
def readNat? (most : Nat) (text : Text) : Option (Nat × Text) :=
  let (digits, rest) := spanDigits most text
  if digits.isEmpty then none else some (Text.digitsValue digits, rest)

/-- Reads a field of at most two digits after blanks. -/
def readField? (text : Text) : Option (Nat × Text) := readNat? 2 text.trimStart

/-- Reads a year after blanks: at most four digits, or a sign and any number of digits. -/
def readYear? (text : Text) : Option (Int × Text) :=
  match text.trimStart with
  | '-' :: rest => (readNat? rest.length rest).map fun (n, rest) => (-(n : Int), rest)
  | '+' :: rest => (readNat? rest.length rest).map fun (n, rest) => ((n : Int), rest)
  | text => (readNat? 4 text).map fun (n, rest) => ((n : Int), rest)

/-- Reads a separator after blanks. -/
def readMark? (mark : Char) (text : Text) : Option Text := Text.stripStart? [mark] text.trimStart

/-- Reads the fraction of a second, if there is one; digits after the ninth do not count. -/
def readFraction? : Text → Option (Nat × Text)
  | '.' :: rest =>
    let (digits, rest) := spanDigits 9 rest
    if digits.isEmpty then none
    else
      some (Text.digitsValue digits * Nat.pow 10 (9 - digits.length), rest.dropWhile Char.isDigit)
  | text => some (0, text)

/-- Reads two digits. -/
def readTwoDigits? : Text → Option (Nat × Text)
  | a :: b :: rest =>
    if a.isDigit && b.isDigit then some (Text.digitsValue [a, b], rest) else none
  | _ => none

/-- Reads hours and minutes after a sign, with colons and blanks between them, as minutes. A day or
more is refused. -/
def readDistance? (text : Text) : Option (Nat × Text) := do
  let (hours, rest) ← readTwoDigits? text
  let (minutes, rest) ← readTwoDigits? (rest.dropWhile fun c => c == ':' || isBlank c)
  if hours < 24 && minutes < 60 then some (hours * 60 + minutes, rest) else none

/-- Reads a time zone after blanks: `Z`, `UTC`, or a distance with a sign, in minutes. -/
def readZone? (text : Text) : Option (Int × Text) :=
  let text := text.trimStart
  if (text.take 3).map Char.toUpper = "UTC".toList then some (0, text.drop 3)
  else match text with
    | 'Z' :: rest => some (0, rest)
    | 'z' :: rest => some (0, rest)
    | '+' :: rest => (readDistance? rest).map fun (n, rest) => ((n : Int), rest)
    | '-' :: rest => (readDistance? rest).map fun (n, rest) => (-(n : Int), rest)
    | '−' :: rest => (readDistance? rest).map fun (n, rest) => (-(n : Int), rest)
    | _ => none

/-- Reads a date. -/
def readDate? (text : Text) : Option (Date × Text) := do
  let (year, rest) ← readYear? text
  let rest ← readMark? '-' rest
  let (month, rest) ← readField? rest
  let rest ← readMark? '-' rest
  let (day, rest) ← readField? rest
  return (⟨year, month, day⟩, rest)

/-- Reads a time of day. -/
def readTime? (text : Text) : Option (TimeOfDay × Text) := do
  let (hour, rest) ← readField? text
  let rest ← readMark? ':' rest
  let (minute, rest) ← readField? rest
  let rest ← readMark? ':' rest
  let (second, rest) ← readField? rest
  let (nanosecond, rest) ← readFraction? rest
  return (⟨hour, minute, second, nanosecond⟩, rest)

/-- Reads an instant. -/
def read? (text : Text) : Option Instant := do
  let (date, rest) ← readDate? text
  let mark ← rest.head?
  if !(mark == 'T' || mark == 't' || mark == ' ') then none
  else
    let (time, rest) ← readTime? rest.tail
    let (offset, rest) ← readZone? rest
    if rest.allBlank then ofLocal? date time offset else none

end Instant
end Stepwise
