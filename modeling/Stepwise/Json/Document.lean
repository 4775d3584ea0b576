import Stepwise.Json.Library

/-!
# Reading JSON text

Text is read into a `Document`, which has a place for what is wrong with the text. Where the text
stops being JSON, there is a value or a name that is cut off, or the collection that was being read
has a `stop`, and nothing after that place is part of the document. So what a document is used for
can be checked in the order of the text: a value of the wrong shape counts before text that is
malformed further on.

- `Document.read` reads a text,
- `Document.otherShape` is the fault of a document that is not what was looked for,
- `Document.firstFault?` is the first fault of a document in the order of the text.

Some faults count only when the value is used (`strict`), others are different when it is only
passed over.
-/

namespace Stepwise

/-- What stands in the place of a member's name. -/
inductive MemberName where
  /-- A string; `none` if its escapes do not stand for characters. -/
  | text (name : Option Text)
  /-- A string that is cut off: the fault for one who reads it, and for one who passes over it. -/
  | cut (read passed : JsonFault)
  /-- Something else: the fault for one who looks for a string. -/
  | other (fault : JsonFault)
deriving DecidableEq, Repr

/-- A JSON text as far as it can be read. -/
inductive Document where
  | null
  | bool (b : Bool)
  | number (numeral : Text)
  /-- A string; `none` if its escapes do not stand for characters. -/
  | string (text : Option Text)
  /-- The items, and what is wrong after the last one. -/
  | array (items : List Document) (stop : Option JsonFault)
  /-- The members, and what is wrong after the last one. -/
  | object (members : List (MemberName × Document)) (stop : Option JsonFault)
  /-- A collection inside too many others. -/
  | deep (collection : Document)
  /-- No value begins here. -/
  | absent (fault : JsonFault)
  /-- A string that is cut off: the fault for one who reads it, and for one who passes over it. -/
  | cutString (read passed : JsonFault)
  /-- The beginning of `null`, `true` or `false`, and something else than the rest. -/
  | cutWord (fault : JsonFault)
  /-- The beginning of a number without the digits that have to follow. -/
  | cutNumber (fault : JsonFault)

namespace Document

/-- Whether a numeral is too great for a number. -/
def isTooGreat (numeral : Text) : Bool :=
  match Number.ofNumeral? numeral with
  | some n => !n.isFinite
  | none => true

/-- The fault of a document of another shape than expected: one of the text if the value itself
cannot be read, and a mismatch otherwise. What is inside a collection does not count. -/
def otherShape : Document → JsonFault
  | absent fault => fault
  | cutString read _ => read
  | cutWord fault => fault
  | cutNumber fault => fault
  | string none => .malformed
  | number numeral => if isTooGreat numeral then .malformed else .mismatched
  | _ => .mismatched

/-- A document, with the text that follows it if more can be read. -/
abbrev Reading := Document × Option Text

/-- The text after spaces, tabs and line ends. -/
def skipBlanks (text : Text) : Text :=
  text.dropWhile fun c => c == ' ' || c == '\t' || c == '\n' || c == '\r'

/-! ### Words -/

/-- Reads the rest of a word. -/
def readWord : (word : Text) → (value : Document) → Text → Reading
  | [], value, text => (value, some text)
  | _ :: _, _, [] => (cutWord .truncated, none)
  | w :: word, value, c :: text =>
    if w = c then readWord word value text else (cutWord .malformed, none)

/-! ### Strings -/

/-- The value of a hexadecimal digit. -/
def hexValue? (c : Char) : Option Nat :=
  if '0' ≤ c ∧ c ≤ '9' then some (c.toNat - '0'.toNat)
  else if 'a' ≤ c ∧ c ≤ 'f' then some (c.toNat - 'a'.toNat + 10)
  else if 'A' ≤ c ∧ c ≤ 'F' then some (c.toNat - 'A'.toNat + 10)
  else none

/-- The value of four hexadecimal digits. -/
def hexValue4? (a b c d : Char) : Option Nat := do
  let a ← hexValue? a
  let b ← hexValue? b
  let c ← hexValue? c
  let d ← hexValue? d
  return ((a * 16 + b) * 16 + c) * 16 + d

/-- The character that an escape of one letter stands for. -/
def unescape? : Char → Option Char
  | '"' => some '"'
  | '\\' => some '\\'
  | '/' => some '/'
  | 'b' => some '\x08'
  | 'f' => some '\x0c'
  | 'n' => some '\n'
  | 'r' => some '\r'
  | 't' => some '\t'
  | _ => none

/-- What follows the units of a string: the text after the closing quote, or what is wrong. -/
abbrev Ending := Except JsonFault Text

/-- Reads a string up to its closing quote, as code points and halves of surrogate pairs. -/
def readUnits : Text → List Nat × Ending
  | [] => ([], .error .truncated)
  | '"' :: rest => ([], .ok rest)
  | '\\' :: 'u' :: a :: b :: c :: d :: rest =>
    match hexValue4? a b c d with
    | none => ([], .error .malformed)
    | some unit =>
      let (units, ending) := readUnits rest
      (unit :: units, ending)
  | '\\' :: 'u' :: rest =>
    ([], .error (if Text.utf8Size rest < 4 then .truncated else .malformed))
  | '\\' :: c :: rest =>
    match unescape? c with
    | none => ([], .error .malformed)
    | some c =>
      let (units, ending) := readUnits rest
      (c.toNat :: units, ending)
  | c :: rest =>
    if c = '\\' then ([], .error .truncated)
    else if c.toNat < 0x20 then ([], .error .malformed)
    else
      let (units, ending) := readUnits rest
      (c.toNat :: units, ending)

/-- Whether a number is the first half of a surrogate pair. -/
def isHighSurrogate (unit : Nat) : Bool := 0xD800 ≤ unit && unit < 0xDC00

/-- Whether a number is the second half of a surrogate pair. -/
def isLowSurrogate (unit : Nat) : Bool := 0xDC00 ≤ unit && unit < 0xE000

/-- The text of code points and surrogate pairs with an ending, or the first fault. Halves of a pair
do not stand alone; a text that ends after the first half may still have gone on with the second
one. -/
def unitsText : List Nat → Ending → Except JsonFault Text
  | [], .ok _ => .ok []
  | [], .error fault => .error fault
  | [unit], ending =>
    if isLowSurrogate unit then .error .malformed
    else
      match ending with
      | .error fault => .error fault
      | .ok _ => if isHighSurrogate unit then .error .malformed else .ok [Char.ofNat unit]
  | unit :: next :: rest, ending =>
    if isHighSurrogate unit then
      if isLowSurrogate next then
        (unitsText rest ending).map
          (Char.ofNat (0x10000 + (unit - 0xD800) * 0x400 + (next - 0xDC00)) :: ·)
      else .error .malformed
    else if isLowSurrogate unit then .error .malformed
    else (unitsText (next :: rest) ending).map (Char.ofNat unit :: ·)

/-- The fault of a string that is cut off, for one who reads it. -/
def cutFault (units : List Nat) (fault : JsonFault) : JsonFault :=
  match unitsText units (.error fault) with
  | .error fault => fault
  | .ok _ => fault

/-- Reads a string after its opening quote. -/
def readString (text : Text) : Reading :=
  match readUnits text with
  | (units, .error fault) => (cutString (cutFault units fault) fault, none)
  | (units, .ok rest) => (string (unitsText units (.ok rest)).toOption, some rest)

/-! ### Numbers -/

/-- Reads at least one digit. -/
def readDigits (text : Text) : Except JsonFault (Text × Text) :=
  match text with
  | [] => .error .truncated
  | c :: _ =>
    if c.isDigit then .ok (text.takeWhile Char.isDigit, text.dropWhile Char.isDigit)
    else .error .malformed

/-- Reads a whole number; zeros in front are not allowed. -/
def readWhole (text : Text) : Except JsonFault (Text × Text) := do
  let (digits, rest) ← readDigits text
  if digits.head? = some '0' ∧ digits ≠ ['0'] then .error .malformed else return (digits, rest)

/-- Reads the fraction of a number, if there is one. -/
def readFraction : Text → Except JsonFault (Text × Text)
  | '.' :: rest => (readDigits rest).map fun (digits, rest) => ('.' :: digits, rest)
  | text => .ok ([], text)

/-- Reads the exponent of a number, if there is one. -/
def readExponent : Text → Except JsonFault (Text × Text)
  | [] => .ok ([], [])
  | c :: rest =>
    if c = 'e' ∨ c = 'E' then
      match rest with
      | [] => .error .truncated
      | sign :: more =>
        if sign = '+' ∨ sign = '-' then
          (readDigits more).map fun (digits, rest) => (c :: sign :: digits, rest)
        else (readDigits rest).map fun (digits, rest) => (c :: digits, rest)
    else .ok ([], c :: rest)

/-- Reads a number. -/
def readNumeral (text : Text) : Except JsonFault (Text × Text) := do
  let (sign, rest) := match text with
    | '-' :: rest => (['-'], rest)
    | _ => ([], text)
  let (whole, rest) ← readWhole rest
  let (fraction, rest) ← readFraction rest
  let (exponent, rest) ← readExponent rest
  return (sign ++ whole ++ fraction ++ exponent, rest)

/-- Reads a number that begins a value. -/
def readNumber (text : Text) : Reading :=
  match readNumeral text with
  | .error fault => (cutNumber fault, none)
  | .ok (numeral, rest) => (number numeral, some rest)

/-! ### Values -/

/-- How many collections may lie inside one another. -/
def mostLevels : Nat := 127

/-- A collection that lies inside others; `room` is how many more levels there may be. -/
def atLevel (room : Nat) (collection : Document) : Document :=
  if room = 0 then deep collection else collection

mutual

/-- Reads a value; `room` is how many levels of collections may begin. Every level of `fuel` is used
up by a character or by the begin of a sequence, so that twice the length of the text is enough. -/
def readValue : (fuel room : Nat) → Text → Reading
  | 0, _, _ => (absent .malformed, none)
  | fuel + 1, room, text =>
    match skipBlanks text with
    | [] => (absent .truncated, none)
    | 'n' :: rest => readWord ['u', 'l', 'l'] null rest
    | 't' :: rest => readWord ['r', 'u', 'e'] (bool true) rest
    | 'f' :: rest => readWord ['a', 'l', 's', 'e'] (bool false) rest
    | '"' :: rest => readString rest
    | '[' :: rest =>
      match skipBlanks rest with
      | [] => (atLevel room (array [] (some .truncated)), none)
      | ']' :: rest => (atLevel room (array [] none), some rest)
      | _ =>
        let (items, stop, rest) := readItems fuel (room - 1) rest
        (atLevel room (array items stop), rest)
    | '{' :: rest =>
      match skipBlanks rest with
      | [] => (atLevel room (object [] (some .truncated)), none)
      | '}' :: rest => (atLevel room (object [] none), some rest)
      | _ =>
        let (members, stop, rest) := readMembers fuel (room - 1) rest
        (atLevel room (object members stop), rest)
    | c :: rest =>
      if c = '-' ∨ c.isDigit then readNumber (c :: rest) else (absent .malformed, none)

/-- Reads items, separated by commas, up to the end of their array. There is an item after every
comma. -/
def readItems : (fuel room : Nat) → Text → List Document × Option JsonFault × Option Text
  | 0, _, _ => ([], some .malformed, none)
  | fuel + 1, room, text =>
    match readValue fuel room text with
    | (item, none) => ([item], some .malformed, none)
    | (item, some rest) =>
      match skipBlanks rest with
      | [] => ([item], some .truncated, none)
      | ']' :: rest => ([item], none, some rest)
      | ',' :: rest =>
        let (items, stop, rest) := readItems fuel room rest
        (item :: items, stop, rest)
      | _ => ([item], some .malformed, none)

/-- Reads members, separated by commas, up to the end of their object. There is a member after every
comma. -/
def readMembers :
    (fuel room : Nat) → Text → List (MemberName × Document) × Option JsonFault × Option Text
  | 0, _, _ => ([], some .malformed, none)
  | fuel + 1, room, text =>
    match skipBlanks text with
    | [] => ([(.cut .truncated .truncated, absent .truncated)], some .truncated, none)
    | '"' :: rest =>
      match readUnits rest with
      | (units, .error fault) =>
        ([(.cut (cutFault units fault) fault, absent fault)], some fault, none)
      | (units, .ok rest) =>
        let name := MemberName.text (unitsText units (.ok rest)).toOption
        match skipBlanks rest with
        | [] => ([(name, absent .truncated)], some .truncated, none)
        | ':' :: rest =>
          match readValue fuel room rest with
          | (value, none) => ([(name, value)], some .malformed, none)
          | (value, some rest) =>
            match skipBlanks rest with
            | [] => ([(name, value)], some .truncated, none)
            | '}' :: rest => ([(name, value)], none, some rest)
            | ',' :: rest =>
              let (members, stop, rest) := readMembers fuel room rest
              ((name, value) :: members, stop, rest)
            | _ => ([(name, value)], some .malformed, none)
        | _ => ([(name, absent .malformed)], some .malformed, none)
    | text =>
      let (value, _) := readValue fuel room text
      ([(.other value.otherShape, absent .malformed)], some .malformed, none)

end

/-- Reads a text: its document, and whether nothing but blanks follows it. -/
def read (text : Text) : Document × Bool :=
  match readValue (2 * text.length + 2) mostLevels text with
  | (document, none) => (document, true)
  | (document, some rest) => (document, (skipBlanks rest).isEmpty)

/-! ### Faults in the order of the text -/

/-- The fault of a member's name. -/
def nameFault? (strict : Bool) : MemberName → Option JsonFault
  | .text (some _) => none
  | .text none => if strict then some .malformed else none
  | .cut read passed => some (if strict then read else passed)
  | .other _ => some .malformed

/-- The first fault of a document. A value that is only passed over (not `strict`) may have strings
that do not stand for characters, numbers that are too great and any number of levels. -/
def firstFault? (strict : Bool) : Document → Option JsonFault
  | null => none
  | bool _ => none
  | number numeral => if strict && isTooGreat numeral then some .malformed else none
  | string text => if strict && text.isNone then some .malformed else none
  | array items stop => firstItemFault? strict items <|> stop
  | object members stop => firstMemberFault? strict members <|> stop
  | deep collection => if strict then some .malformed else collection.firstFault? strict
  | absent fault => some fault
  | cutString read passed => some (if strict then read else passed)
  | cutWord fault => some fault
  | cutNumber fault => some (if strict then fault else .malformed)
where
  /-- The first fault of a sequence of items. -/
  firstItemFault? (strict : Bool) : List Document → Option JsonFault
    | [] => none
    | item :: items => item.firstFault? strict <|> firstItemFault? strict items
  /-- The first fault of a sequence of members. -/
  firstMemberFault? (strict : Bool) : List (MemberName × Document) → Option JsonFault
    | [] => none
    | (name, value) :: members =>
      nameFault? strict name <|> value.firstFault? strict <|> firstMemberFault? strict members

/-- Passes over a document; only faults of the text count. -/
def skip (strict : Bool) (d : Document) : Except JsonFault Unit :=
  match d.firstFault? strict with
  | some fault => .error fault
  | none => .ok ()

end Document
end Stepwise
