import Stepwise.Toml.Basic
import Stepwise.Number.Decimal
import Stepwise.Instant

/-!
# Strings, numbers and dates of TOML

Readers for what stands between the punctuation of a TOML document. Each takes a text and gives what
it read with the rest of the text, or nothing.
-/

namespace Stepwise.Toml

/-- A reader of one thing at the beginning of a text. -/
abbrev Reader (α : Type) := Text → Option (α × Text)

/-! ### Blanks and comments -/

/-- Whether a character may stand in a comment: no control character but the tab. -/
def isCommentChar (c : Char) : Bool := c == '\t' || (0x20 ≤ c.toNat && c.toNat != 0x7F)

/-- The text after spaces and tabs. -/
def skipSpaces (text : Text) : Text := text.dropWhile fun c => c == ' ' || c == '\t'

/-- The text after a comment, if there is one. -/
def skipComment : Text → Text
  | '#' :: rest => rest.dropWhile isCommentChar
  | text => text

/-- The text after the end of a line. -/
def skipNewline? : Text → Option Text
  | '\n' :: rest => some rest
  | '\r' :: '\n' :: rest => some rest
  | _ => none

/-- The text after spaces, a comment and the end of the line or of the text. -/
def skipLineEnd? (text : Text) : Option Text :=
  match skipComment (skipSpaces text) with
  | [] => some []
  | rest => skipNewline? rest

/-- The text after spaces, comments and line ends; `fuel` bounds the number of lines. -/
def skipLines : (fuel : Nat) → Text → Text
  | 0, text => text
  | fuel + 1, text =>
    let text := skipSpaces text
    match skipNewline? (skipComment text) with
    | some rest => skipLines fuel rest
    | none => text

/-! ### Strings -/

/-- The character of hexadecimal digits. -/
def charOfHex? (digits : Text) : Option Char := do
  let n ← digits.foldlM (fun n c => do
    let d ← if c.isDigit then some (c.toNat - '0'.toNat)
      else if 'a' ≤ c ∧ c ≤ 'f' then some (c.toNat - 'a'.toNat + 10)
      else if 'A' ≤ c ∧ c ≤ 'F' then some (c.toNat - 'A'.toNat + 10)
      else none
    return n * 16 + d) 0
  if n.isValidChar then some (Char.ofNat n) else none

/-- Reads an escape after its backslash. -/
def readEscape? : Reader Char
  | 'b' :: rest => some ('\x08', rest)
  | 't' :: rest => some ('\t', rest)
  | 'n' :: rest => some ('\n', rest)
  | 'f' :: rest => some ('\x0c', rest)
  | 'r' :: rest => some ('\r', rest)
  | '"' :: rest => some ('"', rest)
  | '\\' :: rest => some ('\\', rest)
  | 'u' :: rest =>
    if rest.length < 4 then none else (charOfHex? (rest.take 4)).map fun c => (c, rest.drop 4)
  | 'U' :: rest =>
    if rest.length < 8 then none else (charOfHex? (rest.take 8)).map fun c => (c, rest.drop 8)
  | _ => none

/-- Reads a string of one line up to its closing quote. Only strings in double quotes have
escapes. -/
def readLineString? (quote : Char) : (fuel : Nat) → Reader Text
  | 0, _ => none
  | _, [] => none
  | fuel + 1, c :: rest =>
    if c = quote then some ([], rest)
    else if c = '\\' ∧ quote = '"' then do
      let (c, rest) ← readEscape? rest
      let (text, rest) ← readLineString? quote fuel rest
      return (c :: text, rest)
    else if isCommentChar c then do
      let (text, rest) ← readLineString? quote fuel rest
      return (c :: text, rest)
    else none

/-- The text after spaces, tabs and line ends. -/
def skipBlankLines : Text → Text
  | ' ' :: rest => skipBlankLines rest
  | '\t' :: rest => skipBlankLines rest
  | '\n' :: rest => skipBlankLines rest
  | '\r' :: '\n' :: rest => skipBlankLines rest
  | text => text

/-- The text after a backslash at the end of a line: the blank lines and the spaces that follow are
left out. -/
def skipFolded? (text : Text) : Option Text := (skipNewline? (skipSpaces text)).map skipBlankLines

/-- Reads a string of several lines up to its three closing quotes. Up to two quotes may stand
before these. -/
def readBlockString? (quote : Char) : (fuel : Nat) → Reader Text
  | 0, _ => none
  | _, [] => none
  | fuel + 1, c :: rest =>
    if c = quote then
      let run := (c :: rest).takeWhile (· == quote)
      let after := (c :: rest).dropWhile (· == quote)
      if run.length < 3 then do
        let (text, rest) ← readBlockString? quote fuel after
        return (run ++ text, rest)
      else
        let inner := min 2 (run.length - 3)
        some (run.take inner, run.drop (inner + 3) ++ after)
    else if c = '\\' ∧ quote = '"' then
      match skipFolded? rest with
      | some rest => readBlockString? quote fuel rest
      | none => do
        let (c, rest) ← readEscape? rest
        let (text, rest) ← readBlockString? quote fuel rest
        return (c :: text, rest)
    else
      match skipNewline? (c :: rest) with
      | some rest => do
        let (text, rest) ← readBlockString? quote fuel rest
        return ('\n' :: text, rest)
      | none =>
        if isCommentChar c then do
          let (text, rest) ← readBlockString? quote fuel rest
          return (c :: text, rest)
        else none

/-- Reads a string. -/
def readString? (text : Text) : Option (Text × Text) :=
  match text with
  | a :: rest =>
    if a = '"' ∨ a = '\'' then
      match rest with
      | b :: c :: more =>
        if b = a ∧ c = a then readBlockString? a text.length ((skipNewline? more).getD more)
        else readLineString? a text.length rest
      | _ => readLineString? a text.length rest
    else none
  | [] => none

/-! ### Keys -/

/-- Whether a character may stand in a key without quotes. -/
def isKeyChar (c : Char) : Bool := c.isAlphanum || c == '_' || c == '-'

/-- Reads a key without dots. -/
def readSimpleKey? : Reader Text
  | '"' :: rest => readLineString? '"' rest.length.succ rest
  | '\'' :: rest => readLineString? '\'' rest.length.succ rest
  | text =>
    let key := text.takeWhile isKeyChar
    if key.isEmpty then none else some (key, text.dropWhile isKeyChar)

/-- How many keys a dotted key may have, and how many arrays and inline tables may lie inside one
another. -/
def mostLevels : Nat := 79

/-- Reads a dotted key of at most `room` keys, with the spaces around it. -/
def readKeys? : (room : Nat) → Reader (List Text)
  | 0, _ => none
  | room + 1, text => do
    let (key, rest) ← readSimpleKey? (skipSpaces text)
    match skipSpaces rest with
    | '.' :: rest => do
      let (keys, rest) ← readKeys? room rest
      return (key :: keys, rest)
    | rest => return ([key], rest)

/-- Reads a dotted key, with the spaces around it. -/
def readKey? : Reader (List Text) := readKeys? mostLevels

/-! ### Numbers -/

/-- Reads digits of a class, with single underscores between them; the underscores are left out. -/
def readDigits? (isDigit : Char → Bool) : Reader Text
  | [] => none
  | c :: rest => if isDigit c then some (more c rest) else none
where
  /-- The digits after one that was read. -/
  more (digit : Char) : Text → Text × Text
    | '_' :: c :: rest =>
      if isDigit c then
        let (digits, rest) := more c rest
        (digit :: digits, rest)
      else ([digit], '_' :: c :: rest)
    | c :: rest =>
      if isDigit c then
        let (digits, rest) := more c rest
        (digit :: digits, rest)
      else ([digit], c :: rest)
    | [] => ([digit], [])

/-- Reads a sign, if there is one. -/
def readSign : Text → Text × Text
  | '+' :: rest => (['+'], rest)
  | '-' :: rest => (['-'], rest)
  | text => ([], text)

/-- Reads a decimal whole number without leading zeros. -/
def readWhole? (text : Text) : Option (Text × Text) :=
  match text with
  | '0' :: rest => some (['0'], rest)
  | _ => readDigits? Char.isDigit text

/-- The value of digits in a base. -/
def valueInBase (base : Nat) (digits : Text) : Nat :=
  digits.foldl (fun n c =>
    n * base +
      (if c.isDigit then c.toNat - '0'.toNat else c.toLower.toNat - 'a'.toNat + 10)) 0

/-- Whether a character is a hexadecimal digit. -/
def isHexDigit (c : Char) : Bool := c.isDigit || ('a' ≤ c.toLower && c.toLower ≤ 'f')

/-- A signed number of 64 bits. -/
def toInteger? (n : Int) : Option Toml :=
  if -(Nat.pow 2 63 : Int) ≤ n ∧ n < Nat.pow 2 63 then some (integer n) else none

/-- Reads the digits of an integer in a base, after its mark. -/
def readInBase? (base : Nat) (isDigit : Char → Bool) (text : Text) : Option (Toml × Text) := do
  let (digits, rest) ← readDigits? isDigit text
  let n ← toInteger? (valueInBase base digits)
  return (n, rest)

/-- Reads an integer. -/
def readInteger? : Reader Toml
  | '0' :: 'x' :: rest => readInBase? 16 isHexDigit rest
  | '0' :: 'o' :: rest => readInBase? 8 (fun c => '0' ≤ c && c ≤ '7') rest
  | '0' :: 'b' :: rest => readInBase? 2 (fun c => c == '0' || c == '1') rest
  | text => do
    let (sign, rest) := readSign text
    let (digits, rest) ← readWhole? rest
    let n := (Text.digitsValue digits : Int)
    let n ← toInteger? (if sign = ['-'] then -n else n)
    return (n, rest)

/-- Reads the exponent of a float. -/
def readExponent? : Reader Text
  | c :: rest =>
    if c = 'e' ∨ c = 'E' then do
      let (sign, rest) := readSign rest
      let (digits, rest) ← readDigits? Char.isDigit rest
      return ('e' :: sign ++ digits, rest)
    else none
  | [] => none

/-- Reads what makes a number a float: a fraction, an exponent, or both. -/
def readFloatSuffix? : Reader Text
  | '.' :: rest => do
    let (digits, rest) ← readDigits? Char.isDigit rest
    match rest with
    | c :: _ =>
      if c = 'e' ∨ c = 'E' then do
        let (exponent, rest) ← readExponent? rest
        return ('.' :: digits ++ exponent, rest)
      else return ('.' :: digits, rest)
    | [] => return ('.' :: digits, rest)
  | text => readExponent? text

/-- Reads a float; those above all finite numbers are refused. -/
def readFloat? (text : Text) : Option (Toml × Text) :=
  let (sign, rest) := readSign text
  match rest with
  | 'i' :: 'n' :: 'f' :: rest => some (float (sign ++ ['i', 'n', 'f']), rest)
  | 'n' :: 'a' :: 'n' :: rest => some (float (sign ++ ['n', 'a', 'n']), rest)
  | _ => do
    let (whole, rest) ← readWhole? rest
    let (suffix, rest) ← readFloatSuffix? rest
    let numeral := sign ++ whole ++ suffix
    if Number.ofNumeral? numeral = some (.infinity false) then none
    else return (float numeral, rest)

/-! ### Dates and times -/

/-- Reads exactly `count` digits. -/
def readFixed? (count : Nat) (text : Text) : Option (Nat × Text) :=
  let digits := text.take count
  if digits.length = count ∧ digits.all Char.isDigit then
    some (Text.digitsValue digits, text.drop count)
  else none

/-- Reads a date. -/
def readDate? (text : Text) : Option (Date × Text) := do
  let (year, rest) ← readFixed? 4 text
  let rest ← Text.stripStart? ['-'] rest
  let (month, rest) ← readFixed? 2 rest
  let rest ← Text.stripStart? ['-'] rest
  let (day, rest) ← readFixed? 2 rest
  let date : Date := ⟨year, month, day⟩
  if date.isValid then return (date, rest) else none

/-- Reads a time of day. -/
def readTime? (text : Text) : Option (TimeOfDay × Text) := do
  let (hour, rest) ← readFixed? 2 text
  let rest ← Text.stripStart? [':'] rest
  let (minute, rest) ← readFixed? 2 rest
  let rest ← Text.stripStart? [':'] rest
  let (second, rest) ← readFixed? 2 rest
  let time : TimeOfDay := ⟨hour, minute, second, 0⟩
  if !time.isValid then none
  else match rest with
    | '.' :: more =>
      let digits := more.takeWhile Char.isDigit
      if digits.isEmpty then none else return (time, more.dropWhile Char.isDigit)
    | _ => return (time, rest)

/-- The text after a distance from UTC, if there is one. -/
def skipOffset? : Text → Option Text
  | 'Z' :: rest => some rest
  | 'z' :: rest => some rest
  | c :: rest =>
    if c = '+' ∨ c = '-' then do
      let (hours, rest) ← readFixed? 2 rest
      let rest ← Text.stripStart? [':'] rest
      let (minutes, rest) ← readFixed? 2 rest
      if hours < 24 ∧ minutes < 60 then some rest else none
    else none
  | [] => none

/-- The text after the time of day that follows a date, if there is one. -/
def skipTime? : Text → Option Text
  | c :: rest =>
    if c = 'T' ∨ c = 't' ∨ c = ' ' then do
      let (_, rest) ← readTime? rest
      return (skipOffset? rest).getD rest
    else none
  | [] => none

/-- Reads a date, a time of day, or both. -/
def readDateTime? (text : Text) : Option (Toml × Text) :=
  let rest := match readDate? text with
    | some (_, rest) => some ((skipTime? rest).getD rest)
    | none => (readTime? text).map Prod.snd
  rest.map fun rest => (dateTime (text.take (text.length - rest.length)), rest)

end Stepwise.Toml
