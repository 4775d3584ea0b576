import Stepwise.Toml.Scalar

/-!
# Reading TOML documents

A document is read line by line: a key with its value, a header, a comment or nothing. What is read
is added to the table of the document at once, so that a document that defines something twice is
refused.
-/

namespace Stepwise.Toml

/-! ### Values -/

mutual

/-- Reads a value; `fuel` bounds the number of values inside it, and `room` how many arrays and
inline tables lie inside one another. -/
def readValue? : (fuel room : Nat) → Reader Toml
  | 0, _, _ => none
  | _, _, [] => none
  | fuel + 1, room, c :: rest =>
    if c = '"' ∨ c = '\'' then
      (readString? (c :: rest)).map fun (text, rest) => (string text, rest)
    else if c = '[' then
      if room = 0 then none
      else (readItems? fuel (room - 1) rest).map fun (items, rest) => (array items, rest)
    else if c = '{' then
      if room = 0 then none
      else
        match skipSpaces rest with
        | '}' :: rest => some (inlineTable [], rest)
        | rest =>
          (readEntries? fuel (room - 1) [] rest).map fun (entries, rest) =>
            (inlineTable entries, rest)
    else if c.isDigit ∨ c = '+' ∨ c = '-' ∨ c = 'i' ∨ c = 'n' then
      readDateTime? (c :: rest) <|> readFloat? (c :: rest) <|> readInteger? (c :: rest)
    else if c = 't' then
      (Text.stripStart? ['r', 'u', 'e'] rest).map fun rest => (boolean true, rest)
    else if c = 'f' then
      (Text.stripStart? ['a', 'l', 's', 'e'] rest).map fun rest => (boolean false, rest)
    else none

/-- Reads the items of an array up to its end; a comma may stand after the last one. -/
def readItems? : (fuel room : Nat) → Reader (List Toml)
  | 0, _, _ => none
  | fuel + 1, room, text =>
    match skipLines text.length.succ text with
    | ']' :: rest => some ([], rest)
    | text => do
      let (item, rest) ← readValue? fuel room text
      match skipLines rest.length.succ rest with
      | ']' :: rest => return ([item], rest)
      | ',' :: rest => do
        let (items, rest) ← readItems? fuel room rest
        return (item :: items, rest)
      | _ => none

/-- Reads the entries of an inline table up to its end. -/
def readEntries? : (fuel room : Nat) → Entries → Reader Entries
  | 0, _, _, _ => none
  | fuel + 1, room, entries, text => do
    let (path, rest) ← readKey? text
    let rest ← Text.stripStart? ['='] rest
    let (value, rest) ← readValue? fuel room (skipSpaces rest)
    let key ← path.getLast?
    let entries ← entries.insert? path.dropLast key value
    match skipSpaces rest with
    | '}' :: rest => return (entries, rest)
    | ',' :: rest => readEntries? fuel room entries rest
    | _ => none

end

/-! ### Documents -/

/-- A document that is being read: its table, and the header of the section. -/
structure Progress where
  entries : Entries
  header : List Text

/-- Reads a header after its brackets. -/
def readHeader? (close : Text) (openAt : Entries → List Text → Text → Option Entries)
    (p : Progress) (text : Text) : Option (Progress × Text) := do
  let (path, rest) ← readKey? text
  let rest ← Text.stripStart? close rest
  let rest ← skipLineEnd? rest
  let key ← path.getLast?
  let entries ← openAt p.entries path.dropLast key
  return (⟨entries, path⟩, rest)

/-- Reads a key with its value. -/
def readEntry? (p : Progress) (text : Text) : Option (Progress × Text) := do
  let (path, rest) ← readKey? text
  let rest ← Text.stripStart? ['='] rest
  let (value, rest) ← readValue? (2 * rest.length + 2) mostLevels (skipSpaces rest)
  let rest ← skipLineEnd? rest
  let key ← path.getLast?
  let entries ← p.entries.insertUnder? p.header path.dropLast key value
  return ({ p with entries }, rest)

/-- Reads one line, or one entry of several lines. -/
def readLine? (p : Progress) (text : Text) : Option (Progress × Text) :=
  match skipSpaces text with
  | '[' :: '[' :: rest => readHeader? [']', ']'] Entries.openItem? p rest
  | '[' :: rest => readHeader? [']'] Entries.openTable? p rest
  | c :: rest =>
    if c = '#' ∨ c = '\n' ∨ c = '\r' then (skipLineEnd? (c :: rest)).map fun rest => (p, rest)
    else readEntry? p (c :: rest)
  | [] => some (p, [])

/-- Reads all lines; `fuel` bounds their number. -/
def readLines? : (fuel : Nat) → Progress → Text → Option Entries
  | _, p, [] => some p.entries
  | 0, _, _ => none
  | fuel + 1, p, text => do
    let (p, rest) ← readLine? p text
    readLines? fuel p rest

/-- Reads a document. A byte order mark in front of it does not count. -/
def read? (text : Text) : Option Entries :=
  let text := match text with
    | '\uFEFF' :: rest => rest
    | _ => text
  readLines? text.length.succ ⟨[], []⟩ text

end Stepwise.Toml
