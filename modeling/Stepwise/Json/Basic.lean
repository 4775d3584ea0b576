import Stepwise.Text.Basic

/-!
# JSON documents and how they are written

A document is written either on one line or with one item a line, indented by two spaces for each
level. Numbers are kept as their numerals. In strings only quotes, backslashes and control
characters are escaped.
-/

namespace Stepwise

/-- A JSON document. -/
inductive Json where
  | null
  | bool (b : Bool)
  | number (numeral : Text)
  | string (text : Text)
  | array (items : List Json)
  | object (members : List (Text × Json))

namespace Json

/-- The document of a natural number. -/
def ofNat (n : Nat) : Json := .number (Text.ofNat n)

/-- A list of documents. -/
def ofList {α : Type} (toJson : α → Json) (values : List α) : Json := .array (values.map toJson)

/-- `null`, or the document of a value. -/
def ofOption {α : Type} (toJson : α → Json) : Option α → Json
  | none => .null
  | some a => toJson a

/-! ### Strings -/

/-- A hexadecimal digit of a number below sixteen. -/
def hexDigit (n : Nat) : Char := Nat.digitChar n

/-- A character as it is written inside a string. -/
def escape (c : Char) : Text :=
  if c = '"' then ['\\', '"']
  else if c = '\\' then ['\\', '\\']
  else if c = '\x08' then ['\\', 'b']
  else if c = '\x0c' then ['\\', 'f']
  else if c = '\n' then ['\\', 'n']
  else if c = '\r' then ['\\', 'r']
  else if c = '\t' then ['\\', 't']
  else if c.toNat < 0x20 then
    ['\\', 'u', '0', '0', hexDigit (c.toNat / 16), hexDigit (c.toNat % 16)]
  else [c]

/-- A text as a string in quotes. -/
def quote (text : Text) : Text := '"' :: text.flatMap escape ++ ['"']

/-! ### Documents -/

/-- How items are separated. -/
inductive Layout where
  /-- Everything on one line, without blanks. -/
  | compact
  /-- One item a line, indented by two spaces for each level. -/
  | indented
deriving DecidableEq, Repr

namespace Layout

/-- What stands before an item at a level, and before the end of a collection. -/
def lineStart (layout : Layout) (level : Nat) : Text :=
  match layout with
  | compact => []
  | indented => '\n' :: List.replicate (2 * level) ' '

/-- What stands between a key and its value. -/
def colon : Layout → Text
  | compact => [':']
  | indented => [':', ' ']

end Layout

/-- The text of a document that stands at a level. -/
def write (layout : Layout) (level : Nat) : Json → Text
  | null => "null"
  | bool b => if b then "true" else "false"
  | number numeral => numeral
  | string text => quote text
  | array [] => "[]"
  | array (item :: items) =>
    '[' :: layout.lineStart (level + 1) ++ item.write layout (level + 1)
      ++ writeItems layout (level + 1) items ++ layout.lineStart level ++ [']']
  | object [] => "\x7b\x7d"
  | object ((key, value) :: members) =>
    '{' :: layout.lineStart (level + 1) ++ quote key ++ layout.colon
      ++ value.write layout (level + 1) ++ writeMembers layout (level + 1) members
      ++ layout.lineStart level ++ ['}']
where
  /-- The items after the first one. -/
  writeItems (layout : Layout) (level : Nat) : List Json → Text
    | [] => []
    | item :: items =>
      ',' :: layout.lineStart level ++ item.write layout level ++ writeItems layout level items
  /-- The members after the first one. -/
  writeMembers (layout : Layout) (level : Nat) : List (Text × Json) → Text
    | [] => []
    | (key, value) :: members =>
      ',' :: layout.lineStart level ++ quote key ++ layout.colon ++ value.write layout level
        ++ writeMembers layout level members

/-- The text of a document on one line. -/
def compact (j : Json) : Text := j.write .compact 0

/-- The text of a document with one item a line. -/
def pretty (j : Json) : Text := j.write .indented 0

end Json
end Stepwise
