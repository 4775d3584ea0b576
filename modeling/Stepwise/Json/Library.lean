import Stepwise.Instant
import Stepwise.Json.Basic

/-!
# Libraries for JSON

What is written as JSON is written and read with a library. A `Library` writes documents, numbers
and instants as text, and it reads a text and hands its values on to decoders. It also has the
decoders for the shapes in which things are written:

- texts, truth values, natural numbers, instants, lists and values that may be missing,
- variants that are known by their names (`VariantFormat`),
- variants whose name and content are members of an object (`TaggedFormat`),
- records with known members (`RecordFormat`).

What a program writes is described by formats, which any library can be given.
-/

namespace Stepwise

/-- What can be wrong with a JSON text. -/
inductive JsonFault where
  /-- The text is not JSON. -/
  | malformed
  /-- The text ends too early. -/
  | truncated
  /-- The text is JSON and says something else than what was expected. -/
  | mismatched
deriving DecidableEq, Repr

/-- A way to decode values, which are nodes of a text. -/
abbrev Decoder (N α : Type) := N → Except JsonFault α

/-! ### Formats -/

/-- Variants that are known by their names. -/
structure VariantFormat (N ν α : Type) where
  /-- The variant of a name. -/
  find? : Text → Option ν
  /-- The value of a variant without content. -/
  bare : ν → Except JsonFault α
  /-- Decodes the content of a variant. -/
  content : ν → Decoder N α

/-- Variants that are given by an object with two members, one of which tells what the other is. -/
structure TaggedFormat (N ν α : Type) extends VariantFormat N ν α where
  /-- The name of the member that holds the name of the variant. -/
  tagName : Text
  /-- The name of the member that holds the content. -/
  contentName : Text

/-- When a member of a record may be missing. -/
inductive Presence where
  /-- Never. -/
  | required
  /-- In an object. -/
  | optional
  /-- In an object, and at the end of a list. -/
  | defaulted
deriving DecidableEq, Repr

/-- A member of a record. -/
structure Member (N α : Type) where
  name : Text
  /-- Decodes the member and puts it into a record. -/
  read : α → Decoder N α
  presence : Presence

/-- The members of a record in order, and a record with a value for every member that may be
missing. -/
structure RecordFormat (N α : Type) where
  start : α
  members : List (Member N α)

/-! ### Libraries -/

/-- What is needed to write and read JSON. -/
structure Library where
  /-- A value in a text, as the reader hands it to decoders. -/
  Node : Type
  /-- The text of a document. -/
  print : Json → Text
  /-- Reads a text and decodes it. -/
  readText {α : Type} (decode : Decoder Node α) (text : Text) : Except JsonFault α
  /-- The numeral of a finite number. -/
  numeral : Number → Text
  /-- The text of an instant. -/
  timestamp : Instant → Text
  /-- Decodes a string. -/
  text : Decoder Node Text
  /-- Decodes a truth value. -/
  bool : Decoder Node Bool
  /-- Decodes a natural number that fits into a machine word. -/
  nat : Decoder Node Nat
  /-- Decodes `null`. -/
  unit : Decoder Node Unit
  /-- Decodes a string with an instant. -/
  instant : Decoder Node Instant
  /-- Decodes a number, or a string in its place. -/
  numberOrText : Decoder Node (Number ⊕ Text)
  /-- Decodes a list of items. -/
  list {α : Type} (item : Decoder Node α) : Decoder Node (List α)
  /-- Decodes `null`, or a value. -/
  option {α : Type} (value : Decoder Node α) : Decoder Node (Option α)
  /-- Decodes a variant, given by its name, or by an object with the content under its name. -/
  variant {ν α : Type} (f : VariantFormat Node ν α) : Decoder Node α
  /-- Decodes a variant whose name and content are members of an object. -/
  tagged {ν α : Type} (f : TaggedFormat Node ν α) : Decoder Node α
  /-- Decodes a record. -/
  record {α : Type} (f : RecordFormat Node α) : Decoder Node α
  /-- Decodes a record that is the content of a tagged variant. -/
  contentRecord {α : Type} (f : RecordFormat Node α) : Decoder Node α

namespace Library

/-- Decodes a variant that has no content. -/
def named {ν : Type} (lib : Library) (find? : Text → Option ν) : Decoder lib.Node ν :=
  lib.variant ⟨find?, .ok, fun v d => (lib.unit d).map fun _ => v⟩

end Library
end Stepwise
