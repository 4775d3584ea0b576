import Stepwise.Json.Document
import Stepwise.Number.Numeral

/-!
# Decoding documents

The library that the program uses. Its decoders look at a `Node`, which is a document in its place,
and turn it into a value or tell the first fault in the order of the text.

- A record is an object with known members, which may also be given as a list of their values in
  order.
- A tagged variant is an object with two members in either order, or a list of the two.
- A numeral stands for the number nearest to it.

A variant that is neither a string nor an object, an object with more members than the one of a
variant, and a list with more values than a record has members are faults of the text where they are
met in the text itself, and mismatches where the value was set aside until its tag was known.
-/

namespace Stepwise

/-- A value in a text. -/
structure Node where
  document : Document
  /-- Whether the value was set aside until its tag was known. -/
  isSetAside : Bool

namespace Node

/-- A value inside another one. -/
def inside (d : Node) (document : Document) : Node := ⟨document, d.isSetAside⟩

/-- The fault of a value with more than was looked for. -/
def surplus (d : Node) : JsonFault := if d.isSetAside then .mismatched else .malformed

/-! ### Simple shapes -/

/-- Decodes a string. -/
def text (d : Node) : Except JsonFault Text :=
  match d.document with
  | .string (some text) => .ok text
  | other => .error other.otherShape

/-- Decodes a truth value. -/
def bool (d : Node) : Except JsonFault Bool :=
  match d.document with
  | .bool b => .ok b
  | other => .error other.otherShape

/-- Decodes a natural number below `2 ^ 64`. -/
def nat (d : Node) : Except JsonFault Nat :=
  match d.document with
  | .number numeral =>
    if numeral.isDigits ∧ numeral.digitsValue < Nat.pow 2 64 then .ok numeral.digitsValue
    else .error (Document.otherShape (.number numeral))
  | other => .error other.otherShape

/-- Decodes `null`. -/
def unit (d : Node) : Except JsonFault Unit :=
  match d.document with
  | .null => .ok ()
  | other => .error other.otherShape

/-- Decodes an instant. -/
def instant (d : Node) : Except JsonFault Instant := do
  match Instant.read? (← d.text) with
  | some i => return i
  | none => .error .mismatched

/-- Decodes a number, or a string in its place. The whole value is read before its shape counts. -/
def numberOrText (d : Node) : Except JsonFault (Number ⊕ Text) := do
  d.document.skip true
  match d.document with
  | .number numeral =>
    match Number.ofNumeral? numeral with
    | some n => return .inl n
    | none => .error .malformed
  | .string (some text) => return .inr text
  | _ => .error .mismatched

/-- Decodes a list of items. -/
def list {α : Type} (item : Decoder Node α) (d : Node) : Except JsonFault (List α) :=
  match d.document with
  | .array items stop => do
    let values ← items.mapM fun document => item (d.inside document)
    match stop with
    | some fault => .error fault
    | none => return values
  | other => .error other.otherShape

/-- Decodes `null`, or a value. -/
def option {α : Type} (value : Decoder Node α) (d : Node) : Except JsonFault (Option α) :=
  match d.document with
  | .null => .ok none
  | _ => (value d).map some

end Node

/-! ### Variants -/

namespace VariantFormat

variable {ν α : Type}

/-- Decodes the name of a variant. -/
def readName (f : VariantFormat Node ν α) (d : Node) : Except JsonFault ν := do
  match f.find? (← d.text) with
  | some v => return v
  | none => .error .mismatched

/-- Decodes the name of a variant's only member. -/
def readMemberName (f : VariantFormat Node ν α) (d : Node) : MemberName → Except JsonFault ν
  | .text name => f.readName (d.inside (.string name))
  | .cut read _ => .error read
  | .other fault => .error fault

/-- Decodes a variant. -/
def decode (f : VariantFormat Node ν α) (d : Node) : Except JsonFault α :=
  match d.document with
  | .object ((name, value) :: others) stop => do
    let v ← f.readMemberName d name
    let result ← f.content v (d.inside value)
    match others, stop with
    | [], none => return result
    | [], some fault => .error fault
    | _ :: _, _ => .error d.surplus
  | .object [] stop => .error (stop.getD d.surplus)
  | .string _ => f.readName d >>= f.bare
  | .cutString read _ => .error read
  | .absent fault => .error fault
  | _ => .error d.surplus

end VariantFormat

/-! ### Records -/

/-- The name of a member of a record. -/
def MemberName.decode : MemberName → Except JsonFault Text
  | .text (some name) => .ok name
  | .text none => .error .malformed
  | .cut read _ => .error read
  | .other _ => .error .malformed

namespace RecordFormat

variable {α : Type}

/-- The member of a name. -/
def member? (f : RecordFormat Node α) (name : Text) : Option (Member Node α) :=
  f.members.find? fun m => m.name == name

/-- Decodes the members of an object in the order of the text. `seen` are the names that had a value
before; no name may have two. Unknown names are passed over. -/
def readMembers (f : RecordFormat Node α) (d : Node) (record : α) (seen : List Text) :
    List (MemberName × Document) → Except JsonFault (α × List Text)
  | [] => .ok (record, seen)
  | (name, value) :: rest =>
    match name.decode with
    | .error fault => .error fault
    | .ok name =>
      match f.member? name with
      | none =>
        match value.skip false with
        | .error fault => .error fault
        | .ok () => f.readMembers d record seen rest
      | some m =>
        if seen.contains name then .error .mismatched
        else
          match m.read record (d.inside value) with
          | .error fault => .error fault
          | .ok record => f.readMembers d record (name :: seen) rest

/-- Decodes the values of a list in the order of the members; gives back the members and the values
that are left over. -/
def readItems (d : Node) (record : α) : List (Member Node α) → List Document →
    Except JsonFault (α × List (Member Node α) × List Document)
  | [], items => .ok (record, [], items)
  | members, [] => .ok (record, members, [])
  | m :: members, item :: items =>
    match m.read record (d.inside item) with
    | .error fault => .error fault
    | .ok record => readItems d record members items

/-- Decodes an object. -/
def decodeObject (f : RecordFormat Node α) (d : Node) (members : List (MemberName × Document))
    (stop : Option JsonFault) : Except JsonFault α := do
  let (record, seen) ← f.readMembers d f.start [] members
  match stop with
  | some fault => .error fault
  | none =>
    if f.members.all fun m => m.presence != .required || seen.contains m.name then return record
    else .error .mismatched

/-- Decodes a list of the members' values. -/
def decodeList (f : RecordFormat Node α) (d : Node) (items : List Document)
    (stop : Option JsonFault) : Except JsonFault α := do
  let (record, members, items) ← readItems d f.start f.members items
  match items, stop with
  | _ :: _, _ => .error d.surplus
  | [], some fault => .error fault
  | [], none =>
    if members.all fun m => m.presence == .defaulted then return record else .error .mismatched

/-- Decodes a record. -/
def decode (f : RecordFormat Node α) (d : Node) : Except JsonFault α :=
  match d.document with
  | .object members stop => f.decodeObject d members stop
  | .array items stop => f.decodeList d items stop
  | other => .error other.otherShape

/-- Decodes a record that is given as an object. -/
def decodeOnlyObject (f : RecordFormat Node α) (d : Node) : Except JsonFault α :=
  match d.document with
  | .object members stop => f.decodeObject d members stop
  | other => .error other.otherShape

end RecordFormat

/-! ### Tagged variants -/

namespace TaggedFormat

variable {ν α : Type}

/-- What is known of a tagged variant after some of its members. -/
inductive Progress (ν α : Type) where
  | nothing
  | tag (v : ν)
  /-- The content came first and was set aside. -/
  | content (document : Document)
  | value (a : α)

/-- Decodes the tag of an object. -/
def readTag (f : TaggedFormat Node ν α) : Decoder Node ν :=
  VariantFormat.decode ⟨f.find?, .ok, fun v d => d.unit.map fun _ => v⟩

/-- Decodes the member that holds the tag. -/
def stepTag (f : TaggedFormat Node ν α) (value : Node) :
    Progress ν α → Except JsonFault (Progress ν α)
  | .nothing => (f.readTag value).map .tag
  | .content document => do
    let v ← f.readTag value
    return .value (← f.content v ⟨document, true⟩)
  | _ => .error .mismatched

/-- Decodes the member that holds the content, or sets it aside until the tag is known. -/
def stepContent (f : TaggedFormat Node ν α) (value : Node) :
    Progress ν α → Except JsonFault (Progress ν α)
  | .nothing => (value.document.skip true).map fun () => .content value.document
  | .tag v => (f.content v value).map .value
  | _ => .error .mismatched

/-- Decodes the members of a tagged variant in the order of the text. Unknown names are passed
over. -/
def readMembers (f : TaggedFormat Node ν α) (d : Node) (progress : Progress ν α) :
    List (MemberName × Document) → Except JsonFault (Progress ν α)
  | [] => .ok progress
  | (name, value) :: rest =>
    match name.decode with
    | .error fault => .error fault
    | .ok name =>
      let next : Except JsonFault (Progress ν α) :=
        if name = f.tagName then f.stepTag (d.inside value) progress
        else if name = f.contentName then f.stepContent (d.inside value) progress
        else (value.skip false).map fun () => progress
      match next with
      | .error fault => .error fault
      | .ok progress => f.readMembers d progress rest

/-- The value, when all members are known. -/
def finish (f : TaggedFormat Node ν α) : Progress ν α → Except JsonFault α
  | .value a => .ok a
  | .tag v => f.bare v
  | _ => .error .mismatched

/-- Decodes a tagged variant. In a list the tag is the name itself. -/
def decode (f : TaggedFormat Node ν α) (d : Node) : Except JsonFault α :=
  match d.document with
  | .object members stop => do
    let progress ← f.readMembers d .nothing members
    match stop with
    | some fault => .error fault
    | none => f.finish progress
  | .array items stop =>
    match items with
    | [] => .error (stop.getD .mismatched)
    | tag :: items => do
      let v ← f.readName (d.inside tag)
      match items with
      | [] => .error (stop.getD .mismatched)
      | content :: items => do
        let a ← f.content v (d.inside content)
        match items, stop with
        | [], none => return a
        | [], some fault => .error fault
        | _ :: _, _ => .error .malformed
  | other => .error other.otherShape

end TaggedFormat

/-! ### Texts -/

/-- Reads a text and decodes it. What follows the document is looked at last. -/
def Node.readText {α : Type} (decode : Decoder Node α) (text : Text) : Except JsonFault α := do
  let (document, isWhole) := Document.read text
  let value ← decode ⟨document, false⟩
  if isWhole then return value else .error .malformed

/-- The library that the program uses. -/
def Library.standard : Library where
  Node := Stepwise.Node
  print := Json.pretty
  readText := Node.readText
  numeral := Number.archived
  timestamp := Instant.write
  text := Node.text
  bool := Node.bool
  nat := Node.nat
  unit := Node.unit
  instant := Node.instant
  numberOrText := Node.numberOrText
  list := Node.list
  option := Node.option
  variant := VariantFormat.decode
  tagged := TaggedFormat.decode
  record := RecordFormat.decode
  contentRecord := RecordFormat.decodeOnlyObject

end Stepwise
