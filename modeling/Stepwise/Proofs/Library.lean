import Mathlib.Data.List.Forall2
import Stepwise.Json.Library
import Stepwise.Proofs.Execution
import Stepwise.Proofs.Numeral

/-!
# What is expected of a library for JSON

Two properties of a `Library`:

- `ReadsBack`: documents, numbers and instants are read back from what the library wrote for them,
  and a decoder undoes the shape that it is meant for,
- `Sound`: a decoder for a shape gives what can be put together from its parts, whatever the text.

From them follow two properties of decoders, with one lemma for every shape:

- `Conveys shows decode room j a`: the document `j` fits into `room` levels and is decoded as `a`.
  For records this is put together member by member (`Fills`),
- `Yields decode P`: whatever is decoded, from whatever text, has the property `P`. For records it
  is an invariant of the members read so far (`KeptBy`).
-/

namespace Stepwise

/-- A document whose numbers are numerals, with at most `room` collections inside one another. -/
inductive Json.Fits : Nat → Json → Prop
  | null {room : Nat} : Fits room null
  | bool {room : Nat} (b : Bool) : Fits room (bool b)
  | number {room : Nat} {numeral : Text} (h : numeral.IsNumeral) : Fits room (number numeral)
  | string {room : Nat} (text : Text) : Fits room (string text)
  | array {room : Nat} {items : List Json} (h : ∀ item ∈ items, Fits room item) :
    Fits (room + 1) (array items)
  | object {room : Nat} {members : List (Text × Json)} (h : ∀ m ∈ members, Fits room m.2) :
    Fits (room + 1) (object members)

variable {N α β ν : Type} {shows : N → Json → Prop} {room : Nat}

/-! ### Expectations -/

/-- Every node that shows the document is decoded as the value. -/
def Decodes (shows : N → Json → Prop) (decode : Decoder N α) (j : Json) (a : α) : Prop :=
  ∀ d, shows d j → decode d = .ok a

/-- Members of a record, given one after the other, lead from one record to another. -/
inductive Fills (shows : N → Json → Prop) (room : Nat) :
    List (Member N α) → List (Text × Json) → α → α → Prop
  | nil {a : α} : Fills shows room [] [] a a
  | member {m : Member N α} {members : List (Member N α)} {value : Json}
    {fields : List (Text × Json)} {a b c : α} (hfits : value.Fits room)
    (hread : Decodes shows (m.read a) value b) (hrest : Fills shows room members fields b c) :
    Fills shows room (m :: members) ((m.name, value) :: fields) a c

/-- Everything that is decoded has a property. -/
def Yields (decode : Decoder N α) (P : α → Prop) : Prop := ∀ d a, decode d = .ok a → P a

/-- Reading any of the members keeps a property of records. -/
def KeptBy (P : α → Prop) (members : List (Member N α)) : Prop :=
  ∀ m ∈ members, ∀ record d next, P record → m.read record d = .ok next → P next

/-- What a library writes is read back with it. `shows d j` says that the node `d` stands for the
    document `j` in a text that the library wrote. -/
structure Library.ReadsBack (lib : Library) (shows : lib.Node → Json → Prop) : Prop where
  /-- The text of a document is read as the document, unless it is too deep. -/
  readText {α : Type} {decode : Decoder lib.Node α} {j : Json} {a : α} (hfits : j.Fits 127)
    (h : Decodes shows decode j a) : lib.readText decode (lib.print j) = .ok a
  /-- What is written for a finite number is a numeral. -/
  isNumeral {n : Number} (h : n.isFinite = true) : (lib.numeral n).IsNumeral
  /-- A finite number is read back from its numeral. -/
  number {n : Number} (h : n.isFinite = true) :
    Decodes shows lib.numberOrText (.number (lib.numeral n)) (.inl n)
  /-- A string in place of a number is told apart from a number. -/
  textForNumber (text : Text) : Decodes shows lib.numberOrText (.string text) (.inr text)
  /-- An instant is read back from its text. -/
  instant (i : Instant) : Decodes shows lib.instant (.string (lib.timestamp i)) i
  text (text : Text) : Decodes shows lib.text (.string text) text
  bool (b : Bool) : Decodes shows lib.bool (.bool b) b
  /-- A natural number that fits into a machine word is read back. -/
  nat {n : Nat} (h : n < Nat.pow 2 64) : Decodes shows lib.nat (.ofNat n) n
  /-- The items of an array are decoded in order. -/
  list {α : Type} {item : Decoder lib.Node α} {js : List Json} {values : List α}
    (h : List.Forall₂ (Decodes shows item) js values) :
    Decodes shows (lib.list item) (.array js) values
  none {α : Type} (value : Decoder lib.Node α) : Decodes shows (lib.option value) .null none
  /-- A value that is given as an object is not taken for nothing. -/
  some {α : Type} {value : Decoder lib.Node α} {members : List (Text × Json)} {a : α}
    (h : Decodes shows value (.object members) a) :
    Decodes shows (lib.option value) (.object members) (some a)
  /-- A variant without content is given by its name. -/
  variantName {ν α : Type} {f : VariantFormat lib.Node ν α} {name : Text} {v : ν} {a : α}
    (hname : f.find? name = Option.some v) (h : f.bare v = .ok a) :
    Decodes shows (lib.variant f) (.string name) a
  /-- A variant with content is given by an object that has its name. -/
  variantContent {ν α : Type} {f : VariantFormat lib.Node ν α} {name : Text} {v : ν} {j : Json}
    {a : α} (hname : f.find? name = Option.some v) (h : Decodes shows (f.content v) j a) :
    Decodes shows (lib.variant f) (.object [(name, j)]) a
  /-- A tag without content is enough for a variant without content. -/
  tag {ν α : Type} {f : TaggedFormat lib.Node ν α} {name : Text} {v : ν} {a : α}
    (hname : f.find? name = Option.some v) (h : f.bare v = .ok a) :
    Decodes shows (lib.tagged f) (.object [(f.tagName, .string name)]) a
  /-- The content after a tag is decoded as the tag says. -/
  tagContent {ν α : Type} {f : TaggedFormat lib.Node ν α} {name : Text} {v : ν} {j : Json} {a : α}
    (hne : f.contentName ≠ f.tagName) (hname : f.find? name = Option.some v)
    (h : Decodes shows (f.content v) j a) :
    Decodes shows (lib.tagged f) (.object [(f.tagName, .string name), (f.contentName, j)]) a
  /-- The members of a record, each given once and in order, are read one after the other. -/
  record {α : Type} {f : RecordFormat lib.Node α} {room : Nat} {fields : List (Text × Json)} {a : α}
    (hnames : (f.members.map (·.name)).Nodup) (h : Fills shows room f.members fields f.start a) :
    Decodes shows (lib.record f) (.object fields) a
  contentRecord {α : Type} {f : RecordFormat lib.Node α} {room : Nat} {fields : List (Text × Json)}
    {a : α} (hnames : (f.members.map (·.name)).Nodup)
    (h : Fills shows room f.members fields f.start a) :
    Decodes shows (lib.contentRecord f) (.object fields) a

/-- What a library decodes, from any text, is put together from parts that it decodes. -/
structure Library.Sound (lib : Library) : Prop where
  readText {α : Type} {decode : Decoder lib.Node α} {P : α → Prop}
    (h : Yields decode P) {text : Text}
    {a : α} (hread : lib.readText decode text = .ok a) : P a
  /-- A natural number fits into a machine word. -/
  nat : Yields lib.nat (· < Nat.pow 2 64)
  list {α : Type} {item : Decoder lib.Node α} {P : α → Prop} (h : Yields item P) :
    Yields (lib.list item) fun values => ∀ a ∈ values, P a
  option {α : Type} {value : Decoder lib.Node α} {P : α → Prop} (h : Yields value P) :
    Yields (lib.option value) fun content => ∀ a ∈ content, P a
  /-- A variant is one without content, or it was decoded from its content. -/
  variant {ν α : Type} {f : VariantFormat lib.Node ν α} {P : α → Prop}
    (hbare : ∀ v a, f.bare v = .ok a → P a) (hcontent : ∀ v, Yields (f.content v) P) :
    Yields (lib.variant f) P
  tagged {ν α : Type} {f : TaggedFormat lib.Node ν α} {P : α → Prop}
    (hbare : ∀ v a, f.bare v = .ok a → P a) (hcontent : ∀ v, Yields (f.content v) P) :
    Yields (lib.tagged f) P
  /-- A record comes from reading some of its members. -/
  record {α : Type} {f : RecordFormat lib.Node α} {P : α → Prop} (hstart : P f.start)
    (hkept : KeptBy P f.members) : Yields (lib.record f) P
  contentRecord {α : Type} {f : RecordFormat lib.Node α} {P : α → Prop} (hstart : P f.start)
    (hkept : KeptBy P f.members) : Yields (lib.contentRecord f) P

/-! ### Documents that are decoded as a value -/

/-- A document of at most `room` levels that is decoded as a value. -/
structure Conveys (shows : N → Json → Prop) (decode : Decoder N α) (room : Nat) (j : Json) (a : α) :
    Prop where
  fits : j.Fits room
  decodes : Decodes shows decode j a

theorem Conveys.map {decode : Decoder N α} {j : Json} {a : α} (h : Conveys shows decode room j a)
    (g : α → β) : Conveys shows (fun d => (decode d).map g) room j (g a) := by
  refine ⟨h.fits, ?_⟩
  intro d hd
  show (decode d).map g = .ok (g a)
  rw [h.decodes d hd]
  rfl

/-- A member that is decoded and then set. -/
theorem Fills.set {m : Member N α} {members : List (Member N α)} {value : Json}
    {fields : List (Text × Json)} {a c : α} {decode : Decoder N β} {x : β} {put : β → α}
    (hput : ∀ d, m.read a d = decode d >>= fun x => pure (put x))
    (h : Conveys shows decode room value x) (hrest : Fills shows room members fields (put x) c) :
    Fills shows room (m :: members) ((m.name, value) :: fields) a c := by
  refine .member h.fits ?_ hrest
  intro d hd
  rw [hput, h.decodes d hd]
  rfl

theorem Fills.fits {members : List (Member N α)} {fields : List (Text × Json)} {a b : α}
    (h : Fills shows room members fields a b) : ∀ field ∈ fields, field.2.Fits room := by
  induction h with
  | nil => simp
  | member hfits _ _ ih => exact List.forall_mem_cons.mpr ⟨hfits, ih⟩

namespace Library.ReadsBack

variable {lib : Library} {shows : lib.Node → Json → Prop} (hlib : lib.ReadsBack shows) (room : Nat)
include hlib

theorem conveys_text (text : Text) : Conveys shows lib.text room (.string text) text :=
  ⟨.string text, hlib.text text⟩

theorem conveys_bool (b : Bool) : Conveys shows lib.bool room (.bool b) b :=
  ⟨.bool b, hlib.bool b⟩

theorem conveys_nat {n : Nat} (h : n < Nat.pow 2 64) : Conveys shows lib.nat room (.ofNat n) n :=
  ⟨.number (Text.isNumeral_ofNat n), hlib.nat h⟩

theorem conveys_instant (i : Instant) :
    Conveys shows lib.instant room (.string (lib.timestamp i)) i :=
  ⟨.string (lib.timestamp i), hlib.instant i⟩

theorem conveys_named {find? : Text → Option ν} {name : Text} {v : ν} (h : find? name = .some v) :
    Conveys shows (lib.named find?) room (.string name) v :=
  ⟨.string name, hlib.variantName h rfl⟩

variable {room}

theorem conveys_list {item : Decoder lib.Node α} {toJson : α → Json} {values : List α}
    (h : ∀ a ∈ values, Conveys shows item room (toJson a) a) :
    Conveys shows (lib.list item) (room + 1) (.ofList toJson values) values := by
  constructor
  · apply Json.Fits.array
    intro j hj
    obtain ⟨a, ha, rfl⟩ := List.mem_map.mp hj
    exact (h a ha).fits
  · apply hlib.list
    rw [List.forall₂_map_left_iff, List.forall₂_same]
    intro a ha
    exact (h a ha).decodes

theorem conveys_texts (texts : List Text) :
    Conveys shows (lib.list lib.text) (room + 1) (.ofList .string texts) texts := by
  apply hlib.conveys_list
  intro text _
  exact hlib.conveys_text room text

theorem conveys_option {value : Decoder lib.Node α} {toJson : α → Json} {content : Option α}
    (hobject : ∀ a, ∃ members, toJson a = .object members)
    (h : ∀ a ∈ content, Conveys shows value room (toJson a) a) :
    Conveys shows (lib.option value) room (.ofOption toJson content) content := by
  cases content with
  | none => exact ⟨.null, hlib.none value⟩
  | some a =>
    obtain ⟨hfits, hdecodes⟩ := h a rfl
    obtain ⟨members, hmembers⟩ := hobject a
    refine ⟨hfits, ?_⟩
    show Decodes shows (lib.option value) (toJson a) (.some a)
    rw [hmembers] at hdecodes ⊢
    exact hlib.some hdecodes

theorem conveys_variant {f : VariantFormat lib.Node ν α} {name : Text} {v : ν} {j : Json} {a : α}
    (hname : f.find? name = .some v) (h : Conveys shows (f.content v) room j a) :
    Conveys shows (lib.variant f) (room + 1) (.object [(name, j)]) a := by
  refine ⟨.object ?_, hlib.variantContent hname h.decodes⟩
  intro m hm
  rw [List.mem_singleton.mp hm]
  exact h.fits

theorem conveys_tag {f : TaggedFormat lib.Node ν α} {name : Text} {v : ν} {a : α}
    (hname : f.find? name = .some v) (h : f.bare v = .ok a) :
    Conveys shows (lib.tagged f) (room + 1) (.object [(f.tagName, .string name)]) a := by
  refine ⟨.object ?_, hlib.tag hname h⟩
  intro m hm
  rw [List.mem_singleton.mp hm]
  exact .string name

theorem conveys_tagged {f : TaggedFormat lib.Node ν α} {name : Text} {v : ν} {j : Json} {a : α}
    (hne : f.contentName ≠ f.tagName) (hname : f.find? name = .some v)
    (h : Conveys shows (f.content v) room j a) :
    Conveys shows (lib.tagged f) (room + 1)
      (.object [(f.tagName, .string name), (f.contentName, j)]) a := by
  refine ⟨.object ?_, hlib.tagContent hne hname h.decodes⟩
  refine List.forall_mem_cons.mpr ⟨.string name, ?_⟩
  intro m hm
  rw [List.mem_singleton.mp hm]
  exact h.fits

section
variable {f : RecordFormat lib.Node α} {fields : List (Text × Json)} {a : α}
  (hnames : (f.members.map (·.name)).Nodup) (h : Fills shows room f.members fields f.start a)
include hnames h

theorem conveys_record : Conveys shows (lib.record f) (room + 1) (.object fields) a :=
  ⟨.object h.fits, hlib.record hnames h⟩

theorem conveys_contentRecord : Conveys shows (lib.contentRecord f) (room + 1) (.object fields) a :=
  ⟨.object h.fits, hlib.contentRecord hnames h⟩

end
end Library.ReadsBack

/-! ### What decoders yield -/

theorem yields_true (decode : Decoder N α) : Yields decode fun _ => True := by
  intro d a ha
  trivial

theorem map_ok {x : Except JsonFault α} {g : α → β} {b : β} (h : x.map g = .ok b) :
    ∃ a, x = .ok a ∧ g a = b := by
  cases x with
  | error fault => cases h
  | ok a => exact ⟨a, rfl, Except.ok.inj h⟩

theorem Yields.map {decode : Decoder N α} {P : α → Prop} {Q : β → Prop} {g : α → β}
    (h : Yields decode P) (hg : ∀ a, P a → Q (g a)) : Yields (fun d => (decode d).map g) Q := by
  intro d b hb
  obtain ⟨a, ha, rfl⟩ := map_ok hb
  exact hg a (h d a ha)

section
variable {P : α → Prop} {m : Member N α} {members : List (Member N α)} {decode : Decoder N β}
  {put : α → β → α}

theorem KeptBy.nil : KeptBy P ([] : List (Member N α)) := by
  intro m hm
  simp at hm

/-- A member that is decoded and then set keeps what setting it keeps. -/
theorem KeptBy.set {Q : β → Prop}
    (hput : ∀ record d, m.read record d = decode d >>= fun x => pure (put record x))
    (h : Yields decode Q) (hkeeps : ∀ record x, P record → Q x → P (put record x))
    (hrest : KeptBy P members) : KeptBy P (m :: members) := by
  refine List.forall_mem_cons.mpr ⟨?_, hrest⟩
  intro record d next hrecord hnext
  rw [hput] at hnext
  obtain ⟨x, hx, hnext⟩ := bind_ok hnext
  cases hnext
  exact hkeeps record x hrecord (h d x hx)

/-- A member that the property does not look at. -/
theorem KeptBy.other
    (hput : ∀ record d, m.read record d = decode d >>= fun x => pure (put record x))
    (hkeeps : ∀ record x, P record → P (put record x)) (hrest : KeptBy P members) :
    KeptBy P (m :: members) := by
  apply KeptBy.set hput (yields_true decode) ?_ hrest
  intro record x hrecord _
  exact hkeeps record x hrecord

end
end Stepwise
