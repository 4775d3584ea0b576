import Mathlib.Data.List.Nodup
import Stepwise.Json.Decoding
import Stepwise.Proofs.Instant
import Stepwise.Proofs.Json

/-!
# What the program's library keeps

The library that the program uses is as a library should be.

- `standard_readsBack`: what it writes is read back. A node shows a document when it is what a
  reader finds in the text of the document. Records are read member by member;
  `readMembers_of_fills` is an induction over the members that are left,
- `standard_sound`: what it decodes is put together from decoded parts. For records and for tagged
  variants this is an invariant of the members read so far.
-/

namespace Stepwise

variable {α β ν : Type}

/-- The node stands for a document in a text where nothing is wrong. -/
def Node.Shows (d : Node) (j : Json) : Prop := d.document = j.toDocument

/-- Whether the document was set aside makes no difference where nothing is wrong. -/
theorem decodes_of_document {decode : Decoder Node α} {j : Json} {a : α}
    (h : ∀ isSetAside, decode ⟨j.toDocument, isSetAside⟩ = .ok a) :
    Decodes Node.Shows decode j a := by
  intro d hd
  obtain ⟨document, isSetAside⟩ := d
  obtain rfl : document = j.toDocument := hd
  exact h isSetAside

/-! ### Simple shapes -/

theorem Number.decodes_archived {n : Number} (h : n.isFinite = true) :
    Decodes Node.Shows Node.numberOrText (.number n.archived) (.inl n) := by
  obtain ⟨-, hread⟩ := isNumeral_archived h
  -- The whole numeral is looked at before it is read, and it is not too great.
  have hgreat : Document.isTooGreat n.archived = false := by
    simp [Document.isTooGreat, hread, h]
  apply decodes_of_document
  intro isSetAside
  simp [Json.toDocument, Node.numberOrText, Document.skip, Document.firstFault?,
    hgreat, hread, bind, Except.bind, pure, Except.pure]

theorem Instant.decodes_write (i : Instant) :
    Decodes Node.Shows Node.instant (.string i.write) i := by
  apply decodes_of_document
  intro isSetAside
  simp [Json.toDocument, Node.instant, Node.text, read?_write, bind, Except.bind, pure, Except.pure]

theorem decodes_nat {n : Nat} (h : n < Nat.pow 2 64) :
    Decodes Node.Shows Node.nat (.ofNat n) n := by
  apply decodes_of_document
  intro isSetAside
  simp only [Json.ofNat, Json.toDocument, Node.nat, Text.isDigits_ofNat, Text.digitsValue_ofNat, h,
    and_self, if_true]

theorem decodes_list {item : Decoder Node α} {js : List Json} {values : List α}
    (h : List.Forall₂ (Decodes Node.Shows item) js values) :
    Decodes Node.Shows (Node.list item) (.array js) values := by
  apply decodes_of_document
  intro isSetAside
  have hitems : (Json.toDocument.ofItems js).mapM (fun document => item ⟨document, isSetAside⟩) =
      .ok values := by
    induction h with
    | nil => rfl
    | @cons j a js values hitem _ ih =>
      have hfirst : item ⟨j.toDocument, isSetAside⟩ = .ok a := hitem _ rfl
      rw [Json.toDocument.ofItems, List.mapM_cons, hfirst, ih]
      rfl
  simp only [Json.toDocument, Node.list, Node.inside, hitems]
  rfl

theorem decodes_option {value : Decoder Node α} {members : List (Text × Json)} {a : α}
    (h : Decodes Node.Shows value (.object members) a) :
    Decodes Node.Shows (Node.option value) (.object members) (some a) := by
  intro d hd
  have hobject : d.document = .object (Json.toDocument.ofMembers members) none := by
    rw [hd, Json.toDocument]
  simp only [Node.option, hobject, h d hd]
  rfl

/-! ### Variants -/

section
variable {f : VariantFormat Node ν α} {name : Text} {v : ν} {a : α}

theorem readName_string (isSetAside : Bool) (hname : f.find? name = some v) :
    f.readName ⟨.string (some name), isSetAside⟩ = .ok v := by
  simp only [VariantFormat.readName, Node.text, bind, Except.bind, hname]
  rfl

theorem decodes_variant_name (hname : f.find? name = some v) (h : f.bare v = .ok a) :
    Decodes Node.Shows f.decode (.string name) a := by
  apply decodes_of_document
  intro isSetAside
  simp only [Json.toDocument, VariantFormat.decode, readName_string isSetAside hname]
  exact h

theorem decodes_variant_content {j : Json} (hname : f.find? name = some v)
    (h : Decodes Node.Shows (f.content v) j a) :
    Decodes Node.Shows f.decode (.object [(name, j)]) a := by
  apply decodes_of_document
  intro isSetAside
  have hcontent : f.content v ⟨j.toDocument, isSetAside⟩ = .ok a := h _ rfl
  simp [Json.toDocument, Json.toDocument.ofMembers, VariantFormat.decode,
    VariantFormat.readMemberName, Node.inside, readName_string isSetAside hname, hcontent, bind,
    Except.bind, pure, Except.pure]

end

section
variable {f : TaggedFormat Node ν α} {name : Text} {v : ν} {a : α}

theorem readTag_string (isSetAside : Bool) (hname : f.find? name = some v) :
    f.readTag ⟨.string (some name), isSetAside⟩ = .ok v := by
  have hdecodes := decodes_variant_name
    (f := ⟨f.find?, .ok, fun v d => (Node.unit d).map fun _ => v⟩) hname rfl
  exact hdecodes _ rfl

theorem decodes_tag (hname : f.find? name = some v) (h : f.bare v = .ok a) :
    Decodes Node.Shows f.decode (.object [(f.tagName, .string name)]) a := by
  apply decodes_of_document
  intro isSetAside
  simp [Json.toDocument, Json.toDocument.ofMembers, TaggedFormat.decode, TaggedFormat.readMembers,
    MemberName.decode, TaggedFormat.stepTag, Node.inside, readTag_string isSetAside hname,
    TaggedFormat.finish, h, bind, Except.bind, Except.map]

theorem decodes_tag_content {j : Json} (hne : f.contentName ≠ f.tagName)
    (hname : f.find? name = some v) (h : Decodes Node.Shows (f.content v) j a) :
    Decodes Node.Shows f.decode (.object [(f.tagName, .string name), (f.contentName, j)]) a := by
  apply decodes_of_document
  intro isSetAside
  have hcontent : f.content v ⟨j.toDocument, isSetAside⟩ = .ok a := h _ rfl
  simp [Json.toDocument, Json.toDocument.ofMembers, TaggedFormat.decode, TaggedFormat.readMembers,
    MemberName.decode, TaggedFormat.stepTag, Node.inside, readTag_string isSetAside hname, hne,
    TaggedFormat.stepContent, hcontent, TaggedFormat.finish, bind, Except.bind, Except.map]

end

/-! ### Records -/

/-- Where no two members have the same name, a member is found by its name. -/
theorem find?_name {members : List (Member Node α)} (hnames : (members.map (·.name)).Nodup)
    {m : Member Node α} (hm : m ∈ members) :
    (members.find? fun other => other.name == m.name) = some m := by
  induction members with
  | nil => simp at hm
  | cons first others ih =>
    rw [List.map_cons, List.nodup_cons] at hnames
    rcases List.mem_cons.mp hm with rfl | hother
    · simp
    · have hne : first.name ≠ m.name := by
        intro heq
        apply hnames.1
        rw [heq]
        exact List.mem_map_of_mem hother
      rw [List.find?_cons_of_neg (by simpa using hne), ih hnames.2 hother]

section
variable {f : RecordFormat Node α} (hnames : (f.members.map (·.name)).Nodup) {room : Nat}
  {fields : List (Text × Json)}
include hnames

/-- Fields in the order of the members are read one by one; `before` are the members that were
    read. -/
theorem readMembers_of_fills {members : List (Member Node α)} {a b : α}
    (h : Fills Node.Shows room members fields a b) (d : Node) (before : List (Member Node α))
    (hmembers : f.members = before ++ members) :
    f.readMembers d a (before.map (·.name)).reverse (Json.toDocument.ofMembers fields) =
      .ok (b, (f.members.map (·.name)).reverse) := by
  induction h generalizing before with
  | nil =>
    rw [hmembers, List.append_nil]
    rfl
  | @member m members value fields a b c hfits hread hrest ih =>
    -- The next field is that of the next member: it is found, and it was not seen before.
    have hfind : f.member? m.name = some m := find?_name hnames (by simp [hmembers])
    have hunseen : (before.map (·.name)).reverse.contains m.name = false := by
      rw [hmembers, List.map_append, List.map_cons] at hnames
      have hnew : m.name ∉ before.map (·.name) := by
        intro hmem
        exact (List.nodup_middle.mp hnames).notMem (List.mem_append_left _ hmem)
      simpa using hnew
    have hvalue : m.read a (d.inside value.toDocument) = .ok b := hread _ rfl
    have hnext := ih (before ++ [m]) (by simp [hmembers])
    simp only [Json.toDocument.ofMembers, RecordFormat.readMembers, MemberName.decode,
      hfind, hunseen, hvalue]
    simpa using hnext

theorem decodeObject_of_fills {a : α} (h : Fills Node.Shows room f.members fields f.start a)
    (d : Node) : f.decodeObject d (Json.toDocument.ofMembers fields) none = .ok a := by
  have hread := readMembers_of_fills hnames h d [] rfl
  -- All members were seen, so none is missing, whether or not it may be.
  have hall : (f.members.all fun m => m.presence != .required ||
      (f.members.map (·.name)).reverse.contains m.name) = true := by
    apply List.all_eq_true.mpr
    intro m hm
    have hseen : ∃ other ∈ f.members, other.name = m.name := ⟨m, hm, rfl⟩
    simp [hseen]
  rw [List.map_nil, List.reverse_nil] at hread
  simp only [RecordFormat.decodeObject, hread, bind, Except.bind, hall, if_true]
  rfl

theorem decodes_record {a : α} (h : Fills Node.Shows room f.members fields f.start a) :
    Decodes Node.Shows f.decode (.object fields) a := by
  apply decodes_of_document
  intro isSetAside
  exact decodeObject_of_fills hnames h _

theorem decodes_only_object {a : α} (h : Fills Node.Shows room f.members fields f.start a) :
    Decodes Node.Shows f.decodeOnlyObject (.object fields) a := by
  apply decodes_of_document
  intro isSetAside
  exact decodeObject_of_fills hnames h _

end

/-! ### Texts -/

theorem readText_pretty {decode : Decoder Node α} {j : Json} {a : α}
    (hfits : j.Fits Document.mostLevels) (h : Decodes Node.Shows decode j a) :
    Node.readText decode j.pretty = .ok a := by
  have hdecode : decode ⟨j.toDocument, false⟩ = .ok a := h _ rfl
  simp only [Node.readText, Document.read_pretty hfits, hdecode]
  rfl

/-- What the program's library writes is read back with it. -/
theorem standard_readsBack : Library.standard.ReadsBack Node.Shows where
  readText := readText_pretty
  isNumeral h := (Number.isNumeral_archived h).1
  number := Number.decodes_archived
  textForNumber _ := decodes_of_document fun _ => rfl
  instant := Instant.decodes_write
  text _ := decodes_of_document fun _ => rfl
  bool _ := decodes_of_document fun _ => rfl
  nat := decodes_nat
  list := decodes_list
  none _ := decodes_of_document fun _ => rfl
  some := decodes_option
  variantName := decodes_variant_name
  variantContent := decodes_variant_content
  tag := decodes_tag
  tagContent := decodes_tag_content
  record hnames h := decodes_record hnames h
  contentRecord hnames h := decodes_only_object hnames h

/-! ### What is decoded -/

theorem yields_nat : Yields Node.nat (· < Nat.pow 2 64) := by
  intro d n h
  unfold Node.nat at h
  split at h
  · split at h
    · rename_i hnumeral
      cases h
      exact hnumeral.2
    · cases h
  · cases h

theorem yields_list {item : Decoder Node α} {P : α → Prop} (h : Yields item P) :
    Yields (Node.list item) fun values => ∀ a ∈ values, P a := by
  intro d values hvalues
  have hitems (items : List Document) : ∀ values,
      (items.mapM fun document => item (d.inside document)) = .ok values → ∀ a ∈ values, P a := by
    induction items with
    | nil =>
      intro values hvalues
      cases hvalues
      simp
    | cons first items ih =>
      intro values hvalues
      rw [List.mapM_cons] at hvalues
      obtain ⟨a, ha, hvalues⟩ := bind_ok hvalues
      obtain ⟨others, hothers, hvalues⟩ := bind_ok hvalues
      cases hvalues
      exact List.forall_mem_cons.mpr ⟨h _ a ha, ih others hothers⟩
  unfold Node.list at hvalues
  split at hvalues
  · obtain ⟨decoded, hdecoded, hvalues⟩ := bind_ok hvalues
    split at hvalues
    · cases hvalues
    · cases hvalues
      exact hitems _ _ hdecoded
  · cases hvalues

theorem yields_option {value : Decoder Node α} {P : α → Prop} (h : Yields value P) :
    Yields (Node.option value) fun content => ∀ a ∈ content, P a := by
  intro d content hcontent
  unfold Node.option at hcontent
  split at hcontent
  · cases hcontent
    simp
  · obtain ⟨a, ha, rfl⟩ := map_ok hcontent
    intro b hb
    cases hb
    exact h d a ha

theorem yields_variant {f : VariantFormat Node ν α} {P : α → Prop}
    (hbare : ∀ v a, f.bare v = .ok a → P a) (hcontent : ∀ v, Yields (f.content v) P) :
    Yields f.decode P := by
  intro d a h
  unfold VariantFormat.decode at h
  split at h
  · -- an object with a member
    obtain ⟨v, -, h⟩ := bind_ok h
    obtain ⟨result, hresult, h⟩ := bind_ok h
    split at h
    · cases h
      exact hcontent v _ a hresult
    · cases h
    · cases h
  · cases h
  · obtain ⟨v, -, h⟩ := bind_ok h
    exact hbare v a h
  · cases h
  · cases h
  · cases h

/-! ### What is decoded as a record -/

section
variable {f : RecordFormat Node α} {P : α → Prop} {d : Node}

/-- What the members keep holds after any fields that are read. -/
theorem readMembers_keeps (hkept : KeptBy P f.members) {fields : List (MemberName × Document)}
    {record next : α} {seen all : List Text} (hrecord : P record)
    (h : f.readMembers d record seen fields = .ok (next, all)) : P next := by
  induction fields generalizing record seen with
  | nil =>
    cases h
    exact hrecord
  | cons field fields ih =>
    obtain ⟨name, value⟩ := field
    simp only [RecordFormat.readMembers] at h
    split at h
    · cases h
    · split at h
      · -- An unknown name is passed over.
        split at h
        · cases h
        · exact ih hrecord h
      · rename_i m hfind
        split at h
        · cases h
        · split at h
          · cases h
          · rename_i read hread
            have hm := List.mem_of_find?_eq_some hfind
            exact ih (hkept m hm record _ read hrecord hread) h

theorem readItems_keeps {members : List (Member Node α)} (hkept : KeptBy P members)
    {items : List Document} {record next : α} {missing : List (Member Node α)}
    {left : List Document} (hrecord : P record)
    (h : RecordFormat.readItems d record members items = .ok (next, missing, left)) : P next := by
  induction members generalizing record items with
  | nil =>
    cases h
    exact hrecord
  | cons m members ih =>
    cases items with
    | nil =>
      cases h
      exact hrecord
    | cons item items =>
      obtain ⟨hm, hmembers⟩ := List.forall_mem_cons.mp hkept
      simp only [RecordFormat.readItems] at h
      split at h
      · cases h
      · rename_i read hread
        exact ih hmembers (hm record _ read hrecord hread) h

variable (hstart : P f.start) (hkept : KeptBy P f.members)
include hstart hkept

theorem decodeObject_keeps {fields : List (MemberName × Document)} {stop : Option JsonFault} {a : α}
    (h : f.decodeObject d fields stop = .ok a) : P a := by
  obtain ⟨⟨record, seen⟩, hread, h⟩ := bind_ok h
  have hrecord := readMembers_keeps hkept hstart hread
  cases stop with
  | some fault => cases h
  | none =>
    dsimp only at h
    split at h
    · cases h
      exact hrecord
    · cases h

theorem decodeList_keeps {items : List Document} {stop : Option JsonFault} {a : α}
    (h : f.decodeList d items stop = .ok a) : P a := by
  obtain ⟨⟨record, missing, left⟩, hread, h⟩ := bind_ok h
  have hrecord := readItems_keeps hkept hstart hread
  dsimp only at h
  split at h
  · cases h
  · cases h
  · split at h
    · cases h
      exact hrecord
    · cases h

theorem yields_record : Yields f.decode P := by
  intro d a h
  unfold RecordFormat.decode at h
  split at h
  · exact decodeObject_keeps hstart hkept h
  · exact decodeList_keeps hstart hkept h
  · cases h

theorem yields_only_object : Yields f.decodeOnlyObject P := by
  intro d a h
  unfold RecordFormat.decodeOnlyObject at h
  split at h
  · exact decodeObject_keeps hstart hkept h
  · cases h

end

/-! ### What is decoded as a tagged variant -/

section
variable {f : TaggedFormat Node ν α} {P : α → Prop}

/-- A property of the value, once it is known. -/
def TaggedFormat.Progress.Holds (P : α → Prop) : Progress ν α → Prop
  | .value a => P a
  | _ => True

variable (hcontent : ∀ v, Yields (f.content v) P)
include hcontent

theorem stepTag_holds {value : Node} {progress next : TaggedFormat.Progress ν α}
    (h : f.stepTag value progress = .ok next) : next.Holds P := by
  cases progress with
  | nothing =>
    obtain ⟨v, -, rfl⟩ := map_ok h
    trivial
  | content document =>
    -- The content was set aside and is decoded only now.
    obtain ⟨v, -, h⟩ := bind_ok h
    obtain ⟨a, ha, h⟩ := bind_ok h
    cases h
    exact hcontent v _ a ha
  | tag v => cases h
  | value a => cases h

theorem stepContent_holds {value : Node} {progress next : TaggedFormat.Progress ν α}
    (h : f.stepContent value progress = .ok next) : next.Holds P := by
  cases progress with
  | nothing =>
    obtain ⟨_, -, rfl⟩ := map_ok h
    trivial
  | tag v =>
    obtain ⟨a, ha, rfl⟩ := map_ok h
    exact hcontent v value a ha
  | content document => cases h
  | value a => cases h

theorem readMembers_holds {d : Node} {members : List (MemberName × Document)}
    {progress next : TaggedFormat.Progress ν α} (hprogress : progress.Holds P)
    (h : f.readMembers d progress members = .ok next) : next.Holds P := by
  induction members generalizing progress with
  | nil =>
    cases h
    exact hprogress
  | cons member members ih =>
    obtain ⟨name, value⟩ := member
    simp only [TaggedFormat.readMembers] at h
    split at h
    · cases h
    · split at h
      · cases h
      · rename_i step hstep
        refine ih ?_ h
        -- The member is the tag, the content, or one that is passed over.
        split at hstep
        · exact stepTag_holds hcontent hstep
        · split at hstep
          · exact stepContent_holds hcontent hstep
          · obtain ⟨_, -, rfl⟩ := map_ok hstep
            exact hprogress

theorem yields_tagged (hbare : ∀ v a, f.bare v = .ok a → P a) : Yields f.decode P := by
  intro d a h
  unfold TaggedFormat.decode at h
  split at h
  · obtain ⟨progress, hprogress, h⟩ := bind_ok h
    have hnothing : (.nothing : TaggedFormat.Progress ν α).Holds P := trivial
    have hholds := readMembers_holds hcontent hnothing hprogress
    split at h
    · cases h
    · cases progress with
      | value value =>
        cases h
        exact hholds
      | tag v =>
        -- There was no content.
        exact hbare v a h
      | nothing => cases h
      | content document => cases h
  · split at h
    · cases h
    · obtain ⟨v, -, h⟩ := bind_ok h
      split at h
      · cases h
      · obtain ⟨value, hvalue, h⟩ := bind_ok h
        have hP := hcontent v _ value hvalue
        split at h
        · cases h
          exact hP
        · cases h
        · cases h
  · cases h

end

/-! ### What is read from a text -/

theorem Yields.of_readText {decode : Decoder Node α} {P : α → Prop} (h : Yields decode P)
    {text : Text} {a : α} (hread : Node.readText decode text = .ok a) : P a := by
  unfold Node.readText at hread
  generalize Document.read text = reading at hread
  obtain ⟨document, isWhole⟩ := reading
  obtain ⟨value, hvalue, hread⟩ := bind_ok hread
  cases isWhole with
  | true =>
    cases hread
    exact h _ a hvalue
  | false => cases hread

/-- What the program's library decodes is put together from parts that it decodes. -/
theorem standard_sound : Library.standard.Sound where
  readText := Yields.of_readText
  nat := yields_nat
  list := yields_list
  option := yields_option
  variant := yields_variant
  tagged hbare hcontent := yields_tagged hcontent hbare
  record := yields_record
  contentRecord := yields_only_object

end Stepwise
