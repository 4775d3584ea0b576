import Stepwise.Json.Document
import Stepwise.Proofs.Library

/-!
# JSON text read back

The text of a document is read as the document, with nothing left over.

- `readUnits_quote`, `unitsText_toNat`: strings, with all their escapes,
- `Json.toDocument` is what a written document is to a reader,
- `readsBack`: a document that fits is read from its text in either layout, whatever follows it. The
  induction is on the document; the fuel is twice the length of the text,
- `read_pretty`: so the text of a whole document is read as it.
-/

namespace Stepwise
namespace Document

/-! ### Strings -/

theorem hexValue4?_hexDigit :
    ∀ n < 32, hexValue4? '0' '0' (Json.hexDigit (n / 16)) (Json.hexDigit (n % 16)) = some n := by
  decide

/-- A character is read back from its escape. -/
theorem readUnits_escape (c : Char) (rest : Text) :
    readUnits (Json.escape c ++ rest) = (c.toNat :: (readUnits rest).1, (readUnits rest).2) := by
  by_cases hletter : c ∈ ['"', '\\', '\x08', '\x0c', '\n', '\r', '\t']
  · -- An escape of one letter.
    simp only [List.mem_cons, List.not_mem_nil, or_false] at hletter
    rcases hletter with rfl | rfl | rfl | rfl | rfl | rfl | rfl <;> rfl
  · simp only [List.mem_cons, List.not_mem_nil, or_false, not_or] at hletter
    by_cases hcontrol : c.toNat < 0x20
    · simp [Json.escape, hletter, hcontrol, readUnits, hexValue4?_hexDigit c.toNat hcontrol]
    · simp [Json.escape, hletter, hcontrol, readUnits]

/-- A text is read back from between its quotes, as code points. -/
theorem readUnits_quote (text rest : Text) :
    readUnits (text.flatMap Json.escape ++ '"' :: rest) = (text.map Char.toNat, .ok rest) := by
  induction text with
  | nil => rfl
  | cons c text ih => rw [List.flatMap_cons, List.append_assoc, readUnits_escape, ih, List.map_cons]

theorem isSurrogate_toNat (c : Char) :
    isHighSurrogate c.toNat = false ∧ isLowSurrogate c.toNat = false := by
  have hvalid : c.toNat < 0xD800 ∨ 0xDFFF < c.toNat ∧ c.toNat < 0x110000 := c.valid
  simp only [isHighSurrogate, isLowSurrogate, Bool.and_eq_false_iff, decide_eq_false_iff_not]
  omega

/-- The code points of a text are those of the text. -/
theorem unitsText_toNat (text rest : Text) :
    unitsText (text.map Char.toNat) (.ok rest) = .ok text := by
  induction text with
  | nil => rfl
  | cons c text ih =>
    obtain ⟨hhigh, hlow⟩ := isSurrogate_toNat c
    -- A last unit is looked at alone, any other one together with the next.
    cases text with
    | nil => simp [unitsText, hhigh, hlow]
    | cons d text =>
      rw [List.map_cons] at ih
      simp [unitsText, hhigh, hlow, ih, Except.map]

theorem readString_quote (text rest : Text) :
    readString (text.flatMap Json.escape ++ '"' :: rest) = (string (some text), some rest) := by
  simp [readString, readUnits_quote, unitsText_toNat, Except.toOption]

end Document

namespace Json

/-! ### Documents -/

/-- A document as a reader finds it in a text where nothing is wrong. -/
def toDocument : Json → Document
  | null => .null
  | bool b => .bool b
  | number numeral => .number numeral
  | string text => .string (some text)
  | array items => .array (ofItems items) none
  | object members => .object (ofMembers members) none
where
  /-- The items of an array. -/
  ofItems : List Json → List Document
    | [] => []
    | item :: items => item.toDocument :: ofItems items
  /-- The members of an object. -/
  ofMembers : List (Text × Json) → List (MemberName × Document)
    | [] => []
    | (key, value) :: members => (.text (some key), value.toDocument) :: ofMembers members

end Json

namespace Document
open Json

/-! ### Layout -/

theorem skipBlanks_lineStart (layout : Json.Layout) (level : Nat) (rest : Text) :
    skipBlanks (layout.lineStart level ++ rest) = skipBlanks rest := by
  cases layout with
  | compact => rfl
  | indented =>
    have hblanks : ∀ c ∈ Json.Layout.indented.lineStart level,
        (c == ' ' || c == '\t' || c == '\n' || c == '\r') = true := by
      intro c hc
      rcases List.mem_cons.mp hc with rfl | hspace
      · rfl
      · rw [List.eq_of_mem_replicate hspace]
        rfl
    exact List.dropWhile_append_of_pos hblanks

theorem readValue_lineStart (fuel room : Nat) (layout : Json.Layout) (level : Nat) (text : Text) :
    readValue fuel room (layout.lineStart level ++ text) = readValue fuel room text := by
  cases fuel with
  | zero => simp [readValue]
  | succ fuel => simp only [readValue, skipBlanks_lineStart]

theorem endsNumeral_lineStart {layout : Json.Layout} {level : Nat} {rest : Text}
    (h : rest.EndsNumeral) :
    (layout.lineStart level ++ rest).EndsNumeral := by
  cases layout with
  | compact => exact h
  | indented =>
    intro c hc
    obtain rfl : '\n' = c := by simpa [Json.Layout.lineStart] using hc
    decide

/-- What a value begins with: not a blank, and not the end of an array. -/
theorem exists_cons_write {room : Nat} {j : Json} (h : Fits room j) (layout : Json.Layout)
    (level : Nat) :
    ∃ first others, j.write layout level = first :: others ∧ first ≠ ']' ∧
      (first == ' ' || first == '\t' || first == '\n' || first == '\r') = false := by
  cases h with
  | null => exact ⟨_, _, rfl, by decide, by decide⟩
  | bool b => cases b <;> exact ⟨_, _, rfl, by decide, by decide⟩
  | number h =>
    obtain ⟨first, others, rfl, rfl | hdigit⟩ := h.exists_cons
    · exact ⟨_, _, rfl, by decide, by decide⟩
    · have hne {d : Char} (hd : d.isDigit = false) : first ≠ d := Text.ne_of_isDigit hdigit hd
      exact ⟨_, _, rfl, hne rfl, by simp [hne]⟩
  | string text => exact ⟨_, _, rfl, by decide, by decide⟩
  | @array _ items h => cases items <;> exact ⟨_, _, rfl, by decide, by decide⟩
  | @object _ members h => cases members <;> exact ⟨_, _, rfl, by decide, by decide⟩

theorem skipBlanks_write {room : Nat} {j : Json} (h : Fits room j) (layout : Json.Layout)
    (level : Nat) (rest : Text) :
    ∃ first others, skipBlanks (j.write layout level ++ rest) = first :: others ∧ first ≠ ']' := by
  obtain ⟨first, others, hcons, hne, hblank⟩ := exists_cons_write h layout level
  exact ⟨first, others ++ rest, by simp [hcons, skipBlanks, hblank], hne⟩

/-! ### Reading -/

/-- A document at a level is read back, whatever follows that does not go on with a number. -/
def ReadsBack (layout : Json.Layout) (level room : Nat) (j : Json) : Prop :=
  ∀ fuel rest, 2 * (j.write layout level).length ≤ fuel → Text.EndsNumeral rest →
    readValue fuel room (j.write layout level ++ rest) = (j.toDocument, some rest)

theorem endsNumeral_cons {c : Char} {rest : Text}
    (h : (c.isDigit || c == '.' || c == 'e' || c == 'E') = false) :
    Text.EndsNumeral (c :: rest) := by
  intro d hd
  obtain rfl : c = d := by simpa using hd
  simpa [and_assoc] using h

theorem readItems_lineStart (fuel room : Nat) (layout : Json.Layout) (level : Nat) (text : Text) :
    readItems fuel room (layout.lineStart level ++ text) = readItems fuel room text := by
  cases fuel with
  | zero => simp [readItems]
  | succ fuel => simp only [readItems, readValue_lineStart]

theorem readMembers_lineStart (fuel room : Nat) (layout : Json.Layout) (level : Nat) (text : Text) :
    readMembers fuel room (layout.lineStart level ++ text) = readMembers fuel room text := by
  cases fuel with
  | zero => simp [readMembers]
  | succ fuel => simp only [readMembers, skipBlanks_lineStart]

/-- Items that are read back one by one are read back as a sequence, one level of fuel for each. -/
theorem readItems_write {layout : Json.Layout} {level room : Nat} (outer : Nat) (rest : Text)
    (items : List Json) (item : Json) (fuel : Nat)
    (hread : ∀ j ∈ item :: items, ReadsBack layout level room j)
    (hfuel : 2 * (item.write layout level ++ write.writeItems layout level items).length < fuel) :
    readItems fuel room (item.write layout level ++ (write.writeItems layout level items ++
      (layout.lineStart outer ++ ']' :: rest))) =
      (toDocument.ofItems (item :: items), none, some rest) := by
  induction items generalizing item fuel with
  | nil =>
    obtain ⟨fuel, rfl⟩ : ∃ n, fuel = n + 1 := ⟨fuel - 1, by omega⟩
    have hend : Text.EndsNumeral (layout.lineStart outer ++ ']' :: rest) :=
      endsNumeral_lineStart (endsNumeral_cons rfl)
    have hitem :=
      hread item List.mem_cons_self fuel _ (by simp [write.writeItems] at hfuel; omega) hend
    have hclose : skipBlanks (']' :: rest) = ']' :: rest := rfl
    simp [readItems, write.writeItems, hitem, skipBlanks_lineStart, hclose, toDocument.ofItems]
  | cons next items ih =>
    obtain ⟨fuel, rfl⟩ : ∃ n, fuel = n + 1 := ⟨fuel - 1, by omega⟩
    simp only [write.writeItems, List.cons_append, List.append_assoc, List.length_append,
      List.length_cons] at hfuel ⊢
    have hitem := hread item List.mem_cons_self fuel
    -- The comma pays for the level of fuel that this item has used.
    have hnext := ih next fuel (fun j hj => hread j (List.mem_cons_of_mem _ hj))
      (by rw [List.length_append]; omega)
    -- A comma ends the item, so that a numeral before it is read no further.
    rw [readItems, hitem _ (by omega) (endsNumeral_cons rfl)]
    have hcomma (text : Text) : skipBlanks (',' :: text) = ',' :: text := rfl
    simp only [hcomma, readItems_lineStart, hnext]
    rfl

theorem quote_append (key rest : Text) :
    quote key ++ rest = '"' :: (key.flatMap escape ++ '"' :: rest) := by
  simp [quote]

/-- A value is read after a colon, with or without a space between them. -/
theorem exists_after_colon (fuel room : Nat) (layout : Json.Layout) (text : Text) :
    ∃ after, skipBlanks (layout.colon ++ text) = ':' :: after ∧
      readValue fuel room after = readValue fuel room text := by
  cases layout with
  | compact => exact ⟨text, rfl, rfl⟩
  | indented => exact ⟨' ' :: text, rfl, by cases fuel <;> rfl⟩

section
variable {fuel room : Nat} {layout : Json.Layout} {value : Document} {text rest after : Text}
  (h : readValue fuel room text = (value, some rest))
include h

/-- The last member of an object stands before a closing brace. -/
theorem readMembers_last (key : Text) (hclose : skipBlanks rest = '}' :: after) :
    readMembers (fuel + 1) room (quote key ++ (layout.colon ++ text)) =
      ([(.text (some key), value)], none, some after) := by
  have hopen (text : Text) : skipBlanks ('"' :: text) = '"' :: text := rfl
  obtain ⟨start, hcolon, hvalue⟩ := exists_after_colon fuel room layout text
  rw [quote_append, readMembers, hopen]
  simp only [readUnits_quote, unitsText_toNat, Except.toOption, hcolon, hvalue, h, hclose]

/-- The other members stand before a comma. -/
theorem readMembers_next (key : Text) (hcomma : skipBlanks rest = ',' :: after) :
    readMembers (fuel + 1) room (quote key ++ (layout.colon ++ text)) =
      ((.text (some key), value) :: (readMembers fuel room after).1,
        (readMembers fuel room after).2) := by
  have hopen (text : Text) : skipBlanks ('"' :: text) = '"' :: text := rfl
  obtain ⟨start, hcolon, hvalue⟩ := exists_after_colon fuel room layout text
  rw [quote_append, readMembers, hopen]
  simp only [readUnits_quote, unitsText_toNat, Except.toOption, hcolon, hvalue, h, hcomma]

end

/-- Members whose values are read back one by one are read back as a sequence. -/
theorem readMembers_write {layout : Json.Layout} {level room : Nat} (outer : Nat) (rest : Text)
    (members : List (Text × Json)) (key : Text) (value : Json) (fuel : Nat)
    (hread : ∀ m ∈ (key, value) :: members, ReadsBack layout level room m.2)
    (hfuel : 2 * (quote key ++ value.write layout level ++
      write.writeMembers layout level members).length < fuel) :
    readMembers fuel room (quote key ++ (layout.colon ++ (value.write layout level ++
      (write.writeMembers layout level members ++ (layout.lineStart outer ++ '}' :: rest))))) =
      (toDocument.ofMembers ((key, value) :: members), none, some rest) := by
  induction members generalizing key value fuel with
  | nil =>
    obtain ⟨fuel, rfl⟩ : ∃ n, fuel = n + 1 := ⟨fuel - 1, by omega⟩
    have hend : Text.EndsNumeral (layout.lineStart outer ++ '}' :: rest) :=
      endsNumeral_lineStart (endsNumeral_cons rfl)
    have hvalue := hread _ List.mem_cons_self fuel _ (by simp at hfuel ⊢; omega) hend
    exact readMembers_last hvalue key (skipBlanks_lineStart layout outer _)
  | cons next members ih =>
    obtain ⟨fuel, rfl⟩ : ∃ n, fuel = n + 1 := ⟨fuel - 1, by omega⟩
    obtain ⟨name, inner⟩ := next
    simp only [write.writeMembers, List.cons_append, List.append_assoc, List.length_append,
      List.length_cons] at hfuel ⊢
    have hvalue : ReadsBack layout level room value := hread _ List.mem_cons_self
    have hnext := ih name inner fuel
      (fun m hm => hread m (List.mem_cons_of_mem _ hm))
      (by simp only [List.length_append]; omega)
    rw [readMembers_next (hvalue fuel _ (by omega) (endsNumeral_cons rfl)) key rfl,
      readMembers_lineStart, hnext]
    rfl

theorem readValue_number {fuel room : Nat} {numeral rest : Text} (h : numeral.IsNumeral)
    (hrest : rest.EndsNumeral) :
    readValue (fuel + 1) room (numeral ++ rest) = (number numeral, some rest) := by
  have hread := readNumeral_append h hrest
  obtain ⟨first, others, rfl, hfirst⟩ := h.exists_cons
  have hne {d : Char} (hd : d.isDigit = false) (hminus : '-' ≠ d) : first ≠ d := by
    rcases hfirst with rfl | hdigit
    · exact hminus
    · exact Text.ne_of_isDigit hdigit hd
  have hskip : skipBlanks (first :: (others ++ rest)) = first :: (others ++ rest) := by
    simp [skipBlanks, hne]
  rw [List.cons_append] at hread ⊢
  rw [readValue, hskip]
  simp [hne, hfirst, readNumber, hread]

theorem readValue_array {fuel room : Nat} {layout : Json.Layout} {level outer : Nat} {item : Json}
    (h : Fits room item) {after rest : Text} {documents : List Document}
    (hitems : readItems fuel room (item.write layout level ++ after) =
      (documents, none, some rest)) :
    readValue (fuel + 1) (room + 1)
      ('[' :: (layout.lineStart outer ++ (item.write layout level ++ after))) =
      (array documents none, some rest) := by
  -- The array is not empty: its first item does not begin like the end of an array.
  obtain ⟨first, others, hskip, hne⟩ := skipBlanks_write h layout level after
  have hopen (text : Text) : skipBlanks ('[' :: text) = '[' :: text := rfl
  rw [readValue, hopen]
  simp [skipBlanks_lineStart, hskip, hne, readItems_lineStart, hitems, atLevel]

theorem readValue_object {fuel room : Nat} {layout : Json.Layout} {outer : Nat}
    {key after rest : Text} {documents : List (MemberName × Document)}
    (hmembers : readMembers fuel room (quote key ++ after) = (documents, none, some rest)) :
    readValue (fuel + 1) (room + 1) ('{' :: (layout.lineStart outer ++ (quote key ++ after))) =
      (object documents none, some rest) := by
  have hopen (text : Text) : skipBlanks ('{' :: text) = '{' :: text := rfl
  have hquote : skipBlanks (quote key ++ after) = '"' :: (key.flatMap escape ++ ['"'] ++ after) :=
    rfl
  rw [readValue, hopen]
  simp [skipBlanks_lineStart, hquote, readMembers_lineStart, hmembers, atLevel]

/-- Every document has a text, so that there is fuel to begin with. -/
theorem exists_succ_fuel (room : Nat) {fuel level : Nat} {layout : Json.Layout} {j : Json}
    (h : Fits room j) (hfuel : 2 * (j.write layout level).length ≤ fuel) : ∃ n, fuel = n + 1 := by
  obtain ⟨first, others, hcons, -, -⟩ := exists_cons_write h layout level
  rw [hcons, List.length_cons] at hfuel
  exact ⟨fuel - 1, by omega⟩

/-- A document that fits is read back from its text at any level, in either layout. -/
theorem readsBack {room : Nat} {j : Json} (h : Fits room j) (layout : Json.Layout) (level : Nat) :
    ReadsBack layout level room j := by
  -- The induction is on the document, with all levels at once, since items stand one level deeper.
  induction h generalizing level with
  | null =>
    intro fuel rest hfuel hrest
    obtain ⟨fuel, rfl⟩ := exists_succ_fuel 0 .null hfuel
    rfl
  | bool b =>
    intro fuel rest hfuel hrest
    obtain ⟨fuel, rfl⟩ := exists_succ_fuel 0 (.bool b) hfuel
    cases b <;> rfl
  | number h =>
    intro fuel rest hfuel hrest
    obtain ⟨fuel, rfl⟩ := exists_succ_fuel 0 (.number h) hfuel
    exact readValue_number h hrest
  | string text =>
    intro fuel rest hfuel hrest
    obtain ⟨fuel, rfl⟩ := exists_succ_fuel 0 (.string text) hfuel
    rw [write, quote_append]
    exact readString_quote text rest
  | @array room items h ih =>
    intro fuel rest hfuel hrest
    obtain ⟨fuel, rfl⟩ := exists_succ_fuel _ (.array h) hfuel
    cases items with
    | nil => rfl
    | cons item items =>
      simp only [write, List.cons_append, List.append_assoc, List.nil_append, List.length_append,
        List.length_cons] at hfuel ⊢
      refine readValue_array (h item List.mem_cons_self)
        (readItems_write level rest items item fuel ?_ ?_)
      · exact fun j hj => ih j hj (level + 1)
      · rw [List.length_append]
        omega
  | @object room members h ih =>
    intro fuel rest hfuel hrest
    obtain ⟨fuel, rfl⟩ := exists_succ_fuel _ (.object h) hfuel
    cases members with
    | nil => rfl
    | cons member members =>
      obtain ⟨key, value⟩ := member
      simp only [write, List.cons_append, List.append_assoc, List.nil_append, List.length_append,
        List.length_cons] at hfuel ⊢
      refine readValue_object (readMembers_write level rest members key value fuel ?_ ?_)
      · exact fun m hm => ih m hm (level + 1)
      · simp only [List.length_append]
        omega

/-- The text of a document is read as the document, and nothing is left over. -/
theorem read_pretty {j : Json} (h : Fits mostLevels j) : read j.pretty = (j.toDocument, true) := by
  have hread : readValue (2 * j.pretty.length + 2) mostLevels (j.pretty ++ []) =
      (j.toDocument, some []) :=
    readsBack h .indented 0 _ [] (Nat.le_add_right ..) Text.endsNumeral_nil
  rw [List.append_nil] at hread
  rw [read, hread]
  rfl

end Document
end Stepwise
