import Stepwise.Proofs.Parts
import Stepwise.Proofs.Layout
import Stepwise.Proofs.Decimal
import Stepwise.Proofs.Calls

/-!
# Texts of one line

No text that a run computes contains a line feed. There is none in the lines of a listing; what is
read from a line is a part of it; and the texts that are put together are made of such parts, of
earlier values, of numerals and of fixed words. So what holds of a state before a statement holds of
it afterwards:

- `Text.OneLine` and its namesakes for values, variables, frames, entries, faults, states and
  snapshots,
- `oneLine_evaluate`: the value of an expression, by whichever rule it is found,
- `oneLine_execute` and `oneLine_execute_error`: the effect of a statement, and its fault,
- `Run.oneLine`: a run, and `oneLine_snapshot`: all snapshots of all scripts.
-/

namespace Stepwise

/-! ### Texts -/

namespace Text

/-- The text has no line feed. -/
def OneLine (text : Text) : Prop := '\n' ∉ text

instance : DecidablePred OneLine := fun text => inferInstanceAs (Decidable ('\n' ∉ text))

variable {text text' : Text}

@[simp] theorem oneLine_nil : OneLine [] := List.not_mem_nil

@[simp] theorem oneLine_cons {c : Char} : OneLine (c :: text) ↔ '\n' ≠ c ∧ OneLine text := by
  simp [OneLine]

@[simp] theorem oneLine_append : OneLine (text ++ text') ↔ OneLine text ∧ OneLine text' := by
  simp [OneLine]

theorem OneLine.append (h : OneLine text) (h' : OneLine text') : OneLine (text ++ text') :=
  oneLine_append.mpr ⟨h, h'⟩

/-- Parts of a text have no line feed when the text has none. -/
theorem OneLine.part (h : OneLine text) (hpart : text' <:+: text) : OneLine text' :=
  fun hmem => h (hpart.subset hmem)

theorem oneLine_of_isDigit (h : ∀ c ∈ text, c.isDigit = true) : OneLine text :=
  fun hmem => absurd (h '\n' hmem) (by decide)

@[simp] theorem oneLine_ofNat (n : Nat) :
    OneLine (ofNat n) := oneLine_of_isDigit fun _ => isDigit_of_mem_ofNat

theorem oneLine_replicate {c : Char} (hc : '\n' ≠ c) (n : Nat) : OneLine (List.replicate n c) :=
  fun hmem => hc (List.eq_of_mem_replicate hmem)

theorem oneLine_padStart {fill : Char} (hfill : '\n' ≠ fill) (width : Nat) (h : OneLine text) :
    OneLine (padStart fill width text) := by
  rw [padStart]
  exact (oneLine_replicate hfill _).append h

theorem oneLine_intercalate {separator : Text} (hseparator : OneLine separator) {texts : List Text}
    (h : ∀ text ∈ texts, OneLine text) : OneLine (List.intercalate separator texts) :=
  not_mem_intercalate hseparator h

end Text

/-! ### Values -/

namespace Decimal

theorem oneLine_significant (d : Decimal) : Text.OneLine d.significant := by
  unfold significant
  simp only
  split
  · decide
  · refine Text.OneLine.part (Text.oneLine_ofNat d.coefficient) (List.IsPrefix.isInfix ?_)
    rw [← List.reverse_suffix, List.reverse_reverse]
    exact List.dropWhile_suffix _

variable {digits : Text} (hdigits : Text.OneLine digits) (leading : Int)
include hdigits

theorem oneLine_positional {afterWhole : Text} (hafter : Text.OneLine afterWhole) :
    Text.OneLine (positional afterWhole digits leading) := by
  have hzeros : ∀ n, Text.OneLine (List.replicate n '0') := Text.oneLine_replicate (by decide)
  unfold positional
  split
  · simp [hzeros, hdigits]
  · split
    · simp [hzeros, hdigits, hafter]
    · simp [hdigits.part (List.take_prefix _ _).isInfix,
        hdigits.part (List.drop_suffix _ _).isInfix]

theorem oneLine_scientific : Text.OneLine (scientific digits leading) := by
  unfold scientific
  simp only
  split <;> split <;> simp_all

end Decimal

/-- A number is written in digits, a point, signs and letters. -/
theorem Number.oneLine_display (n : Number) : Text.OneLine n.display := by
  have hsign : ∀ negative, Text.OneLine (signText negative) := by decide
  unfold display
  split
  · decide
  · split
    · decide
    · split
      · exact (hsign _).append (by decide)
      · -- a number that is neither zero nor infinite is written in the digits of a decimal
        rename_i rank _ hrank _
        rw [magnitudeText, if_neg hrank]
        refine (hsign _).append ?_
        unfold Decimal.write
        split
        · exact Decimal.oneLine_positional (Decimal.oneLine_significant _) _ Text.oneLine_nil
        · exact Decimal.oneLine_scientific (Decimal.oneLine_significant _) _

namespace Value

/-- Neither the printed text of the value nor its literal has a line feed. -/
structure OneLine (v : Value) : Prop where
  display : Text.OneLine v.display
  literal : Text.OneLine v.literal

/-- Quotes around a text make no second line. -/
theorem OneLine.of_display {v : Value} (h : Text.OneLine v.display) : v.OneLine := by
  refine ⟨h, ?_⟩
  cases v with
  | string text | raw text =>
    have htext : Text.OneLine text := h
    simp [Value.literal, text?, htext]
  | _ => exact h

theorem oneLine_number (n : Number) : (number n).OneLine := .of_display n.oneLine_display

theorem oneLine_boolText (b : Bool) : Text.OneLine (boolText b) := by cases b <;> decide

theorem oneLine_boolean (b : Bool) : (boolean b).OneLine := .of_display (oneLine_boolText b)

theorem oneLine_null : null.OneLine := .of_display (by decide)

theorem oneLine_undefined : undefined.OneLine := .of_display (by decide)

end Value

/-- Joining two texts of one line, or reckoning with numbers, gives a text of one line. -/
theorem Arithmetic.oneLine_apply (op : Arithmetic) {a b : Value} (ha : a.OneLine) (hb : b.OneLine) :
    (op.apply a b).OneLine := by
  unfold apply
  split
  · exact .of_display (ha.display.append hb.display)
  · exact Value.oneLine_number _

/-! ### Variables -/

namespace VariableTable

variable {table : VariableTable} {name : Text} {value : Value}

/-- No name and no value of the table has a line feed. -/
def OneLine (table : VariableTable) : Prop :=
  ∀ entry ∈ table.entries, Text.OneLine entry.1 ∧ entry.2.OneLine

theorem OneLine.get? (h : table.OneLine) (hget : table.get? name = some value) : value.OneLine := by
  rw [get?_eq_lookup, List.lookup_eq_some_iff] at hget
  obtain ⟨before, after, heq, _⟩ := hget
  refine (h (name, value) ?_).2
  rw [heq]
  exact List.mem_append_right _ List.mem_cons_self

theorem OneLine.assign (h : table.OneLine) (hname : Text.OneLine name) (hvalue : value.OneLine) :
    (table.assign name value).OneLine := by
  intro entry hentry
  rcases mem_entries_assign hentry with hold | rfl
  · exact h entry hold
  · exact ⟨hname, hvalue⟩

theorem OneLine.assignAll {pairs : List (Text × Value)}
    (hpairs : ∀ pair ∈ pairs, Text.OneLine pair.1 ∧ pair.2.OneLine) (h : table.OneLine)
    (changes : Changes) :
    (assignAll table changes pairs).1.OneLine := by
  induction pairs generalizing table changes with
  | nil => exact h
  | cons pair rest ih =>
    obtain ⟨hname, hvalue⟩ := hpairs pair List.mem_cons_self
    exact ih (fun pair hmem => hpairs pair (List.mem_cons_of_mem _ hmem)) (h.assign hname hvalue) _

end VariableTable

/-! ### Expressions -/

namespace Expression

variable {table : VariableTable} {text : Text} {value : Value}

theorem oneLine_literal? (h : Text.OneLine text) (hvalue : literal? text = some value) :
    value.OneLine := by
  unfold literal? at hvalue
  split at hvalue
  · cases hvalue
    exact Value.oneLine_number _
  · obtain ⟨inner, hinner, rfl⟩ := Option.map_eq_some_iff.mp hvalue
    exact .of_display (h.part (infix_of_quotedLiteral? hinner))

theorem oneLine_keyword? (hvalue : keyword? text = some value) : value.OneLine := by
  unfold keyword? at hvalue
  split at hvalue
  · cases hvalue
    exact Value.oneLine_boolean true
  · split at hvalue
    · cases hvalue
      exact Value.oneLine_boolean false
    · split at hvalue
      · cases hvalue
        exact Value.oneLine_null
      · split at hvalue
        · cases hvalue
          exact Value.oneLine_undefined
        · cases hvalue

theorem oneLine_resolve (htable : table.OneLine) (h : Text.OneLine text) :
    (resolve table text).OneLine := by
  have htrim : Text.OneLine text.trim := h.part (Text.infix_trim text)
  simp only [resolve]
  cases hliteral : literal? text.trim with
  | some value => exact oneLine_literal? htrim hliteral
  | none =>
    cases hget : table.get? text.trim with
    | some value => exact htable.get? hget
    | none => exact .of_display htrim

/-- The value of an expression of one line, by whichever rule it is found. -/
theorem oneLine_evaluate (htable : table.OneLine) (h : Text.OneLine text) {line : Nat}
    (hvalue : evaluate table line text = .ok value) : value.OneLine := by
  have htrim : Text.OneLine text.trim := h.part (Text.infix_trim text)
  simp only [evaluate] at hvalue
  split at hvalue
  · -- a literal or a keyword
    rename_i value' hmeaning
    cases hvalue
    rw [Option.orElse_eq_orElse, Option.orElse_eq_or, Option.or_eq_some_iff] at hmeaning
    rcases hmeaning with hliteral | ⟨_, hkeyword⟩
    · exact oneLine_literal? htrim hliteral
    · exact oneLine_keyword? hkeyword
  · split at hvalue
    · -- a name alone
      split at hvalue
      · rename_i hget
        cases hvalue
        exact htable.get? hget
      · cases hvalue
    · split at hvalue
      · -- the operands of an operator are parts of the expression
        rename_i left op right hsplit
        cases hvalue
        obtain ⟨hleft, hright⟩ := infix_of_splitArithmetic? hsplit
        exact op.oneLine_apply (oneLine_resolve htable (htrim.part hleft))
          (oneLine_resolve htable (htrim.part hright))
      · split at hvalue
        · cases hvalue
          exact Value.oneLine_boolean _
        · cases hvalue
          exact .of_display htrim

end Expression

/-! ### States and snapshots -/

/-- No text of the variable has a line feed. -/
structure Variable.OneLine (v : Variable) : Prop where
  name : Text.OneLine v.name
  value : v.value.OneLine
  scope : Text.OneLine v.scope

/-- No text of the frame has a line feed. -/
structure Frame.OneLine (frame : Frame) : Prop where
  function : Text.OneLine frame.function
  parameters : ∀ v ∈ frame.parameters, v.OneLine
  returned : ∀ value, frame.returned = some value → value.OneLine

/-- No text of the entry has a line feed. -/
structure Entry.OneLine (e : Entry) : Prop where
  details : Text.OneLine e.details
  callStack : ∀ frame ∈ e.callStack, frame.OneLine
  bindings : ∀ v ∈ e.bindings, v.OneLine

/-- No text of the snapshot has a line feed. -/
structure Snapshot.OneLine (s : Snapshot) : Prop where
  bindings : ∀ v ∈ s.bindings, v.OneLine
  callStack : ∀ frame ∈ s.callStack, frame.OneLine
  log : ∀ e ∈ s.log, e.OneLine
  output : ∀ text ∈ s.output, Text.OneLine text
  fault : ∀ message, s.faultMessage? = some message → Text.OneLine message

/-- No text of the state has a line feed. -/
structure RunState.OneLine (state : RunState) : Prop where
  bindings : state.bindings.OneLine
  stack : ∀ frame ∈ state.stack, frame.OneLine
  output : ∀ text ∈ state.output, Text.OneLine text
  log : ∀ e ∈ state.log, e.OneLine

/-- No text of the effect has a line feed. -/
structure Effect.OneLine (effect : Effect) : Prop where
  state : effect.state.OneLine
  details : Text.OneLine effect.details

/-- No name of a function or of a parameter has a line feed. -/
def DeclarationTable.OneLine (table : DeclarationTable) : Prop :=
  ∀ d ∈ table.declarations, Text.OneLine d.name ∧ ∀ parameter ∈ d.parameters, Text.OneLine parameter

theorem RunState.oneLine_start : RunState.start.OneLine := by
  constructor <;> intro _ hmem <;> cases hmem

/-- The name of the current scope is that of a function, or fixed. -/
theorem CallStack.oneLine_scope {stack : CallStack} (h : ∀ frame ∈ stack, frame.OneLine) :
    Text.OneLine stack.scope := by
  unfold scope current?
  cases hlast : stack.getLast? with
  | none => decide
  | some frame => exact (h frame (List.mem_of_getLast? hlast)).function

theorem VariableTable.OneLine.view {table : VariableTable} (h : table.OneLine) {scope : Text}
    (hscope : Text.OneLine scope) (changes : Changes) :
    ∀ v ∈ table.view scope changes, v.OneLine := by
  intro v hv
  obtain ⟨entry, hentry, rfl⟩ := List.mem_map.mp hv
  exact ⟨(h entry hentry).1, (h entry hentry).2, hscope⟩

/-! ### Statements -/

/-- The pairs of a call have the names of the parameters and the values of the arguments. -/
theorem oneLine_bindArguments {parameters : List Text} {values : List Value}
    (hparameters : ∀ parameter ∈ parameters, Text.OneLine parameter)
    (hvalues : ∀ value ∈ values, value.OneLine) :
    ∀ pair ∈ bindArguments parameters values, Text.OneLine pair.1 ∧ pair.2.OneLine := by
  induction parameters generalizing values with
  | nil =>
    intro pair hpair
    cases hpair
  | cons name rest ih =>
    have hname := hparameters name List.mem_cons_self
    have hrest : ∀ parameter ∈ rest, Text.OneLine parameter := fun parameter hmem =>
      hparameters parameter (List.mem_cons_of_mem _ hmem)
    intro pair hpair
    cases values with
    | nil =>
      -- an argument is missing
      rcases List.mem_cons.mp hpair with rfl | hpair
      · exact ⟨hname, Value.oneLine_undefined⟩
      · exact ih hrest hvalues pair hpair
    | cons value values =>
      rcases List.mem_cons.mp hpair with rfl | hpair
      · exact ⟨hname, hvalues value List.mem_cons_self⟩
      · exact ih hrest (fun value hmem => hvalues value (List.mem_cons_of_mem _ hmem)) pair hpair

/-- Every result of a list is that of one of its elements. -/
theorem mapM_ok_mem {α β ε : Type} {f : α → Except ε β} {xs : List α} {ys : List β}
    (h : xs.mapM f = .ok ys) {y : β} (hy : y ∈ ys) : ∃ x ∈ xs, f x = .ok y := by
  obtain ⟨i, hi⟩ := List.getElem?_of_mem hy
  have hplace := mapM_ok_getElem? h i
  rw [hi, Option.map_some, Option.map_eq_some_iff] at hplace
  obtain ⟨x, hx, hfx⟩ := hplace
  exact ⟨x, List.mem_of_getElem? hx, hfx⟩

/-- The parameters of a called function have names of one line. -/
theorem DeclarationTable.OneLine.targets {table : DeclarationTable}
    (htable : table.OneLine) (name : Text) (arguments : List Text) :
    ∀ parameter ∈ (Statement.call name arguments).targets table, Text.OneLine parameter := by
  unfold Statement.targets
  simp only
  cases hd : table.get? name with
  | none => simp
  | some d => exact (htable d (List.mem_of_find?_eq_some hd)).2

section statements
variable {table : DeclarationTable} {state : RunState} {line : Nat} {statement : Statement}
  {effect : Effect}

/-- What a call writes, the frame that it leaves and its details have no line feed. -/
theorem oneLine_executeCall (htable : table.OneLine) (hstate : state.OneLine) {name : Text}
    {arguments : List Text} (hname : Text.OneLine name)
    (harguments : ∀ argument ∈ arguments, Text.OneLine argument)
    (h : executeCall table state line name arguments = .ok effect) : effect.OneLine := by
  obtain ⟨values, hmap, h⟩ := bind_ok h
  have hvalues : ∀ value ∈ values, value.OneLine := by
    intro value hvalue
    obtain ⟨argument, hargument, heval⟩ := mapM_ok_mem hmap hvalue
    exact Expression.oneLine_evaluate hstate.bindings (harguments argument hargument) heval
  have hbound : ∀ pair ∈ bindArguments ((Statement.call name arguments).targets table) values,
      Text.OneLine pair.1 ∧ pair.2.OneLine :=
    oneLine_bindArguments (htable.targets name arguments) hvalues
  cases h
  refine ⟨⟨hstate.bindings.assignAll hbound _, ?_, hstate.output, hstate.log⟩, ?_⟩
  · intro frame hframe
    rcases List.mem_append.mp hframe with hframe | hframe
    · exact hstate.stack frame hframe
    · -- the frame of the call has copies of what is bound
      rw [List.mem_singleton.mp hframe]
      refine ⟨hname, ?_, by simp⟩
      intro v hv
      obtain ⟨pair, hpair, rfl⟩ := List.mem_map.mp hv
      exact ⟨(hbound pair hpair).1, (hbound pair hpair).2, hname⟩
  · have hliterals : Text.OneLine (List.intercalate ", ".toList (values.map Value.literal)) := by
      refine Text.oneLine_intercalate (by decide) ?_
      intro text htext
      obtain ⟨value, hvalue, rfl⟩ := List.mem_map.mp htext
      exact (hvalues value hvalue).literal
    exact (hname.append (Text.oneLine_cons.mpr ⟨by decide, hliterals⟩)).append (by decide)

variable (htexts : ∀ text ∈ statement.texts, Text.OneLine text)
include htexts

/-- The message of a statement that fails names a part of it. -/
theorem oneLine_execute_error {fault : Fault}
    (h : execute table state line statement = .error fault) :
    Text.OneLine fault.message := by
  obtain ⟨text, htext, rfl⟩ := execute_error h
  have hname : Text.OneLine text.trim := (htexts text htext).part (Text.infix_trim text)
  exact (((Text.OneLine.append (by decide) hname).append (by decide)).append
    (Text.oneLine_ofNat line)).append (by decide)

/-- The effect of a statement of one line in a state of one line. -/
theorem oneLine_execute (htable : table.OneLine) (hstate : state.OneLine)
    (h : execute table state line statement = .ok effect) : effect.OneLine := by
  cases statement with
  | assignment name right =>
    obtain ⟨value, hvalue, h⟩ := bind_ok h
    have hname : Text.OneLine name := htexts name (by simp [Statement.texts])
    have hright : Text.OneLine right := htexts right (by simp [Statement.texts])
    have hone := Expression.oneLine_evaluate hstate.bindings hright hvalue
    cases h
    refine ⟨⟨hstate.bindings.assign hname hone, hstate.stack, hstate.output, hstate.log⟩, ?_⟩
    exact (hname.append (by decide)).append hone.literal
  | output right =>
    obtain ⟨value, hvalue, h⟩ := bind_ok h
    have hright : Text.OneLine right := htexts right (by simp [Statement.texts])
    have hone := Expression.oneLine_evaluate hstate.bindings hright hvalue
    cases h
    refine ⟨⟨hstate.bindings, hstate.stack, ?_, hstate.log⟩, ?_⟩
    · intro text htext
      rcases List.mem_append.mp htext with htext | htext
      · exact hstate.output text htext
      · rw [List.mem_singleton.mp htext]
        exact hone.display
    · exact (Text.OneLine.append (by decide) hone.literal).append (by decide)
  | call name arguments =>
    exact oneLine_executeCall htable hstate (htexts name List.mem_cons_self)
      (fun argument hmem => htexts argument (List.mem_cons_of_mem _ hmem)) h
  | condition right =>
    obtain ⟨value, hvalue, h⟩ := bind_ok h
    have hright : Text.OneLine right := htexts right (by simp [Statement.texts])
    cases h
    refine ⟨hstate, ?_⟩
    exact ((Text.OneLine.append (by decide) hright).append (by decide)).append
      (Value.oneLine_boolText _)
  | loop clause =>
    have hclause : Text.OneLine clause := htexts clause (by simp [Statement.texts])
    cases h
    exact ⟨hstate, (Text.OneLine.append (by decide) hclause).append (by decide)⟩
  | expression text =>
    cases h
    exact ⟨hstate, htexts text (by simp [Statement.texts])⟩

end statements

/-! ### Runs -/

theorem Fault.oneLine_budgetExceeded (limit : Nat) : Text.OneLine (budgetExceeded limit).message :=
  (Text.OneLine.append (by decide) (Text.oneLine_ofNat limit)).append (by decide)

namespace Runner

section steps
variable (r : Runner) {state : RunState} (n : Nat) {line : Nat} {statement : Statement}
  {effect : Effect}

/-- A step that does not fail adds an entry of one line to the log. -/
theorem oneLine_succeed (h : effect.OneLine) (isLast : Bool) :
    (r.succeed n line isLast effect).state.OneLine ∧
      (r.succeed n line isLast effect).snapshot.OneLine := by
  have hview := h.state.bindings.view (CallStack.oneLine_scope h.state.stack) effect.changes
  have hlog : ∀ e ∈ effect.state.log ++ [r.entry n line effect], e.OneLine := by
    intro e he
    rcases List.mem_append.mp he with he | he
    · exact h.state.log e he
    · rw [List.mem_singleton.mp he]
      exact ⟨h.details, h.state.stack, hview⟩
  refine ⟨⟨h.state.bindings, h.state.stack, h.state.output, hlog⟩, hview, h.state.stack, hlog,
    h.state.output, ?_⟩
  intro message hmessage
  rw [Snapshot.faultMessage?, succeed_fault] at hmessage
  split at hmessage
  · cases hmessage
    exact Fault.oneLine_budgetExceeded _
  · cases hmessage

/-- One step keeps all texts to one line, whether it fails or not. -/
theorem oneLine_step (htable : r.table.OneLine) (hstate : state.OneLine)
    (htexts : ∀ text ∈ statement.texts, Text.OneLine text) (isLast : Bool) :
    (r.step state n isLast line statement).state.OneLine ∧
      (r.step state n isLast line statement).snapshot.OneLine := by
  unfold Runner.step
  cases hexec : execute r.table state line statement with
  | ok effect => exact r.oneLine_succeed n (oneLine_execute htexts htable hstate hexec) isLast
  | error fault =>
    -- the state stays, and the message is all that is new
    refine ⟨hstate, hstate.bindings.view (CallStack.oneLine_scope hstate.stack) _,
      hstate.stack, hstate.log, hstate.output, ?_⟩
    intro message hmessage
    cases hmessage
    exact oneLine_execute_error htexts hexec

end steps

/-- Every snapshot of a run whose lines are of one line is so. -/
theorem Run.oneLine {r : Runner} {n : Nat} {lines : List (Nat × Statement)} {state : RunState}
    {steps : List Step} (h : r.Run n lines state steps) (htable : r.table.OneLine)
    (hlines : ∀ pair ∈ lines, ∀ text ∈ pair.2.texts, Text.OneLine text) (hstate : state.OneLine) :
    ∀ s ∈ steps, s.snapshot.OneLine := by
  induction steps generalizing n lines state with
  | nil => simp
  | cons s later ih =>
    obtain ⟨line, statement, rest, rfl, hs, hlater⟩ := h.head
    obtain ⟨hstate', hsnapshot⟩ : s.state.OneLine ∧ s.snapshot.OneLine := by
      rw [hs]
      exact r.oneLine_step n htable hstate (hlines _ List.mem_cons_self) _
    intro t ht
    rcases List.mem_cons.mp ht with rfl | ht
    · exact hsnapshot
    · exact ih (hlater (List.ne_nil_of_mem ht))
        (fun pair hpair => hlines pair (List.mem_cons_of_mem _ hpair))
        hstate' t ht

end Runner

/-! ### Scripts -/

namespace Listing

/-- No line of a listing has a line feed. -/
theorem oneLine_of_mem {source line : Text} (h : line ∈ (ofText source).lines) :
    Text.OneLine line :=
  (isNormal_of_mem h).2.2

/-- Nor has the name or a parameter of a header. -/
theorem oneLine_headerAt? {source : Text} {number : Nat} {header : Header}
    (h : (ofText source).headerAt? number = some header) :
    Text.OneLine header.name ∧ ∀ parameter ∈ header.parameters, Text.OneLine parameter := by
  obtain ⟨line, hline, hheader⟩ := Option.bind_eq_some_iff.mp h
  have hone : Text.OneLine line := by
    cases number with
    | zero => cases hline
    | succ number => exact oneLine_of_mem (List.mem_of_getElem? hline)
  obtain ⟨hname, hparameters⟩ := Header.infix_of_header hheader
  exact ⟨hone.part hname, fun parameter hmem => hone.part (hparameters parameter hmem)⟩

end Listing

namespace Recording

variable {source : Text} {table : DeclarationTable}

theorem oneLine_table (hbuild : DeclarationTable.ofListing (.ofText source) = .ok table) :
    table.OneLine := by
  intro d hd
  obtain ⟨number, header, hlast, last, _, rfl⟩ :=
    ((Listing.collects_of_ofListing hbuild).mem_iff d).mp hd
  exact Listing.oneLine_headerAt? hlast.2.1

theorem oneLine_rejected {fault : DeclarationFault}
    (hbuild : DeclarationTable.ofListing (.ofText source) = .error fault) :
    Text.OneLine fault.message := by
  obtain ⟨number, header, hheader, hfaults, _⟩ := Listing.faults_of_ofListing hbuild
  have hname := (Listing.oneLine_headerAt? hheader).1
  rcases hfaults with ⟨_, rfl⟩ | ⟨_, _, rfl⟩
  all_goals
    exact (((Text.OneLine.append (by decide) hname).append (by decide)).append
      (Text.oneLine_ofNat number)).append (by decide)

theorem oneLine_executable {pair : Nat × Statement}
    (hpair : pair ∈ Runner.executable table (.ofText source)) :
    ∀ text ∈ pair.2.texts, Text.OneLine text := by
  rw [Runner.executable_eq] at hpair
  obtain ⟨numbered, hnumbered, rfl⟩ := List.mem_map.mp hpair
  have hline : numbered.1 ∈ (Listing.ofText source).lines :=
    List.fst_mem_of_mem_zipIdx (List.mem_filter.mp hnumbered).1
  intro text htext
  exact (Listing.oneLine_of_mem hline).part (Statement.infix_of_mem_texts htext)

/-- No snapshot of any script has a line feed in any of its texts. -/
theorem oneLine_snapshot (settings : Settings) (clock : Nat → Instant) (source : Text) :
    ∀ s ∈ (historyOf settings clock source).snapshots, s.OneLine := by
  have hinitial : Snapshot.initial.OneLine := by
    constructor <;> intro _ hmem <;> cases hmem
  intro s hs
  rcases List.mem_cons.mp hs with rfl | hs
  · exact hinitial
  · rw [later_eq, recorded] at hs
    cases hbuild : DeclarationTable.ofListing (.ofText source) with
    | error fault =>
      rw [hbuild] at hs
      rw [List.mem_singleton.mp hs]
      refine { hinitial with fault := ?_ }
      intro message hmessage
      cases hmessage
      exact oneLine_rejected hbuild
    | ok table =>
      rw [hbuild] at hs
      obtain ⟨step, hstep, rfl⟩ := List.mem_map.mp hs
      exact run_stepsOf.oneLine (oneLine_table hbuild) (fun _ => oneLine_executable)
        RunState.oneLine_start
        step hstep

end Recording
end Stepwise
