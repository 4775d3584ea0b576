import Mathlib.Data.List.Forall2
import Stepwise.Proofs.Changes
import Stepwise.Proofs.Accumulation
import Stepwise.Proofs.StructuralLines

/-!
# Calls and their frames

A call of a declared function binds the parameters in the table of all variables and leaves a frame
with copies of them. No frame is ever taken away, so the frames of a snapshot and the calls in its
log correspond one to one:

- `execute_calls`: a statement leaves a frame exactly when it is a call, and the frame holds what
  the call writes,
- `lookup_reverse_of_last`: of the writes to one name the last one counts, which is why a repeated
  parameter has the value of its last occurrence only,
- `RecordsCall` is all that a frame and a log entry of one call have to do with each other and with
  the snapshots before and after it; `recordsCall_succ` is one step of a run, `recordsCalls_get` the
  whole run,
- `frames_record_calls` adds the scopes of the variables.
-/

namespace Stepwise

/-! ### Arguments -/

/-- The value of an argument on line `line`; a missing one is undefined. -/
def argumentValue (bindings : VariableTable) (line : Nat) : Option Text → Except Fault Value
  | some argument => Expression.evaluate bindings line argument
  | none => .ok .undefined

/-- When all elements of a list have results, these stand at the places of the elements. -/
theorem mapM_ok_getElem? {α β ε : Type} {f : α → Except ε β} {xs : List α} {ys : List β}
    (h : xs.mapM f = .ok ys) (i : Nat) : xs[i]?.map f = ys[i]?.map .ok := by
  induction xs generalizing ys i with
  | nil =>
    cases h
    rfl
  | cons x xs ih =>
    rw [List.mapM_cons] at h
    obtain ⟨y, hy, h⟩ := bind_ok h
    obtain ⟨rest, hrest, h⟩ := bind_ok h
    cases h
    cases i with
    | zero => simp [hy]
    | succ i => simpa using ih hrest i

/-- A parameter is bound to the argument at its own place. -/
theorem getElem?_bindArguments (parameters : List Text) (values : List Value) (i : Nat) :
    (bindArguments parameters values)[i]? =
      parameters[i]?.map fun name => (name, values[i]?.getD .undefined) := by
  induction parameters generalizing values i with
  | nil => rfl
  | cons name parameters ih =>
    -- the values may run out before the parameters do
    cases values with
    | nil =>
      cases i with
      | zero => rfl
      | succ i => simpa [bindArguments] using ih [] i
    | cons value values =>
      cases i with
      | zero => rfl
      | succ i => simpa [bindArguments] using ih values i

/-- The value that is bound to a parameter is that of its argument. -/
theorem argumentValue_of_bound {bindings : VariableTable} {line i : Nat}
    {arguments parameters : List Text} {values : List Value}
    (h : arguments.mapM (Expression.evaluate bindings line) = .ok values) {name : Text}
    {value : Value} (hbound : (bindArguments parameters values)[i]? = some (name, value)) :
    argumentValue bindings line arguments[i]? = .ok value := by
  rw [getElem?_bindArguments, Option.map_eq_some_iff] at hbound
  obtain ⟨_, _, heq⟩ := hbound
  obtain ⟨rfl, rfl⟩ := Prod.mk.inj heq
  have hplace := mapM_ok_getElem? h i
  cases hargument : arguments[i]? with
  | none =>
    rw [hargument, Option.map_none, eq_comm, Option.map_eq_none_iff] at hplace
    rw [hplace]
    rfl
  | some argument =>
    rw [hargument, Option.map_some, eq_comm, Option.map_eq_some_iff] at hplace
    obtain ⟨value, hvalue, heq⟩ := hplace
    rw [hvalue]
    exact heq.symm

/-! ### Single calls -/

/-- The names and values that a frame has copies of. -/
def Frame.pairs (frame : Frame) : List (Text × Value) :=
  frame.parameters.map fun v => (v.name, v.value)

section statements
variable {table : DeclarationTable} {state : RunState} {line : Nat} {statement : Statement}
  {effect : Effect}

/-- The effect is that of a call of `name` on line `number`, which leaves `frame`. -/
structure Effect.Calls (effect : Effect) (table : DeclarationTable) (state : RunState)
    (number : Nat) (name : Text) (arguments : List Text) (frame : Frame) : Prop where
  action : effect.action = .functionCall
  stack : effect.state.stack = state.stack ++ [frame]
  function : frame.function = name
  line : frame.line = number
  returned : frame.returned = none
  /-- The frame has the parameters with the values of the arguments. -/
  pairs : ∃ values, arguments.mapM (Expression.evaluate state.bindings number) = .ok values ∧
    frame.pairs = bindArguments ((Statement.call name arguments).targets table) values
  /-- These are what the call writes. -/
  writes : (Statement.call name arguments).writes table state.bindings number = frame.pairs

/-- A statement leaves a frame when it is a call. -/
theorem execute_calls (h : execute table state line statement = .ok effect) :
    (effect.action ≠ .functionCall ∧ effect.state.stack = state.stack) ∨
    ∃ name arguments frame, statement = .call name arguments ∧
      effect.Calls table state line name arguments frame := by
  cases statement with
  | call name arguments =>
    obtain ⟨values, hvalues, h⟩ := bind_ok h
    cases h
    -- the copies are shown with flags, which change neither names nor values
    have hpairs : ∀ bound : List (Text × Value), ∀ changes : Changes,
        ((bound.map fun pair => Variable.ofChanges pair.1 pair.2 name changes).map
          fun v => (v.name, v.value)) = bound := by
      intro bound changes
      simp [Variable.ofChanges, Function.comp_def]
    refine .inr ⟨name, arguments, _, rfl, rfl, rfl, rfl, rfl, rfl, ⟨values, hvalues, hpairs _ _⟩,
      ?_⟩
    simp only [Statement.writes, hvalues]
    exact (hpairs _ _).symm
  | assignment name expression =>
    obtain ⟨value, _, h⟩ := bind_ok h
    cases h
    exact .inl ⟨Action.noConfusion, rfl⟩
  | output expression =>
    obtain ⟨value, _, h⟩ := bind_ok h
    cases h
    exact .inl ⟨Action.noConfusion, rfl⟩
  | condition expression =>
    obtain ⟨value, _, h⟩ := bind_ok h
    cases h
    exact .inl ⟨Action.noConfusion, rfl⟩
  | loop clause =>
    cases h
    exact .inl ⟨Action.noConfusion, rfl⟩
  | expression text =>
    cases h
    exact .inl ⟨Action.noConfusion, rfl⟩

end statements

/-- What is not the first choice is one of the others. -/
theorem getD_of_or {α : Type} {first others : Option α} {last a : α}
    (h : (first.or others).getD last = a) (hne : first ≠ some a) : others.getD last = a := by
  cases first with
  | none => exact h
  | some b =>
    cases h
    exact absurd rfl hne

/-- A line is a call only of a declared function, with the arguments between its parentheses. -/
theorem Statement.ofLine_eq_call {table : DeclarationTable} {line name : Text}
    {arguments : List Text} (h : ofLine table line = .call name arguments) :
    ∃ d inner, table.get? name = some d ∧ line.callShape? = some (name, inner) ∧
      arguments = splitArguments inner := by
  simp only [ofLine, Option.orElse_eq_orElse, Option.orElse_eq_or] at h
  have hmap : ∀ {α : Type} {o : Option α} {f : α → Statement}, (∀ a, f a ≠ .call name arguments) →
      o.map f ≠ some (.call name arguments) := by
    intro α o f hf heq
    obtain ⟨a, _, ha⟩ := Option.map_eq_some_iff.mp heq
    exact hf a ha
  have hnested : nestedOutput? line ≠ some (.call name arguments) := by
    intro heq
    obtain ⟨⟨name', inner⟩, _, houtput⟩ := Option.bind_eq_some_iff.mp heq
    simp only at houtput
    split at houtput
    · exact hmap (fun _ => Statement.noConfusion) houtput
    · cases houtput
  -- the shapes before a call and after it give other statements
  replace h := getD_of_or (getD_of_or h (hmap fun _ => Statement.noConfusion)) hnested
  by_cases hcall : call? table line = some (.call name arguments)
  · obtain ⟨⟨name', inner⟩, hshape, hcall⟩ := Option.bind_eq_some_iff.mp hcall
    simp only at hcall
    split at hcall
    · rename_i hcontains
      cases hcall
      obtain ⟨d, hd⟩ := Option.isSome_iff_exists.mp hcontains
      exact ⟨d, inner, hd, hshape, rfl⟩
    · cases hcall
  · replace h := getD_of_or (getD_of_or (getD_of_or h hcall) (hmap fun _ => Statement.noConfusion))
      (hmap fun _ => Statement.noConfusion)
    rw [← Option.or_none (o := loop? line)] at h
    cases getD_of_or h (hmap fun _ => Statement.noConfusion)

/-- Of the pairs with one name, the last one is found first from the end. -/
theorem lookup_reverse_of_last {pairs : List (Text × Value)} {i : Nat} {name : Text} {value : Value}
    (h : pairs[i]? = some (name, value))
    (hlast : ∀ j pair, i < j → pairs[j]? = some pair → pair.1 ≠ name) :
    pairs.reverse.lookup name = some value := by
  obtain ⟨hi, hget⟩ := List.getElem?_eq_some_iff.mp h
  have hpairs : pairs.reverse = (pairs.drop (i + 1)).reverse ++ (name, value) ::
      (pairs.take i).reverse := by
    calc pairs.reverse
      _ = (pairs.take i ++ (name, value) :: pairs.drop (i + 1)).reverse := by
          rw [← hget, ← List.drop_eq_getElem_cons hi, List.take_append_drop]
      _ = _ := by simp
  rw [hpairs, List.lookup_eq_some_iff]
  refine ⟨_, _, rfl, ?_⟩
  intro pair hpair
  obtain ⟨j, hj⟩ := List.mem_iff_getElem?.mp (List.mem_reverse.mp hpair)
  rw [List.getElem?_drop] at hj
  have hne := hlast (i + 1 + j) pair (by omega) hj
  simpa using hne.symm

/-! ### Frames in snapshots -/

/-- The value of a variable in a snapshot. -/
def Snapshot.value? (s : Snapshot) (name : Text) : Option Value :=
  (s.lookup? name).map Variable.value

/-- A snapshot has the variables of the table that it was made from, with flags for the changes. -/
theorem Snapshot.lookup?_eq {s : Snapshot} {table : VariableTable} {scope : Text}
    {changes : Changes} (h : s.bindings = table.view scope changes) (name : Text) :
    s.lookup? name = (table.get? name).map fun value => .ofChanges name value scope changes := by
  unfold lookup?
  rw [h, VariableTable.get?_eq_lookup, VariableTable.view]
  induction table.entries with
  | nil => rfl
  | cons entry rest ih =>
    obtain ⟨name', value'⟩ := entry
    rw [List.map_cons, List.find?_cons, List.lookup_cons]
    by_cases heq : name' = name
    · simp [Variable.ofChanges, heq]
    · have hne : (name == name') = false := by simpa using Ne.symm heq
      have hne' : (name' == name) = false := by simpa using heq
      simp only [Variable.ofChanges, hne, hne']
      exact ih

/-- A snapshot has the values of the state that it shows. -/
theorem Snapshot.Shows.value?_eq {s : Snapshot} {state : RunState} (h : s.Shows state)
    (name : Text) :
    s.value? name = state.bindings.get? name := by
  obtain ⟨changes, hbindings⟩ := h.bindings
  rw [value?, lookup?_eq hbindings, Option.map_map]
  cases state.bindings.get? name <;> rfl

/-- The frame has the parameters of a call with the given arguments, and the variables of the two
    snapshots are those before and after it. -/
structure Frame.Binds (frame : Frame) (arguments : List Text) (before after : Snapshot) : Prop where
  /-- A parameter has the value of the argument at its place, in the variables before the call. -/
  value : ∀ (i : Nat) (v : Variable), frame.parameters[i]? = some v →
    argumentValue (RunState.ofSnapshot before).bindings frame.line arguments[i]? = .ok v.value
  /-- After the call the variable of a parameter has its value, if no later parameter has the same
      name. -/
  bound : ∀ (i : Nat) (v : Variable), frame.parameters[i]? = some v →
    (∀ (j : Nat) (u : Variable), i < j → frame.parameters[j]? = some u → u.name ≠ v.name) →
    after.value? v.name = some v.value
  /-- All other variables are as they were. -/
  kept : ∀ name, name ∉ frame.parameters.map Variable.name → after.value? name = before.value? name

/-- A frame with copies of what was written has the parameters of the call. -/
theorem Frame.binds_of_writes {frame : Frame} {before after : Snapshot}
    {arguments parameters : List Text} {values : List Value}
    (hvalues : arguments.mapM
      (Expression.evaluate (RunState.ofSnapshot before).bindings frame.line) = .ok values)
    (hpairs : frame.pairs = bindArguments parameters values)
    (hwritten : ∀ name, after.value? name =
      (frame.pairs.reverse.lookup name).or (before.value? name)) :
    frame.Binds arguments before after where
  value i v hv := by
    have hpair : (bindArguments parameters values)[i]? = some (v.name, v.value) := by
      rw [← hpairs, pairs, List.getElem?_map, hv]
      rfl
    exact argumentValue_of_bound hvalues hpair
  bound i v hv hlast := by
    have hpair : frame.pairs[i]? = some (v.name, v.value) := by
      rw [pairs, List.getElem?_map, hv]
      rfl
    rw [hwritten, lookup_reverse_of_last hpair]
    · rfl
    · intro j pair hlt hj
      rw [pairs, List.getElem?_map, Option.map_eq_some_iff] at hj
      obtain ⟨u, hu, rfl⟩ := hj
      exact hlast j u hlt hu
  kept name hname := by
    have hnone : frame.pairs.reverse.lookup name = none := by
      rw [List.lookup_eq_none_iff]
      intro pair hpair
      obtain ⟨v, hv, rfl⟩ := List.mem_map.mp (List.mem_reverse.mp hpair)
      have hne : v.name ≠ name := fun heq => hname (List.mem_map.mpr ⟨v, hv, heq⟩)
      simpa using hne.symm
    rw [hwritten, hnone, Option.none_or]

/-- The frame and the log entry belong to one call of the run of `source` with the given history. -/
structure RecordsCall (source : Text) (history : History) (frame : Frame) (e : Entry) : Prop where
  /-- The entry is that of a step of the history. -/
  step_le : 1 ≤ e.step ∧ e.step ≤ history.totalSteps
  entry : Snapshot.lastEntry? (history.get e.step) = some e
  line : frame.line = e.line
  returned : frame.returned = none
  /-- The function is declared, and the parameters are those of its last declaration. -/
  declared : ∃ number header,
    (Listing.ofText source).IsLast (Listing.ofText source).size number header ∧
    header.name = frame.function ∧ header.parameters = frame.parameters.map Variable.name
  /-- The arguments are those of the line. -/
  binds : ∃ text inner, (Listing.ofText source).get? e.line = some text ∧
    text.callShape? = some (frame.function, inner) ∧
    frame.Binds (Statement.splitArguments inner) (history.get (e.step - 1 : Nat))
      (history.get e.step)

/-- The scope of a variable is that of the snapshot's last call. -/
theorem Snapshot.Shows.scope_eq {s : Snapshot} {state : RunState} (h : s.Shows state) {v : Variable}
    (hv : v ∈ s.bindings) : v.scope = CallStack.scope s.callStack := by
  obtain ⟨changes, hbindings⟩ := h.bindings
  rw [hbindings] at hv
  obtain ⟨entry, _, rfl⟩ := List.mem_map.mp hv
  rw [h.callStack]
  rfl

namespace Recording

variable {settings : Settings} {clock : Nat → Instant} {source : Text} {table : DeclarationTable}

/-- The declaration that is looked up is that of the last header of the name. -/
theorem exists_isLast_of_get? (hbuild : DeclarationTable.ofListing (.ofText source) = .ok table)
    {name : Text} {d : Declaration} (hd : table.get? name = some d) :
    ∃ number header, (Listing.ofText source).IsLast (Listing.ofText source).size number header ∧
      header.name = name ∧ header.parameters = d.parameters := by
  have hcollects := Listing.collects_of_ofListing hbuild
  obtain ⟨hmem, hname⟩ := (DeclarationTable.get?_eq_some_iff hcollects.nodup name d).mp hd
  obtain ⟨number, header, hlast, last, _, rfl⟩ := (hcollects.mem_iff d).mp hmem
  exact ⟨number, header, hlast, hname, rfl⟩

section steps
variable (hbuild : DeclarationTable.ofListing (.ofText source) = .ok table) {k : Nat}
  (hk : k < (historyOf settings clock source).totalSteps)
include hbuild hk

/-- The frame that a step leaves and the entry that it adds to the log belong to one call. -/
theorem recordsCall_of_calls {text name : Text} {number : Nat} {effect : Effect}
    {arguments : List Text} {frame : Frame}
    (hexec : Executes settings clock source table k number text effect)
    (hcall : Statement.ofLine table text = .call name arguments)
    (hcalls : effect.Calls table (.ofSnapshot ((historyOf settings clock source).get k)) number
      name arguments frame) :
    RecordsCall source (historyOf settings clock source) frame
      ((runner settings clock table).entry (k + 1) number effect) := by
  obtain ⟨_, hfollows⟩ := execute_follows (hcall ▸ hexec.executed)
  obtain ⟨d, inner, hd, hshape, rfl⟩ := Statement.ofLine_eq_call hcall
  obtain ⟨values, hvalues, hpairs⟩ := hcalls.pairs
  have hshows : Snapshot.Shows _ _ := (shows_get hbuild (Nat.le_of_lt hk)).1
  refine ⟨⟨Nat.succ_pos k, hk⟩, hexec.lastEntry, hcalls.line, hcalls.returned, ?_, text, inner,
    hexec.line, ?_, ?_⟩
  · obtain ⟨number', header, hlast, hname, hparameters⟩ := exists_isLast_of_get? hbuild hd
    refine ⟨number', header, hlast, hname.trans hcalls.function.symm, ?_⟩
    have hnames := congrArg (List.map Prod.fst) hpairs
    rw [bindArguments_names, Frame.pairs, List.map_map] at hnames
    simp only [Statement.targets, hd] at hnames
    exact hparameters.trans hnames.symm
  · rw [hcalls.function]
    exact hshape
  · rw [← hcalls.line] at hvalues
    refine Frame.binds_of_writes hvalues hpairs ?_
    -- the table after the call is the one before it with the pairs of the frame written in order
    intro name'
    have htracks :=
      (tracks_assignAll (RunState.ofSnapshot ((historyOf settings clock source).get k)).bindings
        frame.pairs).value name'
    rw [← hcalls.writes, ← hfollows.bindings, hcalls.writes, ← hshows.value?_eq] at htracks
    exact (hexec.shows.value?_eq name').trans htracks

/-- One step adds a call to the log and its frame, or neither. -/
theorem recordsCall_succ :
    let before := (historyOf settings clock source).get k
    let after := (historyOf settings clock source).get (k + 1 : Nat)
    (after.callStack = before.callStack ∧
      after.log.filter (·.action = .functionCall) = before.log.filter (·.action = .functionCall)) ∨
    ∃ frame e, after.callStack = before.callStack ++ [frame] ∧
      after.log.filter (·.action = .functionCall) =
        before.log.filter (·.action = .functionCall) ++ [e] ∧
      RecordsCall source (historyOf settings clock source) frame e := by
  intro before after
  rcases executes_or_fails hbuild hk with ⟨number, text, effect, hexec⟩ | ⟨number, fault, hafter⟩
  · let e := (runner settings clock table).entry (k + 1) number effect
    have hstack : after.callStack = effect.state.stack := hexec.shows.callStack
    have haction : e.action = effect.action := rfl
    rw [show after.log = before.log ++ [e] from hexec.log, List.filter_append]
    rcases execute_calls hexec.executed with ⟨hother, hsame⟩ |
      ⟨name, arguments, frame, hcall, hcalls⟩
    · rw [List.filter_singleton, haction, decide_eq_false hother]
      exact .inl ⟨hstack.trans hsame, List.append_nil _⟩
    · rw [List.filter_singleton, haction, decide_eq_true hcalls.action]
      exact .inr ⟨frame, e, hstack.trans hcalls.stack, rfl,
        recordsCall_of_calls hbuild hk hexec hcall hcalls⟩
  · -- a step that fails adds nothing
    refine .inl ?_
    rw [show after = _ from hafter]
    exact ⟨rfl, rfl⟩

end steps

/-- The frames of a snapshot are those of the calls in its log, in order. -/
theorem recordsCalls_get {k : Nat} (hk : k ≤ (historyOf settings clock source).totalSteps) :
    List.Forall₂ (RecordsCall source (historyOf settings clock source))
      ((historyOf settings clock source).get k).callStack
      (((historyOf settings clock source).get k).log.filter (·.action = .functionCall)) := by
  induction k with
  | zero =>
    rw [Int.natCast_zero, History.get_zero]
    exact .nil
  | succ k ih =>
    cases hbuild : DeclarationTable.ofListing (.ofText source) with
    | error fault =>
      rw [(get_of_rejected hbuild hk).2]
      exact .nil
    | ok table =>
      rcases recordsCall_succ hbuild hk with ⟨hstack, hlog⟩ | ⟨frame, e, hstack, hlog, hrecords⟩
      · rw [hstack, hlog]
        exact ih (Nat.le_of_lt hk)
      · rw [hstack, hlog]
        exact List.rel_append (ih (Nat.le_of_lt hk)) (.cons hrecords .nil)

/-- The variables of a snapshot have the scope of its last call. -/
theorem scope_get {k : Nat} (hk : k ≤ (historyOf settings clock source).totalSteps) {v : Variable}
    (hv : v ∈ ((historyOf settings clock source).get k).bindings) :
    v.scope = CallStack.scope ((historyOf settings clock source).get k).callStack := by
  cases hbuild : DeclarationTable.ofListing (.ofText source) with
  | error fault =>
    -- a rejected script has no variables
    cases k with
    | zero => cases hv
    | succ k =>
      rw [(get_of_rejected hbuild hk).2] at hv
      cases hv
  | ok table => exact (shows_get hbuild hk).1.scope_eq hv

/-- Frames record calls. In every snapshot of every run there is one frame for each call in the log,
    in the same order, and it is never returned from. It names a declared function and has copies of
    the parameters of its last declaration, with the values that the arguments had before the call.
    The call has written these values to the variables of the parameters, the last one where a name
    is repeated, and to no other variable. All variables of a snapshot are shown in the scope of its
    last frame. -/
theorem frames_record_calls (settings : Settings) (clock : Nat → Instant) (source : Text) {k : Nat}
    (hk : k ≤ (ofSource settings clock source).history.totalSteps) :
    let history := (ofSource settings clock source).history
    List.Forall₂ (RecordsCall source history) (history.get k).callStack
      ((history.get k).log.filter (·.action = .functionCall)) ∧
    ∀ v ∈ (history.get k).bindings,
      v.scope = ((history.get k).callStack.getLast?.map Frame.function).getD "global".toList := by
  intro history
  refine ⟨recordsCalls_get hk, ?_⟩
  intro v hv
  rw [scope_get hk hv, CallStack.scope, CallStack.current?]
  cases (history.get k).callStack.getLast? with
  | none => rfl
  | some frame => rfl

/-- The function is declared again after the call, with a parameter twice and one more than there
    are arguments. -/
theorem frames_record_calls_redeclared :
    let source : Text :=
      "function f(p) \x7b\n\x7d\nx = true\nf(x, false)\nfunction f(a, b, a) \x7b\n\x7d"
    let history := (ofSource .default (fun _ => .epoch) source).history
    2 ≤ history.totalSteps ∧
      (history.get 2).callStack.map Frame.pairs =
        [[("a".toList, .boolean true), ("b".toList, .boolean false), ("a".toList, .undefined)]] ∧
      (history.get 2).value? "a" = some .undefined ∧
        (history.get 2).value? "x" = some (.boolean true) ∧
      List.Forall₂ (RecordsCall source history) (history.get 2).callStack
        ((history.get 2).log.filter (·.action = .functionCall)) ∧
      ∀ v ∈ (history.get 2).bindings,
        v.scope = ((history.get 2).callStack.getLast?.map Frame.function).getD "global".toList := by
  intro source history
  have hk : 2 ≤ history.totalSteps := by decide +kernel
  obtain ⟨hframes, hscopes⟩ := frames_record_calls .default (fun _ => .epoch) source hk
  exact ⟨hk, by decide +kernel, by decide +kernel, by decide +kernel, hframes, hscopes⟩

end Recording
end Stepwise
