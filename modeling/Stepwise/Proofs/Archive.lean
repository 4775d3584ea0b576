import Stepwise.Archive
import Stepwise.Proofs.Decoding

/-!
# Archives read back

The text of an archive is read as the archive, when every natural number in it fits into 64 bits
(`isStorable`). This holds for every library that reads back what it writes (`Library.ReadsBack`)
and that puts together what it decodes from decoded parts (`Library.Sound`). For each part of an
archive there are two lemmas:

- `conveys`: its document is decoded as the part again. The number of levels that the document needs
  is part of the statement; ten are enough for a whole archive,
- `yields`: what is decoded, from any text, can be stored.

The main result, `archive_reads_back`, puts them together: to be read back and to be storable are
the same, and whatever has been read once is read back from then on.
-/

namespace Stepwise

/-! ### What can be stored -/

/-- Whether the line of the call fits into 64 bits. -/
def Frame.isStorable (f : Frame) : Bool := f.line < Nat.pow 2 64

/-- Whether the line or the limit of a fault fits into 64 bits. -/
def Fault.isStorable : Fault → Bool
  | declaration fault => fault.line < Nat.pow 2 64
  | undefinedVariable _ line => line < Nat.pow 2 64
  | budgetExceeded limit => limit < Nat.pow 2 64

/-- Whether the numbers of a log entry fit into 64 bits. -/
def Entry.isStorable (e : Entry) : Bool :=
  e.step < Nat.pow 2 64 && e.line < Nat.pow 2 64 && e.callStack.all Frame.isStorable

/-- Whether the numbers of a snapshot fit into 64 bits. -/
def Snapshot.isStorable (s : Snapshot) : Bool :=
  s.callStack.all Frame.isStorable && s.log.all Entry.isStorable && s.line < Nat.pow 2 64 &&
    s.step < Nat.pow 2 64 && s.fault.all Fault.isStorable

/-- Whether the numbers of settings fit into 64 bits. -/
def Settings.isStorable (s : Settings) : Bool :=
  s.maxSteps < Nat.pow 2 64 && s.timeoutMs < Nat.pow 2 64 && s.memoryLimitMb < Nat.pow 2 64

/-- Whether all natural numbers of an archive fit into 64 bits. -/
def Archive.isStorable (a : Archive) : Bool :=
  a.snapshots.all Snapshot.isStorable && a.settings.isStorable

theorem Frame.isStorable_iff {f : Frame} : f.isStorable = true ↔ f.line < Nat.pow 2 64 :=
  decide_eq_true_iff

theorem Entry.isStorable_iff {e : Entry} : e.isStorable = true ↔
    e.step < Nat.pow 2 64 ∧ e.line < Nat.pow 2 64 ∧ ∀ f ∈ e.callStack, f.isStorable = true := by
  simp only [isStorable, Bool.and_eq_true, decide_eq_true_eq, List.all_eq_true, and_assoc]

theorem Snapshot.isStorable_iff {s : Snapshot} : s.isStorable = true ↔
    (∀ f ∈ s.callStack, f.isStorable = true) ∧ (∀ e ∈ s.log, e.isStorable = true) ∧
      s.line < Nat.pow 2 64 ∧ s.step < Nat.pow 2 64 ∧
      ∀ fault ∈ s.fault, fault.isStorable = true := by
  simp only [isStorable, Bool.and_eq_true, decide_eq_true_eq, List.all_eq_true, Option.all_eq_true,
    and_assoc, Option.mem_def]

theorem Settings.isStorable_iff {s : Settings} : s.isStorable = true ↔
    s.maxSteps < Nat.pow 2 64 ∧ s.timeoutMs < Nat.pow 2 64 ∧ s.memoryLimitMb < Nat.pow 2 64 := by
  simp only [isStorable, Bool.and_eq_true, decide_eq_true_eq, and_assoc]

theorem Archive.isStorable_iff {a : Archive} : a.isStorable = true ↔
    (∀ s ∈ a.snapshots, s.isStorable = true) ∧ a.settings.isStorable = true := by
  simp only [isStorable, Bool.and_eq_true, List.all_eq_true]

/-! ### Documents of names, numbers and values -/

/-- A number that is not finite is known by its name. -/
theorem Number.ofName?_display {n : Number} (h : n.isFinite = false) :
    ofName? n.display = some n := by
  cases n with
  | nan => decide
  | ranked negative rank rank_le =>
    obtain rfl : rank = topRank := by
      simp only [isFinite, decide_eq_false_iff_not] at h
      omega
    cases negative <;> rfl

section
variable {lib : Library} {shows : lib.Node → Json → Prop} (hback : lib.ReadsBack shows) (room : Nat)
include hback

theorem Kind.conveys (k : Kind) : Conveys shows (decode lib) room k.toJson k := by
  apply hback.conveys_named
  cases k <;> rfl

theorem Action.conveys (a : Action) : Conveys shows (decode lib) room a.toJson a := by
  apply hback.conveys_named
  cases a <;> rfl

theorem Language.conveys (l : Language) : Conveys shows (decode lib) room l.toJson l := by
  apply hback.conveys_named
  cases l <;> rfl

theorem Number.conveys (n : Number) : Conveys shows (decode lib) room (n.toJson lib) n := by
  by_cases hfinite : n.isFinite = true
  · rw [toJson, if_pos hfinite]
    refine ⟨.number (hback.isNumeral hfinite), ?_⟩
    intro d hd
    rw [decode, hback.number hfinite d hd]
    rfl
  · -- A string stands in its place.
    rw [toJson, if_neg hfinite]
    refine ⟨.string n.display, ?_⟩
    intro d hd
    have hname : ofName? n.display = some n := ofName?_display (Bool.not_eq_true _ ▸ hfinite)
    rw [decode, hback.textForNumber n.display d hd]
    simp only [bind, Except.bind, hname]
    rfl

theorem Value.conveys (v : Value) : Conveys shows (decode lib) (room + 1) (v.toJson lib) v := by
  have hne : (format lib).contentName ≠ (format lib).tagName := by
    show ("value" : Text) ≠ "type"
    decide
  cases v with
  | number n =>
    have hcontent := (Number.conveys hback room n).map number
    exact hback.conveys_tagged hne rfl hcontent
  | string text =>
    have hcontent := (hback.conveys_text room text).map string
    exact hback.conveys_tagged hne rfl hcontent
  | boolean b =>
    have hcontent := (hback.conveys_bool room b).map boolean
    exact hback.conveys_tagged hne rfl hcontent
  | undefined => exact hback.conveys_tag rfl rfl
  | null => exact hback.conveys_tag rfl rfl
  | raw text =>
    have hcontent := (hback.conveys_text room text).map raw
    exact hback.conveys_tagged hne rfl hcontent

/-! ### Documents of variables, frames and faults -/

theorem Variable.conveys (v : Variable) :
    Conveys shows (decode lib) (room + 2) (v.toJson lib) v := by
  have hname := hback.conveys_text (room + 1) v.name
  have hvalue := Value.conveys hback room v.value
  have hkind := Kind.conveys hback (room + 1) v.kind
  have hscope := hback.conveys_text (room + 1) v.scope
  have hnew := hback.conveys_bool (room + 1) v.isNew
  have hmodified := hback.conveys_bool (room + 1) v.isModified
  -- the document has the members in the order of the format, each under its own name
  apply hback.conveys_record
  · show (["name", "value", "type", "scope", "is_new", "is_modified"] : List Text).Nodup
    decide
  · apply Fills.set (fun _ => rfl) hname
    apply Fills.set (fun _ => rfl) hvalue
    apply Fills.set (fun _ => rfl) hkind
    apply Fills.set (fun _ => rfl) hscope
    apply Fills.set (fun _ => rfl) hnew
    apply Fills.set (fun _ => rfl) hmodified
    exact Fills.nil

theorem Variable.conveys_list (bindings : List Variable) :
    Conveys shows (lib.list (decode lib)) (room + 3) (.ofList (toJson lib) bindings) bindings := by
  apply hback.conveys_list
  intro v _
  exact Variable.conveys hback room v

theorem Frame.conveys {f : Frame} (h : f.isStorable = true) :
    Conveys shows (decode lib) (room + 4) (f.toJson lib) f := by
  have hfunction := hback.conveys_text (room + 3) f.function
  have hline := hback.conveys_nat (room + 3) (isStorable_iff.mp h)
  have hparameters := Variable.conveys_list hback room f.parameters
  have hreturned : Conveys shows (lib.option (Value.decode lib)) (room + 3)
      (.ofOption (Value.toJson lib) f.returned) f.returned := by
    apply hback.conveys_option
    · -- a value is an object, also the value `null`
      intro v
      exact ⟨_, rfl⟩
    · intro v _
      exact Value.conveys hback (room + 2) v
  apply hback.conveys_record
  · show (["function_name", "line_number", "parameters", "return_value"] : List Text).Nodup
    decide
  · apply Fills.set (fun _ => rfl) hfunction
    apply Fills.set (fun _ => rfl) hline
    apply Fills.set (fun _ => rfl) hparameters
    apply Fills.set (fun _ => rfl) hreturned
    exact Fills.nil

theorem Frame.conveys_list {frames : List Frame} (h : ∀ f ∈ frames, f.isStorable = true) :
    Conveys shows (lib.list (decode lib)) (room + 5) (.ofList (toJson lib) frames) frames := by
  apply hback.conveys_list
  intro f hf
  exact Frame.conveys hback room (h f hf)

/-- A name and a line, as a record and as the content of a tagged fault. -/
theorem NameAndLine.conveys {n : NameAndLine} (h : n.line < Nat.pow 2 64) :
    Conveys shows (lib.record (format lib)) (room + 1) n.toJson n ∧
      Conveys shows (lib.contentRecord (format lib)) (room + 1) n.toJson n := by
  have hname := hback.conveys_text room n.name
  have hline := hback.conveys_nat room h
  have hnames : ((format lib).members.map (·.name)).Nodup := by
    show (["name", "line"] : List Text).Nodup
    decide
  have hfills : Fills shows room (format lib).members
      [("name".toList, .string n.name), ("line".toList, .ofNat n.line)] (format lib).start n := by
    apply Fills.set (fun _ => rfl) hname
    apply Fills.set (fun _ => rfl) hline
    exact Fills.nil
  exact ⟨hback.conveys_record hnames hfills, hback.conveys_contentRecord hnames hfills⟩

theorem DeclarationFault.conveys {fault : DeclarationFault} (h : fault.line < Nat.pow 2 64) :
    Conveys shows (decode lib) (room + 2) fault.toJson fault := by
  cases fault with
  | missingBrace name line =>
    have hrecord := (NameAndLine.conveys hback room (n := ⟨name, line⟩) h).1
    exact hback.conveys_variant rfl (hrecord.map (ofVariant .missingBrace))
  | unclosedBody name line =>
    have hrecord := (NameAndLine.conveys hback room (n := ⟨name, line⟩) h).1
    exact hback.conveys_variant rfl (hrecord.map (ofVariant .unclosedBody))

theorem Fault.conveys {fault : Fault} (h : fault.isStorable = true) :
    Conveys shows (decode lib) (room + 3) fault.toJson fault := by
  have hne : (format lib).contentName ≠ (format lib).tagName := by
    show ("detail" : Text) ≠ "error"
    decide
  cases fault with
  | declaration fault =>
    have hfault := DeclarationFault.conveys hback room (of_decide_eq_true h)
    exact hback.conveys_tagged hne rfl (hfault.map declaration)
  | undefinedVariable name line =>
    have hline : line < Nat.pow 2 64 := of_decide_eq_true h
    have hrecord := (NameAndLine.conveys hback (room + 1) (n := ⟨name, line⟩) hline).2
    exact hback.conveys_tagged hne rfl (hrecord.map fun n => undefinedVariable n.name n.line)
  | budgetExceeded limit =>
    have hlimit := hback.conveys_nat (room + 1) (of_decide_eq_true h)
    have hrecord : Conveys shows (lib.contentRecord (limitFormat lib)) (room + 2)
        (.object [("limit".toList, .ofNat limit)]) limit := by
      apply hback.conveys_contentRecord
      · exact List.nodup_singleton _
      · -- the limit is the whole record, so that nothing is set
        exact Fills.member hlimit.fits hlimit.decodes Fills.nil
    exact hback.conveys_tagged hne rfl (hrecord.map budgetExceeded)

/-! ### Documents of entries, snapshots and archives -/

theorem Entry.conveys {e : Entry} (h : e.isStorable = true) :
    Conveys shows (decode lib) (room + 6) (e.toJson lib) e := by
  obtain ⟨hstep, hline, hstack⟩ := isStorable_iff.mp h
  have hstep := hback.conveys_nat (room + 5) hstep
  have hline := hback.conveys_nat (room + 5) hline
  have haction := Action.conveys hback (room + 5) e.action
  have hdetails := hback.conveys_text (room + 5) e.details
  have htime := hback.conveys_instant (room + 5) e.recordedAt
  have hstack := Frame.conveys_list hback room hstack
  have hbindings := Variable.conveys_list hback (room + 2) e.bindings
  apply hback.conveys_record
  · show (["step", "line", "action", "details", "timestamp", "call_stack", "variables"] :
      List Text).Nodup
    decide
  · apply Fills.set (fun _ => rfl) hstep
    apply Fills.set (fun _ => rfl) hline
    apply Fills.set (fun _ => rfl) haction
    apply Fills.set (fun _ => rfl) hdetails
    apply Fills.set (fun _ => rfl) htime
    apply Fills.set (fun _ => rfl) hstack
    apply Fills.set (fun _ => rfl) hbindings
    exact Fills.nil

theorem Snapshot.conveys {s : Snapshot} (h : s.isStorable = true) :
    Conveys shows (decode lib) (room + 8) (s.toJson lib) s := by
  obtain ⟨hstack, hlog, hline, hstep, hfault⟩ := isStorable_iff.mp h
  have hbindings := Variable.conveys_list hback (room + 4) s.bindings
  have hstack := Frame.conveys_list hback (room + 2) hstack
  have hlog : Conveys shows (lib.list (Entry.decode lib)) (room + 7)
      (.ofList (Entry.toJson lib) s.log) s.log := by
    apply hback.conveys_list
    intro e he
    exact Entry.conveys hback room (hlog e he)
  have hline := hback.conveys_nat (room + 7) hline
  have hstep := hback.conveys_nat (room + 7) hstep
  have hcomplete := hback.conveys_bool (room + 7) s.isComplete
  have hfault : Conveys shows (lib.option (Fault.decode lib)) (room + 7)
      (.ofOption Fault.toJson s.fault) s.fault := by
    apply hback.conveys_option
    · intro fault
      cases fault <;> exact ⟨_, rfl⟩
    · intro fault hmem
      exact Fault.conveys hback (room + 4) (hfault fault hmem)
  have houtput : Conveys shows _ (room + 7) _ _ := hback.conveys_texts s.output
  apply hback.conveys_record
  · show (["variables", "call_stack", "trace", "current_line", "current_step", "is_complete",
      "error", "output"] : List Text).Nodup
    decide
  · apply Fills.set (fun _ => rfl) hbindings
    apply Fills.set (fun _ => rfl) hstack
    apply Fills.set (fun _ => rfl) hlog
    apply Fills.set (fun _ => rfl) hline
    apply Fills.set (fun _ => rfl) hstep
    apply Fills.set (fun _ => rfl) hcomplete
    apply Fills.set (fun _ => rfl) hfault
    apply Fills.set (fun _ => rfl) houtput
    exact Fills.nil

theorem Settings.conveys {s : Settings} (h : s.isStorable = true) :
    Conveys shows (decode lib) (room + 1) s.toJson s := by
  obtain ⟨hsteps, htimeout, hmemory⟩ := isStorable_iff.mp h
  have hlanguage := Language.conveys hback room s.language
  have hsteps := hback.conveys_nat room hsteps
  have htimeout := hback.conveys_nat room htimeout
  have hmemory := hback.conveys_nat room hmemory
  apply hback.conveys_record
  · show (["language", "max_steps", "timeout_ms", "memory_limit_mb"] : List Text).Nodup
    decide
  · apply Fills.set (fun _ => rfl) hlanguage
    apply Fills.set (fun _ => rfl) hsteps
    apply Fills.set (fun _ => rfl) htimeout
    apply Fills.set (fun _ => rfl) hmemory
    exact Fills.nil

theorem Archive.conveys {a : Archive} (h : a.isStorable = true) :
    Conveys shows (decode lib) (room + 10) (a.toJson lib) a := by
  obtain ⟨hsnapshots, hsettings⟩ := isStorable_iff.mp h
  have hsource := hback.conveys_text (room + 9) a.source
  have hlines : Conveys shows _ (room + 9) _ _ := hback.conveys_texts a.listing.lines
  have hsnapshots : Conveys shows (lib.list (Snapshot.decode lib)) (room + 9)
      (.ofList (Snapshot.toJson lib) a.snapshots) a.snapshots := by
    apply hback.conveys_list
    intro s hs
    exact Snapshot.conveys hback room (hsnapshots s hs)
  have hsettings := Settings.conveys hback (room + 8) hsettings
  have htime := hback.conveys_instant (room + 9) a.archivedAt
  apply hback.conveys_record
  · show (["source", "lines", "states", "config", "exported_at"] : List Text).Nodup
    decide
  · apply Fills.set (fun _ => rfl) hsource
    apply Fills.set (fun _ => rfl) hlines
    apply Fills.set (fun _ => rfl) hsnapshots
    apply Fills.set (fun _ => rfl) hsettings
    apply Fills.set (fun _ => rfl) htime
    exact Fills.nil

end

/-! ### What is decoded can be stored -/

section
variable {lib : Library} (hsound : lib.Sound)
include hsound

theorem Frame.yields : Yields (decode lib) (·.isStorable = true) := by
  have hline : ∀ (f : Frame) (line : Nat), f.isStorable = true → line < Nat.pow 2 64 →
      { f with line := line }.isStorable = true := by
    intro f line _ hline
    exact isStorable_iff.mpr hline
  -- of the four members only the line counts; the others are read and change nothing of it
  refine hsound.record ?_ ?_
  · rfl
  · refine KeptBy.other (fun _ _ => rfl) (fun _ _ h => h) ?_
    refine KeptBy.set (fun _ _ => rfl) hsound.nat hline ?_
    refine KeptBy.other (fun _ _ => rfl) (fun _ _ h => h) ?_
    refine KeptBy.other (fun _ _ => rfl) (fun _ _ h => h) ?_
    exact KeptBy.nil

omit hsound in
theorem NameAndLine.line_start : (format lib).start.line < Nat.pow 2 64 := by
  show 0 < Nat.pow 2 64
  decide

theorem NameAndLine.keptBy :
    KeptBy (fun n : NameAndLine => n.line < Nat.pow 2 64) (format lib).members := by
  refine KeptBy.other (fun _ _ => rfl) (fun _ _ h => h) ?_
  refine KeptBy.set (fun _ _ => rfl) hsound.nat (fun _ _ _ hline => hline) ?_
  exact KeptBy.nil

theorem DeclarationFault.yields : Yields (decode lib) (·.line < Nat.pow 2 64) := by
  have hrecord := hsound.record NameAndLine.line_start (NameAndLine.keptBy hsound)
  refine hsound.variant ?_ ?_
  · -- Neither kind goes without content.
    intro v fault h
    cases h
  · intro v
    refine hrecord.map ?_
    intro n hline
    cases v with
    | missingBrace => exact hline
    | unclosedBody => exact hline

theorem Fault.yields : Yields (decode lib) (·.isStorable = true) := by
  refine hsound.tagged ?_ ?_
  · -- no kind of fault goes without details
    intro v fault h
    cases h
  · intro v
    cases v with
    | declaration =>
      refine (DeclarationFault.yields hsound).map ?_
      intro fault hline
      exact decide_eq_true hline
    | undefinedVariable =>
      have hrecord := hsound.contentRecord NameAndLine.line_start (NameAndLine.keptBy hsound)
      refine hrecord.map ?_
      intro n hline
      exact decide_eq_true hline
    | budgetExceeded =>
      have hkept : KeptBy (· < Nat.pow 2 64) (limitFormat lib).members := by
        intro m hm _ d limit _ hlimit
        rw [List.mem_singleton.mp hm] at hlimit
        exact hsound.nat d limit hlimit
      have hstart : (limitFormat lib).start < Nat.pow 2 64 := by
        show 0 < Nat.pow 2 64
        decide
      refine (hsound.contentRecord hstart hkept).map ?_
      intro limit hlimit
      exact decide_eq_true hlimit

theorem Entry.yields : Yields (decode lib) (·.isStorable = true) := by
  have hstep : ∀ (e : Entry) (step : Nat), e.isStorable = true → step < Nat.pow 2 64 →
      { e with step := step }.isStorable = true := by
    intro e step he hstep
    obtain ⟨-, hline, hstack⟩ := isStorable_iff.mp he
    exact isStorable_iff.mpr ⟨hstep, hline, hstack⟩
  have hline : ∀ (e : Entry) (line : Nat), e.isStorable = true → line < Nat.pow 2 64 →
      { e with line := line }.isStorable = true := by
    intro e line he hline
    obtain ⟨hstep, -, hstack⟩ := isStorable_iff.mp he
    exact isStorable_iff.mpr ⟨hstep, hline, hstack⟩
  have hstack : ∀ (e : Entry) (frames : List Frame), e.isStorable = true →
      (∀ f ∈ frames, f.isStorable = true) → { e with callStack := frames }.isStorable = true := by
    intro e frames he hstack
    obtain ⟨hstep, hline, -⟩ := isStorable_iff.mp he
    exact isStorable_iff.mpr ⟨hstep, hline, hstack⟩
  have hframes := hsound.list (Frame.yields hsound)
  refine hsound.record ?_ ?_
  · rfl
  · refine KeptBy.set (fun _ _ => rfl) hsound.nat hstep ?_
    refine KeptBy.set (fun _ _ => rfl) hsound.nat hline ?_
    refine KeptBy.other (fun _ _ => rfl) (fun _ _ h => h) ?_
    refine KeptBy.other (fun _ _ => rfl) (fun _ _ h => h) ?_
    refine KeptBy.other (fun _ _ => rfl) (fun _ _ h => h) ?_
    refine KeptBy.set (fun _ _ => rfl) hframes hstack ?_
    refine KeptBy.other (fun _ _ => rfl) (fun _ _ h => h) ?_
    exact KeptBy.nil

theorem Snapshot.yields : Yields (decode lib) (·.isStorable = true) := by
  have hstack : ∀ (s : Snapshot) (frames : List Frame), s.isStorable = true →
      (∀ f ∈ frames, f.isStorable = true) → { s with callStack := frames }.isStorable = true := by
    intro s frames hs hstack
    obtain ⟨-, hlog, hline, hstep, hfault⟩ := isStorable_iff.mp hs
    exact isStorable_iff.mpr ⟨hstack, hlog, hline, hstep, hfault⟩
  have hlog : ∀ (s : Snapshot) (log : List Entry), s.isStorable = true →
      (∀ e ∈ log, e.isStorable = true) → { s with log := log }.isStorable = true := by
    intro s log hs hlog
    obtain ⟨hstack, -, hline, hstep, hfault⟩ := isStorable_iff.mp hs
    exact isStorable_iff.mpr ⟨hstack, hlog, hline, hstep, hfault⟩
  have hline : ∀ (s : Snapshot) (line : Nat), s.isStorable = true → line < Nat.pow 2 64 →
      { s with line := line }.isStorable = true := by
    intro s line hs hline
    obtain ⟨hstack, hlog, -, hstep, hfault⟩ := isStorable_iff.mp hs
    exact isStorable_iff.mpr ⟨hstack, hlog, hline, hstep, hfault⟩
  have hstep : ∀ (s : Snapshot) (step : Nat), s.isStorable = true → step < Nat.pow 2 64 →
      { s with step := step }.isStorable = true := by
    intro s step hs hstep
    obtain ⟨hstack, hlog, hline, -, hfault⟩ := isStorable_iff.mp hs
    exact isStorable_iff.mpr ⟨hstack, hlog, hline, hstep, hfault⟩
  have hfault : ∀ (s : Snapshot) (fault : Option Fault), s.isStorable = true →
      (∀ f ∈ fault, f.isStorable = true) → { s with fault := fault }.isStorable = true := by
    intro s fault hs hfault
    obtain ⟨hstack, hlog, hline, hstep, -⟩ := isStorable_iff.mp hs
    exact isStorable_iff.mpr ⟨hstack, hlog, hline, hstep, hfault⟩
  -- what the parts yield is what the facts above ask for
  have hframes := hsound.list (Frame.yields hsound)
  have hentries := hsound.list (Entry.yields hsound)
  have hfaults := hsound.option (Fault.yields hsound)
  refine hsound.record ?_ ?_
  · rfl
  · refine KeptBy.other (fun _ _ => rfl) (fun _ _ h => h) ?_
    refine KeptBy.set (fun _ _ => rfl) hframes hstack ?_
    refine KeptBy.set (fun _ _ => rfl) hentries hlog ?_
    refine KeptBy.set (fun _ _ => rfl) hsound.nat hline ?_
    refine KeptBy.set (fun _ _ => rfl) hsound.nat hstep ?_
    refine KeptBy.other (fun _ _ => rfl) (fun _ _ h => h) ?_
    refine KeptBy.set (fun _ _ => rfl) hfaults hfault ?_
    refine KeptBy.other (fun _ _ => rfl) (fun _ _ h => h) ?_
    exact KeptBy.nil

theorem Settings.yields : Yields (decode lib) (·.isStorable = true) := by
  have hsteps : ∀ (s : Settings) (steps : Nat), s.isStorable = true → steps < Nat.pow 2 64 →
      { s with maxSteps := steps }.isStorable = true := by
    intro s steps hs hsteps
    obtain ⟨-, htimeout, hmemory⟩ := isStorable_iff.mp hs
    exact isStorable_iff.mpr ⟨hsteps, htimeout, hmemory⟩
  have htimeout : ∀ (s : Settings) (timeout : Nat), s.isStorable = true → timeout < Nat.pow 2 64 →
      { s with timeoutMs := timeout }.isStorable = true := by
    intro s timeout hs htimeout
    obtain ⟨hsteps, -, hmemory⟩ := isStorable_iff.mp hs
    exact isStorable_iff.mpr ⟨hsteps, htimeout, hmemory⟩
  have hmemory : ∀ (s : Settings) (memory : Nat), s.isStorable = true → memory < Nat.pow 2 64 →
      { s with memoryLimitMb := memory }.isStorable = true := by
    intro s memory hs hmemory
    obtain ⟨hsteps, htimeout, -⟩ := isStorable_iff.mp hs
    exact isStorable_iff.mpr ⟨hsteps, htimeout, hmemory⟩
  refine hsound.record ?_ ?_
  · rfl
  · refine KeptBy.other (fun _ _ => rfl) (fun _ _ h => h) ?_
    refine KeptBy.set (fun _ _ => rfl) hsound.nat hsteps ?_
    refine KeptBy.set (fun _ _ => rfl) hsound.nat htimeout ?_
    refine KeptBy.set (fun _ _ => rfl) hsound.nat hmemory ?_
    exact KeptBy.nil

theorem Archive.yields : Yields (decode lib) (·.isStorable = true) := by
  have hsnapshots : ∀ (a : Archive) (snapshots : List Snapshot), a.isStorable = true →
      (∀ s ∈ snapshots, s.isStorable = true) →
      { a with snapshots := snapshots }.isStorable = true := by
    intro a snapshots ha hsnapshots
    obtain ⟨-, hsettings⟩ := isStorable_iff.mp ha
    exact isStorable_iff.mpr ⟨hsnapshots, hsettings⟩
  have hsettings : ∀ (a : Archive) (settings : Settings), a.isStorable = true →
      settings.isStorable = true → { a with settings := settings }.isStorable = true := by
    intro a settings ha hsettings
    obtain ⟨hsnapshots, -⟩ := isStorable_iff.mp ha
    exact isStorable_iff.mpr ⟨hsnapshots, hsettings⟩
  have hstates := hsound.list (Snapshot.yields hsound)
  refine hsound.record ?_ ?_
  · rfl
  · refine KeptBy.other (fun _ _ => rfl) (fun _ _ h => h) ?_
    refine KeptBy.other (fun _ _ => rfl) (fun _ _ h => h) ?_
    refine KeptBy.set (fun _ _ => rfl) hstates hsnapshots ?_
    refine KeptBy.set (fun _ _ => rfl) (Settings.yields hsound) hsettings ?_
    refine KeptBy.other (fun _ _ => rfl) (fun _ _ h => h) ?_
    exact KeptBy.nil

end

/-! ### Archives -/

namespace Archive

/-- With a library that reads back what it writes, an archive is read back from its own text exactly
    if it can be stored, and so is every archive that was read from any text. -/
theorem archive_reads_back (lib : Library) (shows : lib.Node → Json → Prop)
    (hback : lib.ReadsBack shows) (hsound : lib.Sound) (a : Archive) :
    (read lib (a.write lib) = .ok a ↔ a.isStorable = true) ∧
      ∀ text, read lib text = .ok a → read lib (a.write lib) = .ok a := by
  have hwrite : a.isStorable = true → read lib (a.write lib) = .ok a := by
    intro hstorable
    -- ten of the levels that may lie inside one another are used
    have hconveys : Conveys shows (decode lib) 127 (a.toJson lib) a := conveys hback 117 hstorable
    exact hback.readText hconveys.fits hconveys.decodes
  have hread : ∀ text, read lib text = .ok a → a.isStorable = true := by
    intro text htext
    exact hsound.readText (yields hsound) htext
  refine ⟨⟨hread (a.write lib), hwrite⟩, ?_⟩
  intro text htext
  exact hwrite (hread text htext)

/-- An archive with much that is hard to write: control characters, a negative zero, infinities,
    what is not a number, the least magnitude, a year before the first, a leap second, a fault
    inside a fault and the greatest numbers that fit. -/
def intricate : Archive :=
  let bind (n : Number) : Variable := ⟨"\x00\"\\", .number n, .number, "\u2028", true, false⟩
  let frame : Frame :=
    ⟨"f", 18446744073709551615, [bind (.zero true), bind (.infinity true)], some .null⟩
  let time : Instant := ⟨⟨-1, 2, 28⟩, ⟨23, 59, 60, 999999999⟩, rfl⟩
  let snapshot : Snapshot :=
    { bindings := [bind .nan, bind (.infinity false), bind (.ofRank true 1)]
      callStack := [frame, { frame with returned := none }]
      log := [⟨18446744073709551615, 1, .assignment, "\x1f", time, [frame], []⟩]
      line := 1
      step := 1
      isComplete := true
      fault := some (.declaration (.unclosedBody "g" 2))
      output := ["\n"] }
  ⟨"\r\n", ⟨["", ""]⟩, [snapshot], .default, time⟩

/-- The library of the program reads back what it writes. -/
theorem archive_reads_back_intricate :
    Library.standard.ReadsBack Node.Shows ∧ Library.standard.Sound ∧ intricate.isStorable = true ∧
      read .standard (intricate.write .standard) = .ok intricate := by
  have hreads := archive_reads_back .standard Node.Shows standard_readsBack standard_sound intricate
  exact ⟨standard_readsBack, standard_sound, rfl, hreads.1.mpr rfl⟩

end Archive
end Stepwise
