import Stepwise.Command.Basic
import Stepwise.Proofs.OneLine
import Stepwise.Proofs.Printing

/-!
# What a headless run prints

A headless run prints the output of the script, a list of its functions, and one line for each step.
Since no text of a run has a line feed, each of these is one line of what is printed:

- `Snapshot.OneLine.describe` and `oneLine_functionLines`: the lines of the report,
- `Session.forM_print`: printed lines stand one after the other, and `splitOn_unlines` tells them
  apart again,
- `Session.runScript_headless`: all that a headless run does,
- `headless_run_prints_lines`: the lines of a headless run, and its exit status.
-/

namespace Stepwise

/-! ### Lines -/

namespace Text

/-- The lines, each with a line feed after it. -/
def unlines (lines : List Text) : Text := lines.flatMap fun line => line ++ ['\n']

theorem unlines_cons (line : Text) (lines : List Text) :
    unlines (line :: lines) = line ++ '\n' :: unlines lines := by
  rw [unlines, List.flatMap_cons, List.append_assoc, List.singleton_append]
  rfl

theorem unlines_append (lines lines' : List Text) :
    unlines (lines ++ lines') = unlines lines ++ unlines lines' :=
  List.flatMap_append

/-- Lines without line feeds are told apart by the line feeds after them. -/
theorem splitOn_unlines {lines : List Text} (h : ∀ line ∈ lines, OneLine line) :
    (unlines lines).splitOn '\n' = lines ++ [[]] := by
  induction lines with
  | nil => rfl
  | cons line rest ih =>
    have hrest := ih fun line hmem => h line (List.mem_cons_of_mem _ hmem)
    rw [unlines_cons, List.splitOn_append_cons_self_of_not_mem (h line List.mem_cons_self), hrest,
      List.cons_append]

end Text

/-! ### The report -/

theorem oneLine_stepText (step line : Nat) : Text.OneLine (stepText step line) := by
  have hpad : ∀ n, Text.OneLine (Text.padStart ' ' 3 (Text.ofNat n)) := fun n =>
    Text.oneLine_padStart (by decide) 3 (Text.oneLine_ofNat n)
  exact (((Text.OneLine.append (by decide) (hpad step)).append (by decide)).append
    (hpad line)).append (by decide)

theorem Entry.OneLine.display {e : Entry} (h : e.OneLine) : Text.OneLine e.display := by
  have hlabel : Text.OneLine e.action.label := by cases e.action <;> decide
  exact (((oneLine_stepText e.step e.line).append hlabel).append (by decide)).append h.details

/-- The account of a snapshot is one line. -/
theorem Snapshot.OneLine.describe {s : Snapshot} (h : s.OneLine) : Text.OneLine s.describe := by
  simp only [Snapshot.describe]
  have hhalted : Text.OneLine (stepText s.step s.line ++ "halted".toList) :=
    (oneLine_stepText s.step s.line).append (by decide)
  have hentry : ∀ e, s.lastEntry? = some e → Text.OneLine e.display := by
    intro e he
    obtain ⟨hlast, _⟩ := Option.filter_eq_some_iff.mp he
    exact (h.log e (List.mem_of_getLast? hlast)).display
  have hfault : ∀ text message, Text.OneLine text → s.faultMessage? = some message →
      Text.OneLine (text ++ "  [".toList ++ message ++ [']']) := fun text message htext hmessage =>
    ((htext.append (by decide)).append (h.fault message hmessage)).append (by decide)
  cases hlast : s.lastEntry? with
  | none =>
    cases hmessage : s.faultMessage? with
    | none => exact hhalted
    | some message => exact hfault _ message hhalted hmessage
  | some e =>
    cases hmessage : s.faultMessage? with
    | none => exact hentry e hlast
    | some message => exact hfault _ message (hentry e hlast) hmessage

namespace Recording

/-- The lines of the report about the functions. -/
def functionLines (r : Recording) : List Text :=
  if r.table.declarations.isEmpty then []
  else "--- functions ---".toList :: r.table.declarations.map fun d =>
    d.name ++ '(' :: List.intercalate ", ".toList d.parameters ++ ")  line ".toList ++
      Text.ofNat d.line

/-- The line of the report that stands before the steps. -/
def traceHeader (r : Recording) : Text :=
  "--- trace (".toList ++ Text.ofNat r.history.totalSteps ++ " steps) ---".toList

theorem report_eq (r : Recording) :
    r.report = r.functionLines ++ r.traceHeader :: r.history.later.map Snapshot.describe := rfl

theorem length_functionLines (r : Recording) : r.functionLines.length =
    if r.table.declarations.isEmpty then 0 else 1 + r.table.declarations.length := by
  unfold functionLines
  split
  · rfl
  · rw [List.length_cons, List.length_map, Nat.add_comm]

theorem oneLine_functionLines {r : Recording} (h : r.table.OneLine) :
    ∀ line ∈ r.functionLines, Text.OneLine line := by
  unfold functionLines
  split
  · simp
  · intro line hline
    rcases List.mem_cons.mp hline with rfl | hline
    · decide
    · obtain ⟨d, hd, rfl⟩ := List.mem_map.mp hline
      obtain ⟨hname, hparameters⟩ := h d hd
      have hlist : Text.OneLine (List.intercalate ", ".toList d.parameters) :=
        Text.oneLine_intercalate (by decide) hparameters
      exact ((hname.append (Text.oneLine_cons.mpr ⟨by decide, hlist⟩)).append (by decide)).append
        (Text.oneLine_ofNat d.line)

theorem oneLine_traceHeader (r : Recording) : Text.OneLine r.traceHeader :=
  (Text.OneLine.append (by decide) (Text.oneLine_ofNat _)).append (by decide)

variable (settings : Settings) (clock : Nat → Instant) (source : Text)

/-- A script that is rejected declares nothing. -/
theorem oneLine_table_ofSource : (ofSource settings clock source).table.OneLine := by
  rw [table_ofSource]
  cases hbuild : DeclarationTable.ofListing (.ofText source) with
  | error fault =>
    intro d hd
    cases hd
  | ok table => exact oneLine_table hbuild

/-- All that a headless run prints. -/
def headlessLines (r : Recording) : List Text := r.history.last.output ++ r.report

theorem oneLine_headlessLines :
    ∀ line ∈ (ofSource settings clock source).headlessLines, Text.OneLine line := by
  have hsnapshots := oneLine_snapshot settings clock source
  intro line hline
  rcases List.mem_append.mp hline with hline | hline
  · have hlast := List.mem_of_getElem?
      (History.getElem?_snapshots (historyOf settings clock source) (Nat.le_refl _))
    exact (hsnapshots _ hlast).output line hline
  · rw [report_eq] at hline
    rcases List.mem_append.mp hline with hline | hline
    · exact oneLine_functionLines (oneLine_table_ofSource settings clock source) line hline
    · rcases List.mem_cons.mp hline with rfl | hline
      · exact oneLine_traceHeader _
      · obtain ⟨s, hs, rfl⟩ := List.mem_map.mp hline
        exact (hsnapshots s (List.mem_cons_of_mem _ hs)).describe

end Recording

/-! ### Sessions -/

namespace Session

variable {parse : Text → Option Settings}

/-- Printed lines stand one after the other. -/
theorem forM_print (lines : List Text) (s : Session) :
    (lines.forM (host parse).print).run s =
      ((), { s with output := s.output ++ Text.unlines lines }) := by
  induction lines generalizing s with
  | nil =>
    rw [Text.unlines, List.flatMap_nil, List.append_nil]
    rfl
  | cons line rest ih =>
    -- the first line is printed before the others
    have hfirst : ((line :: rest).forM (host parse).print).run s =
        (rest.forM (host parse).print).run { s with output := s.output ++ line ++ ['\n'] } := rfl
    rw [hfirst, ih, Text.unlines_cons]
    simp

/-- The computation leaves the session as it is. -/
def Keeps {α : Type} (x : StateM Session α) : Prop := ∀ s, (x.run s).2 = s

section sequences
variable {α β : Type} {x : StateM Session α} {f : α → StateM Session β}

/-- What comes second goes on from where the first ended. -/
theorem run_bind_of {s s' : Session} {a : α} (h : x.run s = (a, s')) :
    (x >>= f).run s = (f a).run s' := by
  rw [StateT.run_bind, h]
  rfl

theorem keeps_pure (a : α) : Keeps (pure a) := fun _ => rfl

theorem Keeps.bind (hx : Keeps x) (hf : ∀ a, Keeps (f a)) : Keeps (x >>= f) := by
  intro s
  rw [run_bind_of (rfl : x.run s = ((x.run s).1, (x.run s).2)), hf]
  exact hx s

end sequences

theorem keeps_loadSettings (path : Text) : Keeps ((host parse).loadSettings path) := by
  unfold Host.loadSettings
  refine Keeps.bind (fun _ => rfl) ?_
  intro content
  cases content with
  | error fault => exact keeps_pure _
  | ok text =>
    simp only
    split
    · exact keeps_pure _
    · exact keeps_pure _

theorem keeps_settings (o : Options) : Keeps ((host parse).settings o) := by
  unfold Host.settings
  cases o.settingsFile with
  | none => exact (keeps_pure _).bind fun _ => keeps_pure _
  | some path => exact (keeps_loadSettings path).bind fun _ => keeps_pure _

/-- A report is printed, and a fault is not: complaints are kept apart. -/
theorem reportOn_run (r : Recording) (s : Session) :
    ∃ s', ((host parse).reportOn r).run s = (if r.history.last.fault.isSome then 1 else 0, s') ∧
      s'.output = s.output ++ Text.unlines r.report := by
  rw [Host.reportOn, run_bind_of (forM_print _ _), Snapshot.faultMessage?]
  cases r.history.last.fault with
  | none => exact ⟨_, rfl, rfl⟩
  | some fault => exact ⟨_, rfl, rfl⟩

variable {folder : Folder} {o : Options} {settings : Settings} {script source : Text}

/-- A headless run prints the output of the script and the report about it. -/
theorem runScript_headless {now : Instant} {r : Recording}
    (hr : r = .ofSource settings (fun _ => now) source) (hheadless : o.isHeadless = true)
    (harchive : o.archiveFile = none)
    (hsettings : (((host parse).settings o).run (.start folder)).1 = .ok settings)
    (hread : folder.read script = .ok source) :
    ∃ s, ((host parse).runScript now script o).run (.start folder) =
        (if r.history.last.fault.isSome then 1 else 0, s) ∧
      s.output = Text.unlines r.headlessLines := by
  have hload : ((host parse).settings o).run (.start folder) = (.ok settings, .start folder) :=
    Prod.ext hsettings (keeps_settings o _)
  have hcontent : ((host parse).read script).run (.start folder) =
      (.ok source, .start folder) := by
    rw [← hread]
    rfl
  have hrecord : ((host parse).record now o settings source).run (.start folder) =
      (r, { Session.start folder with output := Text.unlines r.history.last.output }) := by
    rw [Host.record, if_pos hheadless, Recording.ofSourceWith_eq_output, ← hr,
      run_bind_of (forM_print _ _)]
    rfl
  -- what was printed by then is the output of the script
  have hrun : ((host parse).runScript now script o).run (.start folder) =
      ((host parse).reportOn r).run
        { Session.start folder with output := Text.unlines r.history.last.output } := by
    simp only [Host.runScript, Host.writeArchive, harchive, hheadless, if_true]
    exact (run_bind_of hload).trans ((run_bind_of hcontent).trans (run_bind_of hrecord))
  obtain ⟨s, hreport, houtput⟩ :=
    reportOn_run r { Session.start folder with output := Text.unlines r.history.last.output }
  refine ⟨s, hrun.trans hreport, houtput.trans ?_⟩
  rw [Recording.headlessLines, Text.unlines_append]

end Session

/-- No text of a snapshot has a line feed. So what a headless run without an archive prints, when
    its settings and its script can be read, has as its lines the output of the script, the list of
    functions, if there are any, and the accounts of the steps, each with one line feed after it;
    and the exit status tells whether the run ended with a fault. This holds however the texts of
    settings files are understood. -/
theorem headless_run_prints_lines :
    (∀ (settings : Settings) (clock : Nat → Instant) (source : Text),
      ∀ s ∈ (Recording.historyOf settings clock source).snapshots, s.OneLine) ∧
    ∀ (parse : Text → Option Settings) (folder : Folder) (program : Text) (now : Instant)
      (script : Text) (o : Options) (settings : Settings) (source : Text) (r : Recording),
      o.isHeadless = true → o.archiveFile = none →
      (((Session.host parse).settings o).run (.start folder)).1 = .ok settings →
      folder.read script = .ok source → r = .ofSource settings (fun _ => now) source →
      ∃ status session lines steps,
        ((Session.host parse).run program now (.run script o)).run (.start folder) =
          (status, session) ∧
        lines = r.history.last.output ++ r.functionLines ++ r.traceHeader :: steps ∧
        session.output = Text.unlines lines ∧ session.output.splitOn '\n' = lines ++ [[]] ∧
        r.functionLines.length =
          (if r.table.declarations.isEmpty then 0 else 1 + r.table.declarations.length) ∧
        steps.length = r.history.totalSteps ∧
        (∀ k < r.history.totalSteps, steps[k]? = some (r.history.get (k + 1 : Nat)).describe) ∧
        (status = 1 ↔ r.history.last.fault ≠ none) ∧
          (status = 0 ↔ r.history.last.fault = none) := by
  refine ⟨Recording.oneLine_snapshot, ?_⟩
  intro parse folder program now script o settings source r hheadless harchive hsettings hread hr
  obtain ⟨session, hrun, houtput⟩ :=
    Session.runScript_headless hr hheadless harchive hsettings hread
  have hlines : r.headlessLines = r.history.last.output ++ r.functionLines ++ r.traceHeader ::
      r.history.later.map Snapshot.describe := by
    rw [Recording.headlessLines, Recording.report_eq, List.append_assoc]
  have hone : ∀ line ∈ r.headlessLines, Text.OneLine line := by
    rw [hr]
    exact Recording.oneLine_headlessLines settings _ source
  refine ⟨if r.history.last.fault.isSome then 1 else 0, session, r.headlessLines,
    r.history.later.map Snapshot.describe, hrun, hlines, houtput, ?_, r.length_functionLines, ?_,
    ?_, ?_⟩
  · rw [houtput]
    exact Text.splitOn_unlines hone
  · rw [List.length_map, History.totalSteps_eq]
  · intro k hk
    rw [List.getElem?_map, History.getElem?_later _ hk]
    rfl
  · cases r.history.last.fault with
    | none => simp
    | some fault => simp

/-- A run that is cut short by the budget of a settings file. -/
theorem headless_run_prints_lines_within_budget :
    let script : Text := "function f(a) \x7b\nx = 'b'\n\x7d\nconsole.log(x)\nf('c')\nx = 'd'"
    let file : Text := "max_steps = 3"
    let settings := { Settings.default with maxSteps := 3 }
    let parse (text : Text) : Option Settings := if text = file then some settings else none
    let folder : Folder := ⟨[("s".toList, script), ("t".toList, file)]⟩
    let o := { Options.none with settingsFile := some "t".toList, isHeadless := true }
    let account : Text :=
      "step   3  line   5  function call: f(\"c\")  [Maximum execution steps exceeded (3)]"
    ∃ session steps,
      ((Session.host parse).run [] .epoch (.run "s" o)).run (.start folder) = (1, session) ∧
      session.output.splitOn '\n' = ["b".toList, "--- functions ---".toList, "f(a)  line 1".toList,
        "--- trace (3 steps) ---".toList] ++ steps ++ [[]] ∧
      steps.length = 3 ∧ steps[2]? = some account := by
  intro script file settings parse folder o account
  obtain ⟨r, hr⟩ : ∃ r, r = Recording.ofSource settings (fun _ => .epoch) script := ⟨_, rfl⟩
  have hsettings : (((Session.host parse).settings o).run (.start folder)).1 = .ok settings := by
    decide +kernel
  have hread : folder.read "s" = .ok script := by decide +kernel
  obtain ⟨hlines, hfault, htotal, hlast⟩ :
      r.history.last.output ++ r.functionLines ++ [r.traceHeader] =
        ["b".toList, "--- functions ---".toList, "f(a)  line 1".toList,
          "--- trace (3 steps) ---".toList] ∧
      r.history.last.fault ≠ none ∧ r.history.totalSteps = 3 ∧
        (r.history.get 3).describe = account := by
    rw [hr]
    decide +kernel
  obtain ⟨status, session, _, steps, hrun, rfl, _, hsplit, _, hlength, hsteps, hstatus, _⟩ :=
    headless_run_prints_lines.2 parse folder [] .epoch "s" o settings script r rfl rfl hsettings
      hread hr
  obtain rfl : status = 1 := hstatus.mpr hfault
  refine ⟨session, steps, hrun, ?_, hlength.trans htotal,
    (hsteps 2 (by omega)).trans (congrArg some hlast)⟩
  rw [hsplit, ← hlines, List.append_assoc _ [r.traceHeader], List.singleton_append]

end Stepwise
