import Stepwise.Archive
import Stepwise.Json.Decoding
import Stepwise.SettingsFile
import Stepwise.Text.Hidden
import Stepwise.Command.Help
import Stepwise.Command.Folder

/-!
# The command

The command loads the settings, reads the script, runs it, writes the archive if asked to, and then
prints the log or hands the recording to the player. What it needs of the outside is a `Host`;
`Session` is a host in memory.
-/

namespace Stepwise

/-! ### Reports -/

/-- What is printed about a recording: the declared functions, if there are any, and every step. -/
def Recording.report (r : Recording) : List Text :=
  let declarations := r.table.declarations
  let functions :=
    if declarations.isEmpty then []
    else "--- functions ---".toList :: declarations.map fun d =>
      d.name ++ '(' :: List.intercalate ", ".toList d.parameters ++ ")  line ".toList
        ++ Text.ofNat d.line
  functions ++ ("--- trace (".toList ++ Text.ofNat r.history.totalSteps ++ " steps) ---".toList) ::
    r.history.later.map Snapshot.describe

/-! ### Messages -/

/-- A character inside a quoted name of a message. -/
def escapeChar (escapesSingle : Bool) (c : Char) : Text :=
  if c = '"' then ['\\', '"']
  else if c = '\'' ∧ escapesSingle then ['\\', '\'']
  else if c = '\\' then ['\\', '\\']
  else if c = '\n' then ['\\', 'n']
  else if c = '\r' then ['\\', 'r']
  else if c = '\t' then ['\\', 't']
  else if c.toNat = 0 then ['\\', '0']
  else if isHidden c then
    ['\\', 'u', '{'] ++ Nat.toDigits 16 c.toNat ++ ['}']
  else [c]

/-- A text in quotes, as messages show it. -/
def quoted (text : Text) : Text := '"' :: text.flatMap (escapeChar false) ++ ['"']

/-- The name of a file in quotes, as messages show it. -/
def quotedName (name : Text) : Text := '"' :: name.flatMap (escapeChar true) ++ ['"']

/-- A fault with a file, in full. -/
def FileFault.detail (f : FileFault) : Text :=
  let head := match f.code? with
    | some code => "Os \x7b code: ".toList ++ Text.ofNat code ++ ", ".toList
    | none => "Error \x7b ".toList
  head ++ "kind: ".toList ++ f.kind ++ ", message: ".toList ++ quoted f.description ++
    " \x7d".toList

/-- What can go wrong with a settings file. -/
inductive SettingsFault where
  | unreadable (path : Text) (fault : FileFault)
  | invalid
deriving DecidableEq, Repr

namespace SettingsFault

/-- The text of the message about a file that cannot be read. -/
def unreadableMessage (path : Text) (fault : FileFault) : Text :=
  "failed to read config file ".toList ++ path ++ ": ".toList ++ fault.message

end SettingsFault

/-- What ends the command early. -/
inductive CommandFault where
  | settings (fault : SettingsFault)
  | script (path : Text) (fault : FileFault)
  | archive (fault : FileFault)
deriving DecidableEq, Repr

/-- What is told about the end of the command. -/
def CommandFault.message : CommandFault → Text
  | settings (.unreadable path fault) =>
    "Io \x7b path: ".toList ++ quotedName path ++ ", source: ".toList ++ fault.detail ++
      " \x7d".toList
  | settings .invalid => "Syntax"
  | script path fault =>
    quoted ("failed to read ".toList ++ path ++ ": ".toList ++ fault.message)
  | archive fault => fault.detail

/-! ### Hosts -/

/-- What the command needs of the outside. -/
structure Host (m : Type → Type) where
  /-- Reads a file. -/
  read : (path : Text) → m (Except FileFault Text)
  /-- Writes a file. -/
  write : (path content : Text) → m (Except FileFault Unit)
  /-- The settings that the text of a settings file gives, if it is a good one. -/
  parse : Text → Option Settings
  /-- Prints a line. -/
  print : Text → m Unit
  /-- Prints a line about a fault. -/
  complain : Text → m Unit
  /-- Plays a recording with a time between two steps. -/
  play : Recording → (intervalMs : Nat) → m Unit

namespace Host

variable {m : Type → Type} [Monad m]

/-- Loads a settings file. -/
def loadSettings (host : Host m) (path : Text) : m (Except SettingsFault Settings) := do
  match ← host.read path with
  | .error fault => return .error (.unreadable path fault)
  | .ok text =>
    match host.parse text with
    | some settings => return .ok settings
    | none => return .error .invalid

/-- The settings of a command line: those of the settings file, changed by the options. -/
def settings (host : Host m) (o : Options) : m (Except SettingsFault Settings) := do
  let base ← match o.settingsFile with
    | some path => host.loadSettings path
    | none => pure (.ok Settings.default)
  return base.map fun s =>
    { s with language := o.language.getD s.language, maxSteps := o.maxSteps.getD s.maxSteps }

/-- Runs a script; a headless run prints at once what the script prints. -/
def record (host : Host m) (now : Instant) (o : Options) (settings : Settings) (source : Text) :
    m Recording :=
  if o.isHeadless then Recording.ofSourceWith host.print settings (fun _ => now) source
  else pure (Recording.ofSource settings (fun _ => now) source)

/-- Writes the archive, if one is asked for. -/
def writeArchive (host : Host m) (now : Instant) (o : Options) (r : Recording) :
    m (Except FileFault Unit) :=
  match o.archiveFile with
  | some path => host.write path ((Archive.ofRecording r now).write .standard)
  | none => pure (.ok ())

/-- Tells what went wrong, and gives the exit status for that. -/
def failWith (host : Host m) (message : Text) : m Nat := do
  host.complain ("Error: ".toList ++ message)
  return 1

/-- Prints the report of a recording; a run that ended early is a failure. -/
def reportOn (host : Host m) (r : Recording) : m Nat := do
  r.report.forM host.print
  match r.history.last.faultMessage? with
  | some message => host.failWith message
  | none => return 0

/-- Runs a script as the options say; gives the exit status. -/
def runScript (host : Host m) (now : Instant) (script : Text) (o : Options) : m Nat := do
  match ← host.settings o with
  | .error fault => host.failWith (CommandFault.settings fault).message
  | .ok settings =>
    match ← host.read script with
    | .error fault => host.failWith (CommandFault.script script fault).message
    | .ok source =>
      let r ← host.record now o settings source
      match ← host.writeArchive now o r with
      | .error fault => host.failWith (CommandFault.archive fault).message
      | .ok () =>
        if o.isHeadless then host.reportOn r
        else
          host.play r (o.intervalMs.getD Options.usualIntervalMs)
          return 0

/-- Runs the command under the name of a program; gives its exit status. -/
def run (host : Host m) (program : Text) (now : Instant) : Request → m Nat
  | .help => do
    (helpLines program).forM host.print
    return 0
  | .run script o => host.runScript now script o

end Host

/-! ### A host in memory -/

/-- A folder, and what has been printed. -/
structure Session where
  folder : Folder
  output : Text
  complaints : Text

namespace Session

/-- A session in a folder. -/
def start (folder : Folder) : Session := ⟨folder, [], []⟩

/-- The host that works on a session and reads settings by `parse`; nothing is played. -/
def host (parse : Text → Option Settings) : Host (StateM Session) where
  read path := do return (← get).folder.read path
  write path content := do
    let s ← get
    match s.folder.write path content with
    | .error fault => return .error fault
    | .ok folder =>
      set { s with folder }
      return .ok ()
  parse
  print line := modify fun s => { s with output := s.output ++ line ++ ['\n'] }
  complain line := modify fun s => { s with complaints := s.complaints ++ line ++ ['\n'] }
  play _ _ := pure ()

end Session

/-- How a command ends in a folder: its exit status and the session after it; `none` for a command
line that is not a good one. -/
def runIn (folder : Folder) (program : Text) (now : Instant) (arguments : List Text) :
    Option (Nat × Session) :=
  (Request.ofArguments? arguments).map fun request =>
    ((Session.host Settings.ofToml?).run program now request).run (.start folder)

end Stepwise
