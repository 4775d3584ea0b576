import Stepwise.Number.Decimal
import Stepwise.Settings

/-!
# Options

The command line names the script and may set some options. Every option is given at most once, as
`--name value` or `--name=value`; `--` ends the options, so that a script's name may begin with a
dash. Who asks for help gets it, whatever stands after that.
-/

namespace Stepwise

/-- The options of a command line. -/
structure Options where
  /-- The name of the script. -/
  script : Option Text
  /-- The name of a settings file. -/
  settingsFile : Option Text
  language : Option Language
  maxSteps : Option Nat
  /-- The name of the file to write an archive to. -/
  archiveFile : Option Text
  /-- Whether to print the log and leave. -/
  isHeadless : Bool
  /-- The time between two steps of automatic play. -/
  intervalMs : Option Nat
  /-- Whether to explain the options and leave. -/
  asksHelp : Bool
deriving DecidableEq, Repr

namespace Options

/-- The options of an empty command line. -/
def none : Options := ⟨.none, .none, .none, .none, .none, false, .none, false⟩

/-- The time between two steps of automatic play when nothing is said. -/
def usualIntervalMs : Nat := 1000

/-! ### Single options -/

/-- A file name; it has at least one character. -/
def fileName? (value : Text) : Option Text := if value.isEmpty then .none else some value

/-- A natural number below `2 ^ 64`, with an optional plus sign. -/
def natural? (value : Text) : Option Nat :=
  let digits := match value with
    | '+' :: rest => rest
    | _ => value
  if Text.isDigits digits ∧ Text.digitsValue digits < Nat.pow 2 64 then
    some (Text.digitsValue digits)
  else .none

/-- Sets an option that has no value yet. -/
def setOnce {α : Type} (old : Option α) (value : Option α) : Option (Option α) :=
  match old, value with
  | .none, some a => some (some a)
  | _, _ => .none

/-- Sets the option of a name to a value; `none` if there is no such option, if it was set before,
or if the value is not one of its values. -/
def set? (o : Options) (name value : Text) : Option Options :=
  if name = "config".toList then
    (setOnce o.settingsFile (fileName? value)).map fun v => { o with settingsFile := v }
  else if name = "language".toList then
    (setOnce o.language (Language.ofName? value)).map fun v => { o with language := v }
  else if name = "max-steps".toList then
    (setOnce o.maxSteps (natural? value)).map fun v => { o with maxSteps := v }
  else if name = "export".toList then
    (setOnce o.archiveFile (fileName? value)).map fun v => { o with archiveFile := v }
  else if name = "speed-ms".toList then
    (setOnce o.intervalMs (natural? value)).map fun v => { o with intervalMs := v }
  else .none

/-- Sets the name of the script. -/
def setScript? (o : Options) (name : Text) : Option Options :=
  (setOnce o.script (fileName? name)).map fun v => { o with script := v }

/-- Asks for a headless run. -/
def setHeadless? (o : Options) : Option Options :=
  if o.isHeadless then .none else some { o with isHeadless := true }

/-! ### Command lines -/

/-- Whether an argument can be the value of the option before it: it does not look like an
option. -/
def isValue : Text → Bool
  | '-' :: _ :: _ => false
  | _ => true

/-- Takes every argument as the name of the script. -/
def readNames? (o : Options) : List Text → Option Options
  | [] => some o
  | name :: rest => (o.setScript? name).bind fun o => o.readNames? rest

/-- Reads arguments from left to right, up to a question for help. -/
def read? (o : Options) : List Text → Option Options
  | [] => some o
  | ['-', '-'] :: rest => o.readNames? rest
  | ('-' :: 'h' :: _) :: _ => some { o with asksHelp := true }
  | ('-' :: '-' :: option) :: rest =>
    if option = "help".toList then some { o with asksHelp := true }
    else if option = "headless".toList then o.setHeadless?.bind fun o => o.read? rest
    else
      match Text.cutAt? '=' option with
      | some (name, value) => (o.set? name value).bind fun o => o.read? rest
      | .none =>
        match rest with
        | [] => .none
        | value :: rest =>
          if isValue value then (o.set? option value).bind fun o => o.read? rest else .none
  | name :: rest =>
    if isValue name then (o.setScript? name).bind fun o => o.read? rest else .none

end Options

/-- What a command line asks for. -/
inductive Request where
  | help
  | run (script : Text) (options : Options)
deriving DecidableEq, Repr

/-- The request of a command line, if it is a good one: it names a script, or asks for help. -/
def Request.ofArguments? (arguments : List Text) : Option Request := do
  let o ← Options.none.read? arguments
  if o.asksHelp then return .help
  else
    let script ← o.script
    return .run script o

end Stepwise
