import Stepwise.Command.Options

/-!
# Help

The account of the options that a command line can ask for: what the program does, how it is called,
and a table of the arguments and options. The second column of a table begins two columns after the
longest entry of the first one.
-/

namespace Stepwise

/-- An entry of the help: how an argument or option is written, and what it does. -/
structure HelpEntry where
  usage : Text
  purpose : Text

namespace HelpEntry

/-- The lines of a table of entries. -/
def table (entries : List HelpEntry) : List Text :=
  let width := entries.foldr (fun e width => max e.usage.length width) 0
  entries.map fun e => "  ".toList ++ e.usage.padEnd ' ' width ++ "  ".toList ++ e.purpose

/-- The script. -/
def script : HelpEntry := ⟨"<FILE>", "Program to trace"⟩

/-- The options, in order. -/
def options : List HelpEntry :=
  let languages := List.intercalate ", ".toList (Language.all.map Language.name)
  [⟨"    --config <PATH>", "TOML file with execution settings"⟩,
   ⟨"    --language <LANGUAGE>",
    "Source language tag [possible values: ".toList ++ languages ++ [']']⟩,
   ⟨"    --max-steps <N>", "Maximum number of executed lines"⟩,
   ⟨"    --export <PATH>", "Write the full trace as JSON"⟩,
   ⟨"    --headless", "Print the trace instead of opening the TUI"⟩,
   ⟨"    --speed-ms <MS>",
    "Delay between auto-play steps [default: ".toList ++ Text.ofNat Options.usualIntervalMs ++
      [']']⟩,
   ⟨"-h, --help", "Print help"⟩]

end HelpEntry

/-- The lines of the help for a program of a name. -/
def helpLines (program : Text) : List Text :=
  ["Step through a small program line by line".toList,
   [],
   "Usage: ".toList ++ program ++ " [OPTIONS] <FILE>".toList,
   [],
   "Arguments:".toList] ++ HelpEntry.table [.script] ++ [[], "Options:".toList] ++
    HelpEntry.table HelpEntry.options

end Stepwise
