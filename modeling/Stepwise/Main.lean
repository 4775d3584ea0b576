import Std.Time.DateTime.Timestamp
import Stepwise.Command.Basic
import Stepwise.Player.Keyboard
import Stepwise.Player.Viewer
import Stepwise.Screen.Terminal

/-!
# The program

The command on the files and the terminal of the machine. The terminal passes on what was typed when
a line is ended; the player goes on meanwhile.
-/

namespace Stepwise

/-- The fault that an input or output error stands for. -/
def FileFault.ofError : IO.Error → FileFault
  | .noFileOrDirectory .. => .notFound
  | .inappropriateType _ 21 _ => .isADirectory
  | .inappropriateType .. => .notADirectory
  | .invalidArgument _ 36 _ => .nameTooLong
  | .permissionDenied _ code _ => .other code.toNat "PermissionDenied" "Permission denied"
  | .otherError code text => .other code.toNat "Other" text.toList
  | error => .other 5 "Other" (toString error).toList

namespace Terminal

/-- Writes to the terminal at once. -/
def send (text : Text) : IO Unit := do
  let stdout ← IO.getStdout
  stdout.putStr (String.ofList text)
  stdout.flush

/-- A number from the environment. -/
def setting (name : String) (usual : Nat) : IO Nat := do
  return ((← IO.getEnv name).bind String.toNat?).getD usual

/-- Starts to wait for a line of input. -/
def listen : IO (Task (Except IO.Error String)) := do
  let stdin ← IO.getStdin
  IO.asTask stdin.getLine

/-- Rounds of the viewer, until the player has quit or the input has ended. -/
partial def rounds (v : Viewer) (input : Task (Except IO.Error String)) : IO Unit := do
  let v := v.draw
  send v.shown.sequence
  unless v.player.hasQuit do
    let now ← IO.monoMsNow
    let v := v.playOn now
    if ← IO.hasFinished input then
      match input.get with
      | .error _ => return
      | .ok line =>
        unless line.isEmpty do
          let v := (Key.ofInput line.toList).foldl (fun v key => v.take now (.press key)) v
          rounds v (← listen)
    else
      IO.sleep 50
      rounds v input

/-- Plays a recording on the terminal. -/
def play (recording : Recording) (intervalMs : Nat) : IO Unit := do
  let now ← IO.monoMsNow
  let size : Size := ⟨← setting "COLUMNS" 80, ← setting "LINES" 24⟩
  send Screen.enterSequence
  rounds (.start (.start recording intervalMs now) size) (← listen)
  send Screen.leaveSequence

/-- The files and the terminal of the machine. -/
def host : Host IO where
  read path := do
    try
      match String.fromUTF8? (← IO.FS.readBinFile (String.ofList path)) with
      | some text => return .ok text.toList
      | none => return .error .notText
    catch error => return .error (.ofError error)
  write path content := do
    try
      IO.FS.writeFile (String.ofList path) (String.ofList content)
      return .ok ()
    catch error => return .error (.ofError error)
  parse := Settings.ofToml?
  print line := IO.println (String.ofList line)
  complain line := IO.eprintln (String.ofList line)
  play

end Terminal

/-- The present. -/
def present : IO Instant := do
  let timestamp ← Std.Time.Timestamp.now
  return (Instant.ofNanoseconds? timestamp.toNanosecondsSinceUnixEpoch.val).getD .epoch

end Stepwise

/-- Runs the command. -/
def main (arguments : List String) : IO UInt32 := do
  let program := (← IO.appPath).fileName.getD ""
  match Stepwise.Request.ofArguments? (arguments.map String.toList) with
  | none =>
    IO.eprintln ("Usage: " ++ program ++ " [OPTIONS] <FILE>")
    return 2
  | some request =>
    let status ← Stepwise.Terminal.host.run program (← Stepwise.present) request
    return status.toUInt32
