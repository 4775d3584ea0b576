import Stepwise.Fault
import Stepwise.Frame
import Stepwise.Instant

/-!
# Snapshots

A snapshot is all that can be seen of a run after one step: the variables with what the step
changed, the calls, the log of the steps so far, and the printed output. The log has one entry for
each step that did not fail.
-/

namespace Stepwise

/-- What a step did. -/
inductive Action where
  | assignment
  | functionCall
  | condition
  | loop
  | consoleOutput
  | expression
deriving DecidableEq, Repr

namespace Action

/-- All actions. -/
def all : List Action := [assignment, functionCall, condition, loop, consoleOutput, expression]

/-- The words for an action. -/
def label : Action → Text
  | assignment => "assignment"
  | functionCall => "function call"
  | condition => "condition"
  | loop => "loop"
  | consoleOutput => "console output"
  | expression => "expression"

/-- The name of an action in archives: its words with underscores between them. -/
def name : Action → Text
  | assignment => "assignment"
  | functionCall => "function_call"
  | condition => "condition"
  | loop => "loop"
  | consoleOutput => "console_output"
  | expression => "expression"

end Action

/-- The log entry of a step. -/
structure Entry where
  step : Nat
  line : Nat
  action : Action
  details : Text
  recordedAt : Instant
  callStack : CallStack
  bindings : List Variable
deriving DecidableEq, BEq

/-- The text that introduces a step: its number and its line, aligned to the right. -/
def stepText (step line : Nat) : Text :=
  "step ".toList ++ Text.padStart ' ' 3 (Text.ofNat step) ++ "  line ".toList ++
    Text.padStart ' ' 3 (Text.ofNat line) ++ "  ".toList

/-- The text of a log entry. -/
def Entry.display (e : Entry) : Text :=
  stepText e.step e.line ++ e.action.label ++ ": ".toList ++ e.details

/-- What can be seen of a run after a step. -/
structure Snapshot where
  bindings : List Variable
  callStack : CallStack
  log : List Entry
  /-- The line of the step, zero before the first step. -/
  line : Nat
  step : Nat
  /-- Whether the run ended with this step. -/
  isComplete : Bool
  fault : Option Fault
  output : List Text
deriving DecidableEq, BEq

namespace Snapshot

/-- The snapshot before the first step. -/
def initial : Snapshot := ⟨[], [], [], 0, 0, false, none, []⟩

/-- The only other snapshot of a script whose declarations are faulty. -/
def rejected (fault : DeclarationFault) : Snapshot :=
  { initial with
    line := fault.line, step := 1, isComplete := true, fault := some (.declaration fault) }

/-- The variable of a name. -/
def lookup? (s : Snapshot) (name : Text) : Option Variable :=
  s.bindings.find? fun v => v.name == name

/-- The log entry of the snapshot's own step; a failed step has none. -/
def lastEntry? (s : Snapshot) : Option Entry := s.log.getLast?.filter fun e => e.step == s.step

/-- The message of the fault. -/
def faultMessage? (s : Snapshot) : Option Text := s.fault.map Fault.message

/-- One line about the step: its log entry, or that the run halted; and the fault, if there is
one. -/
def describe (s : Snapshot) : Text :=
  let text := match s.lastEntry? with
    | some e => e.display
    | none => stepText s.step s.line ++ "halted".toList
  match s.faultMessage? with
  | some message => text ++ "  [".toList ++ message ++ [']']
  | none => text

end Snapshot
end Stepwise
