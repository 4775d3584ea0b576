import Stepwise.Declaration

/-!
# Faults

What can end a run early: a faulty declaration, a variable that is read before it has a value, or
the budget of steps.
-/

namespace Stepwise

/-- The classes of faults. -/
inductive FaultKind where
  | parse
  | evaluation
  | resourceExceeded
deriving DecidableEq, Repr

namespace FaultKind

/-- The name of a class in archives. -/
def tag : FaultKind → Text
  | parse => "parse"
  | evaluation => "evaluation"
  | resourceExceeded => "resource_exceeded"

/-- The name of a class in messages. -/
def label : FaultKind → Text
  | parse => "parse error"
  | evaluation => "evaluation error"
  | resourceExceeded => "resource exceeded"

end FaultKind

/-- What ended a run early. -/
inductive Fault where
  | declaration (fault : DeclarationFault)
  /-- The expression of line `line` is a name without a value. -/
  | undefinedVariable (name : Text) (line : Nat)
  /-- More lines were left after `limit` steps. -/
  | budgetExceeded (limit : Nat)
deriving DecidableEq, Repr

namespace Fault

/-- The class of a fault. -/
def kind : Fault → FaultKind
  | declaration _ => .parse
  | undefinedVariable _ _ => .evaluation
  | budgetExceeded _ => .resourceExceeded

/-- The line at fault, for the faults that have one. -/
def line? : Fault → Option Nat
  | declaration fault => some fault.line
  | undefinedVariable _ line => some line
  | budgetExceeded _ => none

/-- The text of the message. -/
def message : Fault → Text
  | declaration fault => fault.message
  | undefinedVariable name line =>
    "Variable '".toList ++ name ++ "' is not defined (line ".toList ++ Text.ofNat line ++ [')']
  | budgetExceeded limit =>
    "Maximum execution steps exceeded (".toList ++ Text.ofNat limit ++ [')']

end Fault
end Stepwise
