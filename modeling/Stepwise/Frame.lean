import Stepwise.Variable

/-!
# Call frames

A frame records a call of a declared function. Since no line ever returns from a function, frames
are only pushed. The latest frame names the scope that snapshots show.
-/

namespace Stepwise

/-- A recorded call. -/
structure Frame where
  function : Text
  /-- The line of the call. -/
  line : Nat
  parameters : List Variable
  returned : Option Value
deriving DecidableEq, BEq

/-- The calls made so far, the first one first. -/
abbrev CallStack := List Frame

namespace CallStack

/-- The name of the scope outside all calls. -/
def globalScope : Text := "global"

/-- The latest call. -/
def current? (stack : CallStack) : Option Frame := stack.getLast?

/-- The name of the current scope: the function called last. -/
def scope (stack : CallStack) : Text :=
  match current? stack with
  | some frame => frame.function
  | none => globalScope

end CallStack
end Stepwise
