import Stepwise.Text.Basic

/-!
# Settings

The settings of a run. Only the budget of steps has an effect; the others are carried along.
-/

namespace Stepwise

/-- The languages that a script may be declared to be in. -/
inductive Language where
  | javascript
  | python
  | java
  | cpp
deriving DecidableEq, Repr

namespace Language

/-- All languages. -/
def all : List Language := [javascript, python, java, cpp]

/-- The name of a language. -/
def name : Language → Text
  | javascript => "javascript"
  | python => "python"
  | java => "java"
  | cpp => "cpp"

/-- The language of a name. -/
def ofName? (name : Text) : Option Language := all.find? fun l => l.name == name

/-- Whether the rules by which scripts are run are those of the language. -/
def isExecutable (l : Language) : Bool := l == javascript

end Language

/-- The settings of a run. -/
structure Settings where
  language : Language
  maxSteps : Nat
  timeoutMs : Nat
  memoryLimitMb : Nat
deriving DecidableEq, Repr

namespace Settings

/-- The settings that hold when nothing else is said. -/
def default : Settings := ⟨.javascript, 1000, 30000, 100⟩

/-- The budget of steps: at least one. -/
def budget (s : Settings) : Nat := max 1 s.maxSteps

end Settings
end Stepwise
