import Stepwise.Settings
import Stepwise.Toml.Reader

/-!
# Settings files

Settings are kept in TOML files. Every setting may be missing and then has its usual value; entries
that are no settings are ignored.
-/

namespace Stepwise

namespace Toml

/-- A natural number. -/
def nat? : Toml → Option Nat
  | integer n => if 0 ≤ n then some n.toNat else none
  | _ => none

/-- Whether an item has no items of its own. -/
def isEmpty : Toml → Bool
  | array items => items.isEmpty
  | inlineTable entries => entries.isEmpty
  | table _ _ entries => entries.isEmpty
  | tables items => items.isEmpty
  | _ => false

/-- A name, given as a string or as the only key of a table whose entry is empty. -/
def name? : Toml → Option Text
  | string text => some text
  | inlineTable [(name, item)] => if item.isEmpty then some name else none
  | table _ _ [(name, item)] => if item.isEmpty then some name else none
  | _ => none

/-- The setting of a key: its usual value if it is missing, and nothing if it is of the wrong
kind. -/
def Entries.setting? {α : Type} (entries : Entries) (key : Text) (usual : α)
    (read : Toml → Option α) : Option α :=
  match entries.get? key with
  | none => some usual
  | some item => read item

end Toml

namespace Settings

/-- The settings of a table. -/
def ofEntries? (entries : Toml.Entries) : Option Settings := do
  let language ← entries.setting? "language" default.language fun item =>
    item.name?.bind Language.ofName?
  let maxSteps ← entries.setting? "max_steps" default.maxSteps Toml.nat?
  let timeoutMs ← entries.setting? "timeout_ms" default.timeoutMs Toml.nat?
  let memoryLimitMb ← entries.setting? "memory_limit_mb" default.memoryLimitMb Toml.nat?
  return { language, maxSteps, timeoutMs, memoryLimitMb }

/-- The settings of a TOML text. -/
def ofToml? (text : Text) : Option Settings := (Toml.read? text).bind ofEntries?

end Settings
end Stepwise
