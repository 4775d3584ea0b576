import Stepwise.Json.Library
import Stepwise.Recording

/-!
# Archives

An archive has all that is needed to replay a run: the source, its listing, the snapshots, the
settings and the time of archiving. Archives are written as JSON and read back, with any library.

For every part of an archive there is a pair of functions, `toJson` and a decoder, which undo one
another.
-/

namespace Stepwise

/-- A run as it is kept. -/
structure Archive where
  source : Text
  listing : Listing
  snapshots : List Snapshot
  settings : Settings
  archivedAt : Instant
deriving DecidableEq, BEq

/-! ### Names -/

/-- The variant of a name among all variants. -/
def findNamed? {ν : Type} (all : List ν) (nameOf : ν → Text) (name : Text) : Option ν :=
  all.find? fun v => nameOf v == name

variable (lib : Library)

namespace Kind

/-- The document of a kind. -/
def toJson (k : Kind) : Json := .string k.name

/-- Decodes a kind. -/
def decode : Decoder lib.Node Kind := lib.named (findNamed? all name)

end Kind

namespace Action

/-- The document of an action. -/
def toJson (a : Action) : Json := .string a.name

/-- Decodes an action. -/
def decode : Decoder lib.Node Action := lib.named (findNamed? all name)

end Action

namespace Language

/-- The document of a language. -/
def toJson (l : Language) : Json := .string l.name

/-- Decodes a language. -/
def decode : Decoder lib.Node Language := lib.named (findNamed? all name)

end Language

/-- The document of an instant. -/
def Instant.toJson (i : Instant) : Json := .string (lib.timestamp i)

/-! ### Values -/

namespace Number

/-- The document of a number: a numeral, or the name of a number that has none. -/
def toJson (n : Number) : Json :=
  if n.isFinite then .number (lib.numeral n) else .string n.display

/-- The number of a name that `toJson` writes. -/
def ofName? (name : Text) : Option Number :=
  [nan, infinity false, infinity true].find? fun n => n.display == name

/-- Decodes a number. -/
def decode : Decoder lib.Node Number := fun d => do
  match ← lib.numberOrText d with
  | .inl n => return n
  | .inr name =>
    match ofName? name with
    | some n => return n
    | none => .error .mismatched

end Number

namespace Value

/-- The content of a value that has one. -/
def contentToJson? : Value → Option Json
  | number n => some (n.toJson lib)
  | string text => some (.string text)
  | boolean b => some (.bool b)
  | undefined => none
  | null => none
  | raw text => some (.string text)

/-- The document of a value. -/
def toJson (v : Value) : Json :=
  .object (("type".toList, v.kind.toJson) ::
    match v.contentToJson? lib with
    | some content => [("value".toList, content)]
    | none => [])

/-- The format of values. -/
def format : TaggedFormat lib.Node Kind Value where
  tagName := "type"
  contentName := "value"
  find? := findNamed? Kind.all Kind.name
  bare
    | .undefined => .ok undefined
    | .null => .ok null
    | _ => .error .mismatched
  content kind d := match kind with
    | .number => (Number.decode lib d).map number
    | .string => (lib.text d).map string
    | .boolean => (lib.bool d).map boolean
    | .undefined => (lib.unit d).map fun () => undefined
    | .null => (lib.unit d).map fun () => null
    | .raw => (lib.text d).map raw

/-- Decodes a value. -/
def decode : Decoder lib.Node Value := lib.tagged (format lib)

end Value

/-! ### Variables and frames -/

namespace Variable

/-- The document of a variable. -/
def toJson (v : Variable) : Json := .object [
  ("name", .string v.name),
  ("value", v.value.toJson lib),
  ("type", v.kind.toJson),
  ("scope", .string v.scope),
  ("is_new", .bool v.isNew),
  ("is_modified", .bool v.isModified)]

/-- The format of variables. -/
def format : RecordFormat lib.Node Variable where
  start := ⟨[], .undefined, .undefined, [], false, false⟩
  members := [
    ⟨"name", fun v d => return { v with name := ← lib.text d }, .required⟩,
    ⟨"value", fun v d => return { v with value := ← Value.decode lib d }, .required⟩,
    ⟨"type", fun v d => return { v with kind := ← Kind.decode lib d }, .required⟩,
    ⟨"scope", fun v d => return { v with scope := ← lib.text d }, .required⟩,
    ⟨"is_new", fun v d => return { v with isNew := ← lib.bool d }, .required⟩,
    ⟨"is_modified", fun v d => return { v with isModified := ← lib.bool d }, .required⟩]

/-- Decodes a variable. -/
def decode : Decoder lib.Node Variable := lib.record (format lib)

end Variable

namespace Frame

/-- The document of a frame. -/
def toJson (f : Frame) : Json := .object [
  ("function_name", .string f.function),
  ("line_number", .ofNat f.line),
  ("parameters", .ofList (Variable.toJson lib) f.parameters),
  ("return_value", .ofOption (Value.toJson lib) f.returned)]

/-- The format of frames. -/
def format : RecordFormat lib.Node Frame where
  start := ⟨[], 0, [], none⟩
  members := [
    ⟨"function_name", fun f d => return { f with function := ← lib.text d }, .required⟩,
    ⟨"line_number", fun f d => return { f with line := ← lib.nat d }, .required⟩,
    ⟨"parameters", fun f d => return { f with parameters := ← lib.list (Variable.decode lib) d },
      .required⟩,
    ⟨"return_value", fun f d => return { f with returned := ← lib.option (Value.decode lib) d },
      .optional⟩]

/-- Decodes a frame. -/
def decode : Decoder lib.Node Frame := lib.record (format lib)

end Frame

/-! ### Faults -/

/-- A name and a line, as faults have them. -/
structure NameAndLine where
  name : Text
  line : Nat
deriving DecidableEq, Repr

namespace NameAndLine

/-- The document of a name and a line. -/
def toJson (n : NameAndLine) : Json := .object [("name", .string n.name), ("line", .ofNat n.line)]

/-- The format of a name and a line. -/
def format : RecordFormat lib.Node NameAndLine where
  start := ⟨[], 0⟩
  members := [
    ⟨"name", fun n d => return { n with name := ← lib.text d }, .required⟩,
    ⟨"line", fun n d => return { n with line := ← lib.nat d }, .required⟩]

end NameAndLine

namespace DeclarationFault

/-- The two kinds of faulty declarations. -/
inductive Variant where
  | missingBrace
  | unclosedBody
deriving DecidableEq, Repr

/-- Both kinds. -/
def Variant.all : List Variant := [missingBrace, unclosedBody]

/-- The name of a kind. -/
def Variant.name : Variant → Text
  | missingBrace => "MalformedFunction"
  | unclosedBody => "UnbalancedFunctionBody"

/-- The fault of a kind. -/
def ofVariant : Variant → NameAndLine → DeclarationFault
  | .missingBrace, n => missingBrace n.name n.line
  | .unclosedBody, n => unclosedBody n.name n.line

/-- The document of a faulty declaration. -/
def toJson : DeclarationFault → Json
  | missingBrace name line =>
    .object [(Variant.missingBrace.name, NameAndLine.toJson ⟨name, line⟩)]
  | unclosedBody name line =>
    .object [(Variant.unclosedBody.name, NameAndLine.toJson ⟨name, line⟩)]

/-- The format of faulty declarations. -/
def format : VariantFormat lib.Node Variant DeclarationFault where
  find? := findNamed? Variant.all Variant.name
  bare _ := .error .mismatched
  content v d := (lib.record (NameAndLine.format lib) d).map (ofVariant v)

/-- Decodes a faulty declaration. -/
def decode : Decoder lib.Node DeclarationFault := lib.variant (format lib)

end DeclarationFault

namespace Fault

/-- The kinds of faults in archives. -/
inductive Variant where
  | declaration
  | undefinedVariable
  | budgetExceeded
deriving DecidableEq, Repr

/-- All kinds. -/
def Variant.all : List Variant := [declaration, undefinedVariable, budgetExceeded]

/-- The name of a kind. -/
def Variant.name : Variant → Text
  | declaration => "parse"
  | undefinedVariable => "undefined_variable"
  | budgetExceeded => "step_budget_exceeded"

/-- The format of the limit of steps. -/
def limitFormat : RecordFormat lib.Node Nat where
  start := 0
  members := [⟨"limit", fun _ d => lib.nat d, .required⟩]

/-- The document of a kind and its details. -/
def tagged (v : Variant) (detail : Json) : Json :=
  .object [("error", .string v.name), ("detail", detail)]

/-- The document of a fault. -/
def toJson : Fault → Json
  | declaration fault => tagged .declaration fault.toJson
  | undefinedVariable name line => tagged .undefinedVariable (NameAndLine.toJson ⟨name, line⟩)
  | budgetExceeded limit => tagged .budgetExceeded (.object [("limit", .ofNat limit)])

/-- The format of faults. -/
def format : TaggedFormat lib.Node Variant Fault where
  tagName := "error"
  contentName := "detail"
  find? := findNamed? Variant.all Variant.name
  bare _ := .error .mismatched
  content v d := match v with
    | .declaration => (DeclarationFault.decode lib d).map declaration
    | .undefinedVariable => (lib.contentRecord (NameAndLine.format lib) d).map fun n =>
        undefinedVariable n.name n.line
    | .budgetExceeded => (lib.contentRecord (limitFormat lib) d).map budgetExceeded

/-- Decodes a fault. -/
def decode : Decoder lib.Node Fault := lib.tagged (format lib)

end Fault

/-! ### Entries and snapshots -/

namespace Entry

/-- The document of a log entry. -/
def toJson (e : Entry) : Json := .object [
  ("step", .ofNat e.step),
  ("line", .ofNat e.line),
  ("action", e.action.toJson),
  ("details", .string e.details),
  ("timestamp", e.recordedAt.toJson lib),
  ("call_stack", .ofList (Frame.toJson lib) e.callStack),
  ("variables", .ofList (Variable.toJson lib) e.bindings)]

/-- The format of log entries. -/
def format : RecordFormat lib.Node Entry where
  start := ⟨0, 0, .expression, [], .epoch, [], []⟩
  members := [
    ⟨"step", fun e d => return { e with step := ← lib.nat d }, .required⟩,
    ⟨"line", fun e d => return { e with line := ← lib.nat d }, .required⟩,
    ⟨"action", fun e d => return { e with action := ← Action.decode lib d }, .required⟩,
    ⟨"details", fun e d => return { e with details := ← lib.text d }, .required⟩,
    ⟨"timestamp", fun e d => return { e with recordedAt := ← lib.instant d }, .required⟩,
    ⟨"call_stack", fun e d => return { e with callStack := ← lib.list (Frame.decode lib) d },
      .required⟩,
    ⟨"variables", fun e d => return { e with bindings := ← lib.list (Variable.decode lib) d },
      .required⟩]

/-- Decodes a log entry. -/
def decode : Decoder lib.Node Entry := lib.record (format lib)

end Entry

namespace Snapshot

/-- The document of a snapshot. -/
def toJson (s : Snapshot) : Json := .object [
  ("variables", .ofList (Variable.toJson lib) s.bindings),
  ("call_stack", .ofList (Frame.toJson lib) s.callStack),
  ("trace", .ofList (Entry.toJson lib) s.log),
  ("current_line", .ofNat s.line),
  ("current_step", .ofNat s.step),
  ("is_complete", .bool s.isComplete),
  ("error", .ofOption Fault.toJson s.fault),
  ("output", .ofList .string s.output)]

/-- The format of snapshots. -/
def format : RecordFormat lib.Node Snapshot where
  start := initial
  members := [
    ⟨"variables", fun s d => return { s with bindings := ← lib.list (Variable.decode lib) d },
      .required⟩,
    ⟨"call_stack", fun s d => return { s with callStack := ← lib.list (Frame.decode lib) d },
      .required⟩,
    ⟨"trace", fun s d => return { s with log := ← lib.list (Entry.decode lib) d }, .required⟩,
    ⟨"current_line", fun s d => return { s with line := ← lib.nat d }, .required⟩,
    ⟨"current_step", fun s d => return { s with step := ← lib.nat d }, .required⟩,
    ⟨"is_complete", fun s d => return { s with isComplete := ← lib.bool d }, .required⟩,
    ⟨"error", fun s d => return { s with fault := ← lib.option (Fault.decode lib) d }, .optional⟩,
    ⟨"output", fun s d => return { s with output := ← lib.list lib.text d }, .required⟩]

/-- Decodes a snapshot. -/
def decode : Decoder lib.Node Snapshot := lib.record (format lib)

end Snapshot

/-! ### Settings and archives -/

namespace Settings

/-- The document of settings. -/
def toJson (s : Settings) : Json := .object [
  ("language", s.language.toJson),
  ("max_steps", .ofNat s.maxSteps),
  ("timeout_ms", .ofNat s.timeoutMs),
  ("memory_limit_mb", .ofNat s.memoryLimitMb)]

/-- The format of settings; what is missing has its usual value. -/
def format : RecordFormat lib.Node Settings where
  start := default
  members := [
    ⟨"language", fun s d => return { s with language := ← Language.decode lib d }, .defaulted⟩,
    ⟨"max_steps", fun s d => return { s with maxSteps := ← lib.nat d }, .defaulted⟩,
    ⟨"timeout_ms", fun s d => return { s with timeoutMs := ← lib.nat d }, .defaulted⟩,
    ⟨"memory_limit_mb", fun s d => return { s with memoryLimitMb := ← lib.nat d }, .defaulted⟩]

/-- Decodes settings. -/
def decode : Decoder lib.Node Settings := lib.record (format lib)

end Settings

namespace Archive

/-- The archive of a recording. -/
def ofRecording (r : Recording) (archivedAt : Instant) : Archive :=
  ⟨r.source, r.listing, r.history.snapshots, r.settings, archivedAt⟩

/-- The document of an archive. -/
def toJson (a : Archive) : Json := .object [
  ("source", .string a.source),
  ("lines", .ofList .string a.listing.lines),
  ("states", .ofList (Snapshot.toJson lib) a.snapshots),
  ("config", a.settings.toJson),
  ("exported_at", a.archivedAt.toJson lib)]

/-- The format of archives. -/
def format : RecordFormat lib.Node Archive where
  start := ⟨[], ⟨[]⟩, [], .default, .epoch⟩
  members := [
    ⟨"source", fun a d => return { a with source := ← lib.text d }, .required⟩,
    ⟨"lines", fun a d => return { a with listing := ⟨← lib.list lib.text d⟩ }, .required⟩,
    ⟨"states", fun a d => return { a with snapshots := ← lib.list (Snapshot.decode lib) d },
      .required⟩,
    ⟨"config", fun a d => return { a with settings := ← Settings.decode lib d }, .required⟩,
    ⟨"exported_at", fun a d => return { a with archivedAt := ← lib.instant d }, .required⟩]

/-- Decodes an archive. -/
def decode : Decoder lib.Node Archive := lib.record (format lib)

/-- The text of an archive. -/
def write (a : Archive) : Text := lib.print (a.toJson lib)

/-- Reads the text of an archive. -/
def read (text : Text) : Except JsonFault Archive := lib.readText (decode lib) text

end Archive
end Stepwise
