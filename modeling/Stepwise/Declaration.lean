import Stepwise.Text.Word
import Stepwise.Text.Quoted
import Stepwise.Listing

/-!
# Declarations

A declaration is a header line `function name(parameters)`, a brace at its end or alone on the next
line, and a body that lasts until the braces are balanced again.

- `Header.ofLine?` recognises header lines,
- `takeBody?` finds the body by counting braces,
- `DeclarationTable.ofListing` collects the declarations of a listing, or tells the first header
  that has no opening brace or no closing one.

Header lines, and opening braces that stand alone after a header, are *structural*, and so are lines
that hold nothing but a closing brace. Structural lines are never executed.
-/

namespace Stepwise

/-! ### Headers -/

/-- The parts of a header line. -/
structure Header where
  name : Text
  parameters : List Text
  /-- Whether the line ends with the opening brace of the body. -/
  opensBody : Bool
deriving DecidableEq, Repr

namespace Header

/-- The parameter names of a parameter text: what stands between commas, blanks apart. -/
def splitParameters (text : Text) : List Text :=
  ((text.splitOn ',').map Text.trim).filter fun name => !name.isEmpty

/-- Whether the text after the parameters opens the body; `none` for any other text. -/
def opensBody? (rest : Text) : Option Bool :=
  match rest.trim with
  | [] => some false
  | ['{'] => some true
  | _ => none

/-- Reads a header line. -/
def ofLine? (line : Text) : Option Header := do
  let rest ← Text.stripStart? "function" line
  let first ← rest.head?
  if !isBlank first then none
  else
    let (name, rest) := rest.trimStart.spanWord
    if name.isEmpty then none
    else
      let rest ← Text.openParen? rest
      let (parameters, rest) ← rest.cutAt? ')'
      let opensBody ← opensBody? rest
      return ⟨name, splitParameters parameters, opensBody⟩

end Header

/-! ### Bodies -/

/-- The lines up to the first one after which at most zero braces are open, when `depth` are open
before the first line. -/
def takeBody? (depth : Int) : List Text → Option (List Text)
  | [] => none
  | line :: rest =>
    let depth := depth + line.braceBalance
    if depth ≤ 0 then some [] else (takeBody? depth rest).map (line :: ·)

/-- A declared function. -/
structure Declaration where
  name : Text
  parameters : List Text
  /-- The lines between the opening and the closing brace. -/
  body : List Text
  /-- The number of the header line. -/
  line : Nat
deriving DecidableEq, Repr

/-- What is wrong with a header, told with the declared name and the number of the line. -/
inductive DeclarationFault where
  /-- No opening brace follows the header. -/
  | missingBrace (name : Text) (line : Nat)
  /-- The braces of the body are never balanced. -/
  | unclosedBody (name : Text) (line : Nat)
deriving DecidableEq, Repr

namespace DeclarationFault

/-- The line of the header at fault. -/
def line : DeclarationFault → Nat
  | missingBrace _ line => line
  | unclosedBody _ line => line

/-- The text of the message. -/
def message : DeclarationFault → Text
  | missingBrace name line =>
    "Function '".toList ++ name ++ "' declared at line ".toList ++ Text.ofNat line
      ++ " has no opening brace".toList
  | unclosedBody name line =>
    "Function '".toList ++ name ++ "' declared at line ".toList ++ Text.ofNat line
      ++ " is missing its closing brace".toList

end DeclarationFault

namespace Header

/-- The lines after the opening brace, where `rest` are the lines after the header. -/
def afterBrace? (header : Header) (rest : List Text) : Option (List Text) :=
  if header.opensBody then some rest
  else match rest with
    | ['{'] :: rest => some rest
    | _ => none

/-- The numbers of the structural lines of a header on line `number`. -/
def structuralLines (header : Header) (number : Nat) : List Nat :=
  if header.opensBody then [number] else [number, number + 1]

/-- The declaration of a header on line `number`, where `rest` are the lines after it. -/
def declare (header : Header) (number : Nat) (rest : List Text) :
    Except DeclarationFault Declaration :=
  match header.afterBrace? rest with
  | none => .error (.missingBrace header.name number)
  | some rest =>
    match takeBody? 1 rest with
    | none => .error (.unclosedBody header.name number)
    | some body => .ok ⟨header.name, header.parameters, body, number⟩

end Header

/-! ### Tables -/

/-- The declarations of a listing. -/
structure DeclarationTable where
  /-- One declaration for each declared name, by line. -/
  declarations : List Declaration
  /-- The numbers of header lines and of the opening braces that stand alone after them. -/
  structural : List Nat
deriving DecidableEq, Repr

namespace DeclarationTable

/-- The table without declarations. -/
def empty : DeclarationTable := ⟨[], []⟩

/-- The declaration of a name. -/
def get? (table : DeclarationTable) (name : Text) : Option Declaration :=
  table.declarations.find? fun d => d.name == name

/-- Whether a name is declared. -/
def contains (table : DeclarationTable) (name : Text) : Bool := (table.get? name).isSome

/-- Adds a declaration that follows those of the table; it replaces an earlier one of the same
name. -/
def insert (table : DeclarationTable) (d : Declaration) : DeclarationTable :=
  { table with declarations := table.declarations.filter (fun e => e.name != d.name) ++ [d] }

/-- Collects the declarations of the lines from line `number` on. -/
def scan (number : Nat) : List Text → DeclarationTable → Except DeclarationFault DeclarationTable
  | [], table => .ok table
  | line :: rest, table =>
    match Header.ofLine? line with
    | none => scan (number + 1) rest table
    | some header =>
      match header.declare number rest with
      | .error fault => .error fault
      | .ok d =>
        let table := table.insert d
        scan (number + 1) rest
          { table with structural := table.structural ++ header.structuralLines number }

/-- The declarations of a listing, or what is wrong with its first faulty header. -/
def ofListing (listing : Listing) : Except DeclarationFault DeclarationTable :=
  scan 1 listing.lines empty

/-- Whether a line belongs to the syntax of declarations or is a closing brace alone. -/
def isStructural (table : DeclarationTable) (number : Nat) (line : Text) : Bool :=
  line == ['}'] || table.structural.contains number

end DeclarationTable
end Stepwise
