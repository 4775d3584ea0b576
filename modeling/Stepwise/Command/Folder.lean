import Stepwise.Text.Basic

/-!
# Files

What can go wrong with files, and a folder of files in memory. Names of files are paths relative to
the folder; nothing is known outside of it.
-/

namespace Stepwise

/-- What can go wrong with a file. -/
inductive FileFault where
  | notFound
  | notADirectory
  | isADirectory
  /-- The path, or a name along it, has too many bytes. -/
  | nameTooLong
  /-- The path holds a NUL character. -/
  | nulInName
  /-- The content is not text in UTF-8. -/
  | notText
  /-- Any other fault, by its code, its kind and its description. -/
  | other (code : Nat) (kind description : Text)
deriving DecidableEq, Repr

namespace FileFault

/-- The number that the system gives a fault. What is wrong with a text is no fault of the
system. -/
def code? : FileFault → Option Nat
  | notFound => some 2
  | notADirectory => some 20
  | isADirectory => some 21
  | nameTooLong => some 36
  | nulInName => none
  | notText => none
  | other code _ _ => some code

/-- The name of the kind of a fault. -/
def kind : FileFault → Text
  | notFound => "NotFound"
  | notADirectory => "NotADirectory"
  | isADirectory => "IsADirectory"
  | nameTooLong => "InvalidFilename"
  | nulInName => "InvalidInput"
  | notText => "InvalidData"
  | other _ kind _ => kind

/-- The description of a fault. -/
def description : FileFault → Text
  | notFound => "No such file or directory"
  | notADirectory => "Not a directory"
  | isADirectory => "Is a directory"
  | nameTooLong => "File name too long"
  | nulInName => "file name contained an unexpected NUL byte"
  | notText => "stream did not contain valid UTF-8"
  | other _ _ description => description

/-- The text of the message. -/
def message (f : FileFault) : Text :=
  match f.code? with
  | some code => f.description ++ " (os error ".toList ++ Text.ofNat code ++ [')']
  | none => f.description

end FileFault

/-- A folder of files: their names and contents. -/
structure Folder where
  files : List (Text × Text)
deriving DecidableEq, Repr

namespace Folder

/-- The names along a path; names that mean the folder itself are left out. -/
def parts (path : Text) : List Text :=
  (path.splitOn '/').filter fun part => !part.isEmpty && part != ['.']

/-- The content of a file by the names along its path. -/
def content? (folder : Folder) (names : List Text) : Option Text :=
  (folder.files.find? fun (name, _) => parts name == names).map Prod.snd

/-- Whether the names along a path lead to a folder. -/
def hasFolder (folder : Folder) (names : List Text) : Bool :=
  names.isEmpty || folder.files.any fun (name, _) =>
    names.isPrefixOf (parts name) && names != parts name

/-- The name of the folder that a folder is in. -/
def parentName : Text := ['.', '.']

/-- How many bytes a path may have. -/
def longestPath : Nat := 4095

/-- How many bytes a name along a path may have. -/
def longestName : Nat := 255

/-- Follows names from the folder at `place` up to the last one, which need not be there. All others
must be folders. Outside there are only folders on the way to this one. -/
def follow (folder : Folder) (place : List Text) : List Text → Except FileFault (List Text)
  | [] => .ok place
  | name :: rest =>
    if name = parentName then
      if place.isEmpty then
        if rest.all (· = parentName) then .error .isADirectory else .error .notFound
      else folder.follow place.dropLast rest
    else if longestName < Text.utf8Size name then .error .nameTooLong
    else
      let place := place ++ [name]
      if rest.isEmpty ∨ folder.hasFolder place then folder.follow place rest
      else if (folder.content? place).isSome then .error .notADirectory
      else .error .notFound

/-- Where a path leads to: the names along the shortest path to the same place. -/
def locate (folder : Folder) (path : Text) : Except FileFault (List Text) :=
  if path.contains '\x00' then .error .nulInName
  else if path.isEmpty then .error .notFound
  else if longestPath < Text.utf8Size path then .error .nameTooLong
  else if path.head? = some '/' then
    if (parts path).all (· = parentName) then .error .isADirectory else .error .notFound
  else
    match folder.follow [] (parts path) with
    | .error fault => .error fault
    | .ok place => if folder.hasFolder place then .error .isADirectory else .ok place

/-- Whether a path can only lead to a folder. -/
def endsInFolder (path : Text) : Bool :=
  match (path.splitOn '/').getLast? with
  | some name => name.isEmpty || name = ['.']
  | none => false

/-- Reads a file. -/
def read (folder : Folder) (path : Text) : Except FileFault Text := do
  match folder.content? (← folder.locate path) with
  | some content => if endsInFolder path then .error .notADirectory else return content
  | none => .error .notFound

/-- Writes a file; the folder that it is in must be there. -/
def write (folder : Folder) (path content : Text) : Except FileFault Folder := do
  let place ← folder.locate path
  if path.getLast? = some '/' then .error .isADirectory
  else if endsInFolder path then
    .error (if (folder.content? place).isSome then .notADirectory else .notFound)
  else
    let others := folder.files.filter fun (name, _) => parts name != place
    return ⟨others ++ [(List.intercalate ['/'] place, content)]⟩

end Folder
end Stepwise
