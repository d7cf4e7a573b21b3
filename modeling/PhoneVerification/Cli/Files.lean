/-!
# Files of a working folder

A path is followed name by name from the working folder. Only what the folder holds can be read;
whatever lies outside of it is taken to hold no file.
-/

namespace PhoneVerification.Cli

/-- Why a file cannot be read. -/
inductive FileError
  | missing
  | notFolder
  | isFolder
  | nameTooLong
  | other (text : String)
  deriving DecidableEq, Repr

namespace FileError

/-- The error in words. -/
def text : FileError → String
  | missing => "No such file or directory (os error 2)"
  | notFolder => "Not a directory (os error 20)"
  | isFolder => "Is a directory (os error 21)"
  | nameTooLong => "File name too long (os error 36)"
  | other text => text

end FileError

/-- What can be read: the content of a file by its path. -/
abbrev Files : Type := String → Except FileError String

/-- The files below a folder, each with the names that lead to it. -/
structure Folder where
  files : List (List String × String)
  deriving DecidableEq, Repr

namespace Folder

/-- A place that a path leads to. -/
inductive Place
  | outside
  | folder (names : List String)
  | file (content : String)
  deriving DecidableEq, Repr

/-- The names between slashes. -/
def namesOf (path : String) : List String :=
  (path.toList.splitOn '/').map String.ofList

/-- The folder that holds files with the given paths. -/
def ofFiles (files : List (String × String)) : Folder :=
  ⟨files.map fun f => ((namesOf f.1).filter fun name => name ≠ "" && name ≠ ".", f.2)⟩

/-- Whether a folder lies below this one. -/
def hasFolder (f : Folder) (names : List String) : Bool :=
  f.files.any fun file => names.isPrefixOf file.1 && names.length < file.1.length

/-- Follows a name from a place. An empty name and a single dot lead to the same folder, two dots
to the one around it. -/
def follow (f : Folder) (place : Place) (name : String) : Except FileError Place :=
  match place with
  | .file _ => .error .notFolder
  | .outside =>
    if name = "" || name = "." || name = ".." then .ok .outside
    else if 255 < name.utf8ByteSize then .error .nameTooLong
    else .error .missing
  | .folder names =>
    if name = "" || name = "." then .ok place
    else if name = ".." then .ok (if names.isEmpty then .outside else .folder names.dropLast)
    else if 255 < name.utf8ByteSize then .error .nameTooLong
    else
      match f.files.lookup (names ++ [name]) with
      | some content => .ok (.file content)
      | none =>
        if f.hasFolder (names ++ [name]) then .ok (.folder (names ++ [name])) else .error .missing

/-- The place that a path leads to. A path that starts with a slash leads out of the folder. -/
def locate (f : Folder) (path : String) : Except FileError Place :=
  if 4096 ≤ path.utf8ByteSize then .error .nameTooLong
  else
    match namesOf path with
    | "" :: rest => rest.foldlM f.follow .outside
    | names => names.foldlM f.follow (.folder [])

/-- Reads a file. -/
def read (f : Folder) : Files := fun path =>
  if path.isEmpty then .error .missing
  else
    match f.locate path with
    | .error e => .error e
    | .ok (.file content) => .ok content
    | .ok _ => .error .isFolder

end Folder

end PhoneVerification.Cli
