import FieldFormula.Text.Search
import FieldFormula.Text.Utf8

/-!
# Files

A workspace says what reading and creating files by their paths leads to.  `Folder` holds
files in memory and serves as a workspace.
-/

namespace FieldFormula.CommandLine

/-- Why a file cannot be read or created. -/
inductive FileError where
  | notFound
  | notDirectory
  | isDirectory
  | other (message : String)
  deriving DecidableEq, Repr

/-- The message of an error. -/
def FileError.message : FileError → String
  | .notFound => "No such file or directory (os error 2)"
  | .notDirectory => "Not a directory (os error 20)"
  | .isDirectory => "Is a directory (os error 21)"
  | .other message => message

/-- The files that can be read, and the error that creating a file meets, if any. -/
structure Workspace where
  read : String → Except FileError (List UInt8)
  create : String → Option FileError

/-- The text of a file, or the message of the reason why there is none. -/
def Workspace.readText (w : Workspace) (path : String) : Except String (List Char) :=
  match w.read path with
  | .error e => .error e.message
  | .ok bytes =>
    match Text.decode bytes with
    | .ok s => .ok s
    | .error _ => .error "stream did not contain valid UTF-8"

/-! ### Folders -/

/-- Files in memory, by the parts of their paths. -/
abbrev Folder := List (List String × List UInt8)

/-- The parts of a path between its slashes.  Empty parts and single points mean
nothing. -/
def partsOf (path : String) : List String :=
  ((Text.splitOn ['/'] path.toList).map String.ofList).filter fun p => p != "" && p != "."

/-- Whether a path can only name a directory. -/
def endsAsDirectory (path : String) : Bool :=
  match path.toList.reverse with
  | '/' :: _ => true
  | '.' :: '/' :: _ => true
  | _ => false

namespace Folder

/-- The folder of files by their paths. -/
def ofFiles (files : List (String × List UInt8)) : Folder :=
  files.map fun (path, content) => (partsOf path, content)

/-- Whether a path leads to a directory, the folder itself included. -/
def isDirectory (f : Folder) (parts : List String) : Bool :=
  parts.isEmpty || f.any fun (p, _) => parts.isPrefixOf p && parts != p

/-- Whether a path leads through a file as if it were a directory. -/
def passesFile (f : Folder) (parts : List String) : Bool :=
  f.any fun (p, _) => p.isPrefixOf parts && p != parts

/-- The content of a file. -/
def read (f : Folder) (path : String) : Except FileError (List UInt8) :=
  let parts := partsOf path
  match f.lookup parts with
  | some content => if endsAsDirectory path then .error .notDirectory else .ok content
  | none =>
    .error (if f.isDirectory parts then .isDirectory
      else if f.passesFile parts then .notDirectory
      else .notFound)

/-- The error that creating a file meets. -/
def create (f : Folder) (path : String) : Option FileError :=
  let parts := partsOf path
  if f.isDirectory parts then some .isDirectory
  else if f.passesFile parts then some .notDirectory
  else if !f.isDirectory parts.dropLast then some .notFound
  else if endsAsDirectory path then
    some (if (f.lookup parts).isSome then .notDirectory else .isDirectory)
  else none

/-- The folder as a workspace. -/
def workspace (f : Folder) : Workspace :=
  ⟨f.read, f.create⟩

/-- The folder with a file written. -/
def write (f : Folder) (path : String) (content : List UInt8) : Folder :=
  (partsOf path, content) :: f.filter (·.1 != partsOf path)

end Folder

end FieldFormula.CommandLine
