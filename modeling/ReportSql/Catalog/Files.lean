import ReportSql.Dict
import ReportSql.Text.Segment

/-!
# Files

The files that catalogs are read from: a tree of directories with the contents of its files and the
times at which they were last modified.  A path is walked step by step, and a step leads on only
from a directory.

## Main definitions

* `FileContent`, `FileEntry` — contents, files and directories.
* `Location` — a place in the tree.
* `Files` — what stands at every location.
* `FileError` — why a path cannot be read.
* `Files.find`, `Files.modified`, `Files.read` — what stands at the end of a path, its time and its
  text.
-/

namespace ReportSql

/-- The content of a file: a text, or bytes that are none. -/
inductive FileContent where
  | text (value : String)
  | undecodable
deriving DecidableEq

namespace FileContent

/-- The content of some bytes, which are a text when they are valid UTF-8. -/
def ofBytes (bytes : ByteArray) : FileContent :=
  match String.fromUTF8? bytes with
  | some s => .text s
  | none => .undecodable

end FileContent

/-- What stands at a path, with the time at which it was last modified. -/
inductive FileEntry where
  | file (content : FileContent) (modified : Int)
  | directory (modified : Int)
deriving DecidableEq

/-- Why a path cannot be read. -/
inductive FileError where
  | notFound
  | isDirectory
  | notDirectory
  | invalidData
deriving DecidableEq

namespace FileError

/-- What is said about a path that cannot be read. -/
def message : FileError → String
  | .notFound => "No such file or directory (os error 2)"
  | .isDirectory => "Is a directory (os error 21)"
  | .notDirectory => "Not a directory (os error 20)"
  | .invalidData => "stream did not contain valid UTF-8"

end FileError

/-- The time of what stands at a path. -/
def FileEntry.modified : FileEntry → Int
  | .file _ modified => modified
  | .directory modified => modified

/-- The same with another time. -/
def FileEntry.touched (time : Int) : FileEntry → FileEntry
  | .file content _ => .file content time
  | .directory _ => .directory time

/-! ## Locations -/

/-- A place in the tree of files: the names that lead to it from the root, the last one first.  A
place above the root is given by dots alone. -/
abbrev Location := List String

namespace Location

/-- Where one step of a path leads: nowhere new, up, or down to a name. -/
def step (l : Location) (name : String) : Location :=
  if name = "" ∨ name = "." then l
  else if name = ".." then
    match l with
    | [] => [".."]
    | last :: up => if last = ".." then ".." :: l else up
  else name :: l

/-- The names that a path is made of. -/
def steps (path : String) : List String :=
  (Text.splitWhere (· == '/') path.toList).map String.ofList

/-- Where a path starts: at the root, or above it when the path is absolute. -/
def start (path : String) : Location := if path.toList.head? = some '/' then [".."] else []

/-- Where a path leads if all its steps can be taken. -/
def ofPath (path : String) : Location := (steps path).foldl step (start path)

/-- The root and all places above it. -/
def isOutermost (l : Location) : Bool := l.all (· == "..")

/-- A location as the path that leads straight to it. -/
def path (l : Location) : String := "/".intercalate l.reverse

end Location

/-! ## The tree -/

/-- What stands at every location, under the path that leads straight to it. -/
abbrev Files := Dict FileEntry

namespace Files

/-- Whether a path leads straight through a directory. -/
def isBelow (directory path : String) : Bool :=
  (directory.toList ++ ['/']).isPrefixOf path.toList

variable (files : Files)

/-- What stands at a location.  The root is a directory, and so is what anything stands below. -/
def entryAt? (l : Location) : Option FileEntry :=
  if l.isOutermost then some (.directory 0)
  else
    match files.get? l.path with
    | some entry => some entry
    | none => if files.keys.any (isBelow l.path) then some (.directory 0) else none

/-- The location that the steps of a path lead to, each of them from a directory. -/
def walk : Location → List String → Except FileError Location
  | l, [] => .ok l
  | l, name :: names =>
    match files.entryAt? l with
    | some (.directory _) => walk (l.step name) names
    | some (.file ..) => .error .notDirectory
    | none => .error .notFound

/-- What stands at the end of a path. -/
def find (path : String) : Except FileError FileEntry := do
  let l ← files.walk (.start path) (Location.steps path)
  match files.entryAt? l with
  | some entry => .ok entry
  | none => .error .notFound

/-- The time of what stands at the end of a path. -/
def modified (path : String) : Except FileError Int := (files.find path).map FileEntry.modified

/-- The text of the file at the end of a path. -/
def read (path : String) : Except FileError String :=
  match files.find path with
  | .ok (.file (.text s) _) => .ok s
  | .ok (.file .undecodable _) => .error .invalidData
  | .ok (.directory _) => .error .isDirectory
  | .error e => .error e

/-- The files with one written. -/
def write (path : String) (content : FileContent) (time : Int) : Files :=
  files.insert (Location.ofPath path).path (.file content time)

/-- The files with a directory made. -/
def makeDirectory (path : String) (time : Int) : Files :=
  files.insert (Location.ofPath path).path (.directory time)

/-- The files with the time of one changed. -/
def touch (path : String) (time : Int) : Files :=
  let key := (Location.ofPath path).path
  match files.get? key with
  | some entry => files.insert key (entry.touched time)
  | none => files

/-- The files without what stands at a location and below it. -/
def remove (path : String) : Files :=
  let key := (Location.ofPath path).path
  files.filterKeys fun p => p != key && !isBelow key p

end Files

end ReportSql
