/-
  A directory of files and empty directories, and how paths are read in it.

  Nothing outside the directory can be read: of a path that leaves it only the directories above
  are known to be there.
-/
import SyntaxColor.CommandLine.Source

namespace SyntaxColor.CommandLine

/-- What a name in a directory stands for. -/
inductive Entry where
  | file (bytes : ByteArray)
  | emptyDirectory

/-- A directory: its names and what they stand for, the last of a name being the one that counts. -/
abbrev Directory := List (Text × Entry)

namespace Directory

/-- Where the parts of a path lead to. -/
inductive Place where
  /-- This many directories above the one given. -/
  | above (levels : Nat)
  | inside
  | file (bytes : ByteArray)

/-- The entry of a name. -/
def entry? (directory : Directory) (name : Text) : Option Entry := directory.reverse.lookup name

/-- The place that one more part of a path leads to.  Behind a file there is none. -/
def descend (directory : Directory) (place : Place) (part : Text) : Except ReadError Place :=
  match place with
  | .file _ => .error .notADirectory
  | .inside =>
    if isIdlePart part then .ok .inside
    else if part = ['.', '.'] then .ok (.above 0)
    else .error .noSuchFile
  | .above levels =>
    if isIdlePart part then .ok place
    else if part = ['.', '.'] then .ok (.above (levels + 1))
    else match levels, directory.entry? part with
      | 0, some (.file bytes) => .ok (.file bytes)
      | 0, some .emptyDirectory => .ok .inside
      | _, _ => .error .noSuchFile

/-- The bytes of the file that a path leads to. -/
def read (directory : Directory) (path : Text) : Except ReadError ByteArray := do
  let start := match path with
    | '/' :: _ => 1
    | _ => 0
  match ← (pathParts path).foldlM directory.descend (.above start) with
  | .file bytes => return bytes
  | _ => throw .isADirectory

end Directory
end SyntaxColor.CommandLine
