/-
  Where a source comes from, and why it cannot be read.
-/
import SyntaxColor.CommandLine.Request

namespace SyntaxColor.CommandLine

/-! ## Paths -/

/-- The parts of a path between its slashes. -/
def pathParts : Text → List Text
  | [] => [[]]
  | '/' :: rest => [] :: pathParts rest
  | c :: rest => (pathParts rest).modifyHead (c :: ·)

/-- Whether a part of a path, behind its first one, leads nowhere else. -/
def isIdlePart (part : Text) : Bool := part = [] || part = ['.']

/-- Whether a path is a single dash, apart from parts that lead nowhere else. -/
def isDash (path : Text) : Bool :=
  match pathParts path with
  | first :: others => first = ['-'] && others.all isIdlePart
  | [] => false

/-! ## Sources -/

/-- Where a source comes from. -/
inductive Source where
  | standardInput
  | file (path : Text)
  deriving DecidableEq

/-- The source that the options name: a dash stands for standard input. -/
def Options.source (options : Options) : Source :=
  match options.path? with
  | none => .standardInput
  | some path => if isDash path then .standardInput else .file path

/-- Why a source cannot be read. -/
inductive ReadError where
  | noSuchFile
  | notADirectory
  | isADirectory
  | notUtf8
  /-- Any other reason, in the words of the system. -/
  | other (reason : String)
  deriving DecidableEq

/-- The reason in words. -/
def ReadError.reason : ReadError → String
  | .noSuchFile => "No such file or directory (os error 2)"
  | .notADirectory => "Not a directory (os error 20)"
  | .isADirectory => "Is a directory (os error 21)"
  | .notUtf8 => "stream did not contain valid UTF-8"
  | .other reason => reason

/-- What is said of a source that cannot be read. -/
def Source.complaint (source : Source) (error : ReadError) : Text :=
  match source with
  | .standardInput => "could not read standard input: ".toList ++ error.reason.toList
  | .file path => "could not open `".toList ++ path ++ "`: ".toList ++ error.reason.toList

/-- The text that the bytes of a source encode; a byte order mark is part of it. -/
def decodeSource (bytes : ByteArray) : Except ReadError Text :=
  match String.fromUTF8? bytes with
  | some source => .ok source.toList
  | none => .error .notUtf8

end SyntaxColor.CommandLine
