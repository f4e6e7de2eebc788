/-
  What the arguments of the command line ask for.

  Arguments are taken from the left, and the first of them that asks for help or for the version,
  or that is wrong, decides.  A flag stands at most once, and so does a file.
-/
import SyntaxColor.Text

namespace SyntaxColor.CommandLine

/-- What a single argument is, as long as options are recognized. -/
inductive Argument where
  /-- A file; the empty path is no file. -/
  | path (path : Text)
  /-- The mark behind which every argument is a file. -/
  | endOfOptions
  | forceColor
  | tokens
  | help
  | version
  | unknown
  deriving DecidableEq

/-- What an argument is.  Of several short options in one argument the first one counts, and a
    single dash is a file. -/
def Argument.ofText (argument : Text) : Argument :=
  if argument = "--".toList then .endOfOptions
  else if argument = "--force-color".toList then .forceColor
  else if argument = "--tokens".toList then .tokens
  else if argument = "--help".toList then .help
  else if argument = "--version".toList then .version
  else match argument with
    | '-' :: 'h' :: _ => .help
    | '-' :: 'V' :: _ => .version
    | '-' :: _ :: _ => .unknown
    | _ => .path argument

/-- What is to be printed, and how. -/
structure Options where
  /-- The file, standard input if there is none. -/
  path? : Option Text := none
  /-- Highlight although colors are off. -/
  forceColor : Bool := false
  /-- Print the category of each fragment instead. -/
  tokens : Bool := false
  deriving DecidableEq

/-- The options with a file, if it has a name and is the only one. -/
def Options.withPath? (options : Options) (path : Text) : Option Options :=
  if path = [] ∨ options.path?.isSome then none else some { options with path? := some path }

/-- The options with all of `paths` as files. -/
def Options.withPaths? (options : Options) (paths : List Text) : Option Options :=
  paths.foldlM Options.withPath? options

/-- What a command line asks for. -/
inductive Request where
  | help
  | version
  | usageError
  | print (options : Options)
  deriving DecidableEq

/-- The request for what `options?` says, a wrong one if that is nothing. -/
def Request.ofOptions? (options? : Option Options) : Request :=
  match options? with
  | some options => .print options
  | none => .usageError

/-- What the arguments ask for, after others that gave `options`. -/
def Request.ofArguments (options : Options) : List Text → Request
  | [] => .print options
  | argument :: rest =>
    match Argument.ofText argument with
    | .endOfOptions => .ofOptions? (options.withPaths? rest)
    | .help => .help
    | .version => .version
    | .unknown => .usageError
    | .forceColor =>
      if options.forceColor then .usageError
      else ofArguments { options with forceColor := true } rest
    | .tokens =>
      if options.tokens then .usageError else ofArguments { options with tokens := true } rest
    | .path path =>
      match options.withPath? path with
      | some options => ofArguments options rest
      | none => .usageError

end SyntaxColor.CommandLine
