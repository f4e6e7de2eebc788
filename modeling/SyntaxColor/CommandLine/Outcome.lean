/-
  What the program prints and how it ends.
-/
import SyntaxColor.CommandLine.Source
import SyntaxColor.Highlight
import SyntaxColor.Listing

namespace SyntaxColor.CommandLine

/-! ## The color switch -/

/-- The color switch at the start of the program.  A variable that forces colors wins over the one
    that forbids them, and without either a terminal has colors unless it is said to have none. -/
def initialColors (setting? : String → Option String) (toTerminal : Bool) : Bool :=
  let allows (name : String) := (setting? name).map fun value => value != "0"
  if allows "CLICOLOR_FORCE" = some true then true
  else if (setting? "NO_COLOR").isSome then false
  else allows "CLICOLOR" != some false && toTerminal

/-! ## Fixed texts -/

/-- The name and the version of the program. -/
def versionText : Text := "js-highlight 0.1.0\n".toList

/-- What the program does and the arguments it takes, line by line. -/
def helpLines : List String :=
  ["terminal syntax highlighting for JavaScript and JSX",
  "",
  "Usage: js-highlight [OPTIONS] [FILE]",
  "",
  "Arguments:",
  "  [FILE]  JavaScript file to print, standard input if omitted or `-`",
  "",
  "Options:",
  "      --force-color  Highlight even if colors are disabled for the terminal",
  "      --tokens       Print the category of each token instead of highlighting",
  "  -h, --help         Print help",
  "  -V, --version      Print version"]

/-- What the program does and the arguments it takes. -/
def helpText : Text := helpLines.flatMap fun line => line.toList ++ ['\n']

/-! ## Outcomes -/

/-- How the program ends. -/
inductive Outcome where
  | success (output : Text)
  /-- The source cannot be read. -/
  | failure (complaint : Text)
  /-- The arguments are wrong. -/
  | usageError
  deriving DecidableEq

/-- The exit status. -/
def Outcome.status : Outcome → Nat
  | .success _ => 0
  | .failure _ => 1
  | .usageError => 2

/-- What is written to standard output. -/
def Outcome.output : Outcome → Text
  | .success output => output
  | _ => []

/-- What is written to standard error; of wrong arguments this says nothing. -/
def Outcome.errorOutput : Outcome → Text
  | .failure complaint => complaint ++ ['\n']
  | _ => []

/-- What is printed of a source. -/
def Options.present (options : Options) (source : Text) : Switched Text :=
  if options.tokens then return source.listing
  else Highlight.forTerminal options.forceColor source

/-- What comes of a request; `read` reads sources, and `colors` is the switch at the start. -/
def Request.run {m : Type → Type} [Monad m] (read : Source → m (Except ReadError Text))
    (colors : Bool) : Request → m Outcome
  | .help => return .success helpText
  | .version => return .success versionText
  | .usageError => return .usageError
  | .print options => do
    match ← read options.source with
    | .ok source => return .success ((options.present source).run colors).run.1
    | .error error => return .failure (options.source.complaint error)

end SyntaxColor.CommandLine
