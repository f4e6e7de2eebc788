/-
  The program: it prints a source file with syntax highlighting.
-/
import SyntaxColor.CommandLine.Outcome

namespace SyntaxColor.CommandLine

/-- Why the system could not read a file. -/
def readErrorOf : IO.Error → ReadError
  | .noFileOrDirectory _ _ _ => .noSuchFile
  | .inappropriateType _ 21 _ => .isADirectory
  | .inappropriateType .. => .notADirectory
  | error => .other error.toString

/-- The text of a source. -/
def readSource (source : Source) : IO (Except ReadError Text) := do
  try
    let bytes ← match source with
      | .standardInput => (← IO.getStdin).readBinToEnd
      | .file path => IO.FS.readBinFile (String.ofList path)
    return decodeSource bytes
  catch error => return .error (readErrorOf error)

/-- The color switch that the surroundings of the program ask for. -/
def colorsAtStart : IO Bool := do
  let force ← IO.getEnv "CLICOLOR_FORCE"
  let never ← IO.getEnv "NO_COLOR"
  let ordinary ← IO.getEnv "CLICOLOR"
  let toTerminal ← (← IO.getStdout).isTty
  let setting? : String → Option String
    | "CLICOLOR_FORCE" => force
    | "NO_COLOR" => never
    | "CLICOLOR" => ordinary
    | _ => none
  return initialColors setting? toTerminal

/-- Do what the arguments ask for; the result is the exit status. -/
def runProgram (arguments : List String) : IO UInt32 := do
  let request := Request.ofArguments {} (arguments.map String.toList)
  let outcome ← request.run readSource (← colorsAtStart)
  (← IO.getStdout).putStr (String.ofList outcome.output)
  match outcome with
  | .usageError => (← IO.getStderr).putStr (String.ofList helpText)
  | _ => (← IO.getStderr).putStr (String.ofList outcome.errorOutput)
  return outcome.status.toUInt32

end SyntaxColor.CommandLine

/-- The program, with its arguments. -/
def main (arguments : List String) : IO UInt32 :=
  SyntaxColor.CommandLine.runProgram arguments
