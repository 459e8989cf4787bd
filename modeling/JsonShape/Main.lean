import JsonShape.Command.Usage
import JsonShape.Host

/-!
# The command line

The words of the command line name what is done. A word too many or too few ends with status two.
-/

/-- Run the command that the words name. -/
def main (words : List String) : IO UInt32 := do
  match JsonShape.Command.Invocation.ofWords words with
  | .ok invocation => JsonShape.Host.perform invocation
  | .error .help =>
    IO.println JsonShape.Command.helpText
    return 0
  | .error error =>
    IO.eprintln error.message
    return 2
