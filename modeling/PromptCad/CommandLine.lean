import PromptCad.CommandLine.Arguments

/-! The program as a whole, from its arguments to the status that it ends with. -/

namespace PromptCad.CommandLine

def versionText : String := "tcad 0.1.0\n"

def helpText : String :=
  "Build simple solids from prompts like 'cube 20mm' and export them as STL\n\n" ++
  "Usage: tcad [OPTIONS] [PROMPTS]...\n\n" ++
  "  -s, --script <SCRIPT>  File with one prompt per line\n" ++
  "  -o, --output <OUTPUT>  Write the exported mesh here\n" ++
  "  -f, --format <FORMAT>  ascii or binary\n" ++
  "      --name <NAME>      Solid name in ASCII STL\n" ++
  "  -c, --config <CONFIG>  Configuration file\n" ++
  "      --dump-ir          Print the model as JSON after all prompts\n" ++
  "      --load <LOAD>      Resume from a saved session\n" ++
  "      --save <SAVE>      Save the session when done\n" ++
  "  -h, --help             Print help\n" ++
  "  -V, --version          Print version\n"

def failureStatus : Nat := 1

/-- The status when the arguments make no sense. -/
def misuseStatus : Nat := 2

def run {m : Type → Type} [Monad m] (args : List String) (files : FileStore m) (console : Console m) : m Nat := do
  match parse args with
  | .error .help =>
    console.display helpText
    return 0
  | .error .version =>
    console.display versionText
    return 0
  | .error .misuse => return misuseStatus
  | .ok job => match ← job.run files console with
    | .ok 0 => return 0
    | .ok failures =>
      console.log (.failed failures)
      return failureStatus
    | .error r =>
      console.report r
      return failureStatus

end PromptCad.CommandLine
