import PromptCad.CommandLine.Console
import PromptCad.Files.Disk

/-! A console in memory. What is said and what is written to the devices of the same names come in the order in which
a run brings them forth. -/

namespace PromptCad.Disk

open CommandLine (Console Report)

/-- What a log says of an event. It may depend on all that has happened before. -/
abbrev Logger : Type := Disk → Event → ByteArray

def Logger.silent : Logger := fun _ _ => .empty

/-- A console whose log is written to where failures are reported. -/
def logging (logger : Logger) : Console (StateM Disk) where
  input := do
    let (bytes, d) := (← get).takeInput
    set d
    return .ok bytes
  display text := modify (·.print text.toUTF8)
  report r := modify (·.printError r.line.toUTF8)
  log e := modify fun d => d.printError (logger d e)

def console : Console (StateM Disk) := logging .silent

end PromptCad.Disk
