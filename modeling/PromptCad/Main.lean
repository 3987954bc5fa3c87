import PromptCad.CommandLine

/-! The program on a real disk and a real terminal. -/

namespace PromptCad.CommandLine

def faultOfCode (code : UInt32) (details : String) : FileFault :=
  match code with
  | 2 => .notFound
  | 6 => .noDevice
  | 20 => .notDirectory
  | 21 => .isDirectory
  | 28 => .noSpace
  | 36 => .nameTooLong
  | _ => .other details

def faultOf : IO.Error → FileFault
  | .noFileOrDirectory _ code details => faultOfCode code details
  | .inappropriateType _ code details => faultOfCode code details
  | .resourceExhausted _ code details => faultOfCode code details
  | .invalidArgument _ code details => faultOfCode code details
  | e => .other (toString e)

def attempt {α : Type} (act : IO α) : IO (Except FileFault α) := do
  try return .ok (← act) catch e => return .error (faultOf e)

def disk : FileStore IO where
  read path := attempt (IO.FS.readBinFile path)
  write path bytes := attempt (IO.FS.writeBinFile path bytes)

/-- The standard streams. A person at a terminal is not waited for, and the log is off. -/
def standardConsole : Console IO where
  input := attempt do
    let input ← IO.getStdin
    if ← input.isTty then return .empty
    input.readBinToEnd
  display text := IO.print text
  report r := IO.eprint r.line
  log _ := pure ()

end PromptCad.CommandLine

open PromptCad CommandLine in
def main (args : List String) : IO UInt32 := do
  let status ← run args disk standardConsole
  if status = misuseStatus then IO.eprint (Report.lineOf "the arguments make no sense, try --help")
  return UInt32.ofNat status
