import PromptCad.CommandLine.Console
import PromptCad.Model.Json
import PromptCad.Session.Saved

/-! One run of the program: which files and prompts it takes, and what it does with them. A job is written over an
arbitrary place for files and an arbitrary console, so that it means the same on a machine and in memory. -/

namespace PromptCad.CommandLine

structure Job where
  /-- Prompts given as arguments. -/
  prompts : List String := []
  script : Option String := none
  output : Option String := none
  format : Stl.Format := .ascii
  name : Option String := none
  config : Option String := none
  /-- Whether the model is shown at the end. -/
  dump : Bool := false
  load : Option String := none
  save : Option String := none

/-- The prompts among lines: trimmed, without those that are blank or start with a number sign. -/
def promptLines (lines : List (List Char)) : List String :=
  ((lines.map Text.trim).filter fun line => !line.isEmpty && line.head? ≠ some '#').map String.ofList

def linesOf (s : List Char) : List (List Char) := s.splitOn '\n'

def promptsOfText (text : String) : List String := promptLines (linesOf text.toList)

def promptsOfFile (file : Except FileFault ByteArray) : Except FileFault (List String) :=
  (file.bind textOf).map promptsOfText

variable {m : Type → Type} [Monad m]

/-- The session after prompts in their order, and how many of them were refused. -/
def submitAll (console : Console m) (s : Session) : List String → m (Session × Nat)
  | [] => return (s, 0)
  | text :: rest => do
    (s.events text).forM console.log
    match s.submit text with
    | .ok t => submitAll console t rest
    | .error e =>
      console.report (.error e)
      let (t, count) ← submitAll console s rest
      return (t, count + 1)

namespace Job

/-- The settings in force: those of the configuration file, under the name that is given. -/
def settings (job : Job) (files : FileStore m) : m (Except Error Settings) := do
  let found ← match job.config with
    | none => pure (.ok .standard)
    | some path => do pure ((Settings.ofFile (← files.read path)).mapError .settings)
  return found.map fun s => { s with solidName := job.name.getD s.solidName }

def session (job : Job) (files : FileStore m) : m (Except Error Session) := do
  match ← job.settings files with
  | .error e => return .error e
  | .ok settings => match job.load with
    | none => return Session.start settings
    | some path => return Session.ofFile (← files.read path) settings

/-- The prompts of the script and then those given as arguments. Without any of them the input is read. -/
def collect (job : Job) (files : FileStore m) (console : Console m) : m (Except Report (List String)) := do
  match job.script with
  | some path =>
    return ((promptsOfFile (← files.read path)).mapError (.unread path)).map
      (· ++ promptLines (job.prompts.map String.toList))
  | none =>
    if job.prompts.isEmpty then return (promptsOfFile (← console.input)).mapError .unreadInput
    else return .ok (promptLines (job.prompts.map String.toList))

def showModel (job : Job) (console : Console m) (s : Session) : m Unit := do
  if job.dump then console.display (s.model.jsonText ++ "\n")

/-- Writes the mesh, if it is asked for, and tells how many failures that counts for. The lack of a mesh is reported and
ends nothing; a failure to write does. -/
def writeMesh (job : Job) (files : FileStore m) (console : Console m) (s : Session) : m (Except Report Nat) := do
  match job.output with
  | none => return .ok 0
  | some path =>
    (s.exportEvents job.format).forM console.log
    match s.encode job.format with
    | .error e =>
      console.report (.error e)
      return .ok 1
    | .ok bytes => match ← files.write path bytes with
      | .error fault => return .error (.unwritten path fault)
      | .ok () =>
        console.log (.wrote path bytes.size)
        return .ok 0

def writeSession (job : Job) (files : FileStore m) (console : Console m) (s : Session) : m (Except Report Unit) := do
  match job.save with
  | none => return .ok ()
  | some path => match ← files.write path s.save.toUTF8 with
    | .error fault => return .error (.error (.session (.file fault)))
    | .ok () =>
      console.log (.saved path)
      return .ok ()

/-- What is done with the session and the prompts of a job. It tells how many failures there were, or what could not be
written. -/
def work (job : Job) (files : FileStore m) (console : Console m) (s : Session) (prompts : List String) :
    m (Except Report Nat) := do
  console.log (.processing prompts.length)
  let (t, refused) ← submitAll console s prompts
  job.showModel console t
  match ← job.writeMesh files console t with
  | .error r => return .error r
  | .ok lacking => return (← job.writeSession files console t).map fun () => refused + lacking

/-- Does a job, and tells how many failures there were, or what kept it from being done. -/
def run (job : Job) (files : FileStore m) (console : Console m) : m (Except Report Nat) := do
  match ← job.session files with
  | .error e => return .error (.error e)
  | .ok s => match ← job.collect files console with
    | .error r => return .error r
    | .ok prompts => job.work files console s prompts

end Job

end PromptCad.CommandLine
