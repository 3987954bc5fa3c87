import PromptCad.CommandLine.Job

/-! The arguments of the command line. Options may be written long or short, with their value after an equals sign,
attached to the letter or as the next argument. A value that is the next argument must not look like an option. -/

namespace PromptCad.CommandLine

/-- An option that takes a value. -/
inductive Key where
  | script
  | output
  | format
  | name
  | config
  | load
  | save
deriving DecidableEq

inductive Flag where
  | dump
  | help
  | version
deriving DecidableEq

inductive Choice where
  | key (k : Key)
  | flag (f : Flag)
deriving DecidableEq

namespace Choice

def long? : String → Option Choice
  | "script" => some (key .script)
  | "output" => some (key .output)
  | "format" => some (key .format)
  | "name" => some (key .name)
  | "config" => some (key .config)
  | "load" => some (key .load)
  | "save" => some (key .save)
  | "dump-ir" => some (flag .dump)
  | "help" => some (flag .help)
  | "version" => some (flag .version)
  | _ => none

def short? : Char → Option Choice
  | 's' => some (key .script)
  | 'o' => some (key .output)
  | 'f' => some (key .format)
  | 'c' => some (key .config)
  | 'h' => some (flag .help)
  | 'V' => some (flag .version)
  | _ => none

end Choice

/-- Why no job comes of the arguments. -/
inductive Stop where
  | help
  | version
  /-- The arguments make no sense. -/
  | misuse

def formatOf? : String → Option Stl.Format
  | "ascii" => some .ascii
  | "binary" => some .binary
  | _ => none

def fill {α : Type} (place : Option α) (a : α) : Except Stop (Option α) :=
  if place.isSome then .error .misuse else .ok (some a)

def fillPath (place : Option String) (path : String) : Except Stop (Option String) :=
  if path = "" then .error .misuse else fill place path

structure Reading where
  job : Job := {}
  format : Option Stl.Format := none
  /-- An option whose value has to come next. -/
  pending : Option Key := none

namespace Reading

/-- Takes the value of an option. Each option comes at most once. -/
def give (r : Reading) (k : Key) (value : String) : Except Stop Reading := do
  let job := r.job
  match k with
  | .script => return { r with job := { job with script := ← fillPath job.script value } }
  | .output => return { r with job := { job with output := ← fillPath job.output value } }
  | .config => return { r with job := { job with config := ← fillPath job.config value } }
  | .load => return { r with job := { job with load := ← fillPath job.load value } }
  | .save => return { r with job := { job with save := ← fillPath job.save value } }
  | .name => return { r with job := { job with name := ← fill job.name value } }
  | .format => match formatOf? value with
    | none => throw .misuse
    | some format => return { r with format := ← fill r.format format }

def raise (r : Reading) : Flag → Except Stop Reading
  | .help => .error .help
  | .version => .error .version
  | .dump => if r.job.dump then .error .misuse else .ok { r with job := { r.job with dump := true } }

def prompt (r : Reading) (text : String) : Reading :=
  { r with job := { r.job with prompts := r.job.prompts ++ [text] } }

/-- The letters of a group of short options. The first that takes a value takes the rest of the group. -/
def letters (r : Reading) : List Char → Except Stop Reading
  | [] => .ok r
  | c :: rest => match Choice.short? c with
    | none => .error .misuse
    | some (.flag f) => do (← r.raise f).letters rest
    | some (.key k) => match rest with
      | [] => .ok { r with pending := some k }
      | '=' :: value => r.give k (String.ofList value)
      | value => r.give k (String.ofList value)

/-- A long option, which may have a value after an equals sign. -/
def long (r : Reading) (s : List Char) : Except Stop Reading :=
  let name := String.ofList (s.takeWhile (· ≠ '='))
  let value := (s.dropWhile (· ≠ '=')).tail?
  match Choice.long? name, value with
  | some (.flag f), none => r.raise f
  | some (.key k), none => .ok { r with pending := some k }
  | some (.key k), some value => r.give k (String.ofList value)
  | _, _ => .error .misuse

/-- An argument that is no option: the value that is waited for, or a prompt. -/
def word (r : Reading) (text : String) : Except Stop Reading :=
  match r.pending with
  | some k => do return { (← r.give k text) with pending := none }
  | none => .ok (r.prompt text)

def settled (r : Reading) : Except Stop Unit := if r.pending.isSome then .error .misuse else .ok ()

/-- The arguments in their order. After two dashes there are only prompts. -/
def arguments (r : Reading) : List String → Except Stop Reading
  | [] => do
    r.settled
    return r
  | text :: rest => match text.toList with
    | ['-', '-'] => do
      r.settled
      return rest.foldl prompt r
    | '-' :: '-' :: s => do
      r.settled
      (← r.long s).arguments rest
    | '-' :: c :: s => do
      r.settled
      (← r.letters (c :: s)).arguments rest
    | _ => do (← r.word text).arguments rest

end Reading

def parse (args : List String) : Except Stop Job := do
  let r ← Reading.arguments {} args
  return { r.job with format := r.format.getD .ascii }

end PromptCad.CommandLine
