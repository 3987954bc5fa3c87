import PromptCad.Session

/-! What there is to tell of the work itself, for those who follow it in a log: which template a line fits, what becomes
of each prompt, how large a mesh is. Nothing depends on these events. -/

namespace PromptCad

inductive Level where
  | debug
  | info
  | warning
deriving DecidableEq

inductive Event where
  | processing (count : Nat)
  | matched (template : Prompt.Template) (line : String)
  | built (id : String) (kind : Kind)
  | rejectedPrompt (text : String) (fault : PromptError)
  | rejectedCommand (text : String) (fault : ModelError)
  | applied (command : String) (primitives : Nat)
  | skippedOperations (count : Nat)
  | tessellated (primitives triangles : Nat)
  | exported (format : Stl.Format) (triangles bytes : Nat)
  | wrote (path : String) (bytes : Nat)
  | saved (path : String)
  | failed (count : Nat)

namespace Event

def level : Event → Level
  | matched .. | built .. | skippedOperations .. | tessellated .. => .debug
  | processing .. | applied .. | exported .. | wrote .. | saved .. => .info
  | rejectedPrompt .. | rejectedCommand .. | failed .. => .warning

/-- Whether the event comes from the library. The others come from the program around it. -/
def ofLibrary : Event → Bool
  | processing .. | wrote .. | saved .. | failed .. => false
  | _ => true

/-- Whether the event is shown when nothing else has been asked for. -/
def isUsual (e : Event) : Bool := e.ofLibrary && e.level == .warning

end Event

def Action.name : Action → String
  | create _ => "create"
  | add _ => "add"
  | clear => "clear"

namespace Prompt

def buildEvents (text : List Char) (ids : IdCounter) : List Event :=
  let line := normalizeChars text
  match Sentence.ofLine line with
  | .ok (some sentence) =>
    .matched sentence.template (String.ofList line) ::
      match sentence.solid.bind ids.issue with
      | .ok (p, _) => [.built p.id p.kind]
      | .error _ => []
  | _ => []

def events (text : String) (ids : IdCounter) : List Event :=
  let line := normalizeChars text.toList
  if line = [] ∨ line = "clear".toList then []
  else match splitVerb? line with
    | some (_, rest) => buildEvents rest ids
    | none => buildEvents line ids

end Prompt

namespace Session

def verdict (s : Session) (text : String) : Event :=
  match Prompt.parse text s.ids with
  | .error e => .rejectedPrompt text e
  | .ok (action, _) =>
    match s.model.apply action with
    | .error e => .rejectedCommand text e
    | .ok model => .applied action.name model.primitives.length

def events (s : Session) (text : String) : List Event := Prompt.events text s.ids ++ [s.verdict text]

def exportEvents (s : Session) (format : Stl.Format) : List Event :=
  if s.model.primitives.isEmpty then []
  else
    let mesh := s.mesh .exported
    (if s.model.operations.isEmpty then [] else [.skippedOperations s.model.operations.length]) ++
      .tessellated s.model.primitives.length mesh.triangles.size ::
        match Stl.encode format mesh s.settings.solidName with
        | .ok bytes => [.exported format mesh.triangles.size bytes.size]
        | .error _ => []

end Session

end PromptCad
