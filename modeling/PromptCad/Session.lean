import PromptCad.Error
import PromptCad.Mesh.Tessellation
import PromptCad.Prompt.Action

/-! Sessions: a model, the counter behind its ids and the settings, driven by prompts. -/

namespace PromptCad

structure Session where
  model : Model
  ids : IdCounter
  settings : Settings
deriving DecidableEq

namespace Session

def standard : Session := ⟨.empty, {}, .standard⟩

def start (settings : Settings) : Except Error Session := do
  match settings.check with
  | .error fault => throw (.settings (.invalid fault))
  | .ok () => return ⟨.withLimit settings.primitiveLimit, {}, settings⟩

end Session

def Model.apply (m : Model) : Action → Except ModelError Model
  | .create p => .ok (m.create p)
  | .add p => m.add p
  | .clear => .ok m.clear

namespace Session

def submit (s : Session) (text : String) : Except Error Session :=
  match Prompt.parse text s.ids with
  | .error e => .error (.prompt e)
  | .ok (action, ids) =>
    match s.model.apply action with
    | .error e => .error (.model e)
    | .ok model => .ok { s with model, ids }

/-- The session after a prompt, which is the same as before if the prompt is refused. -/
def step (s : Session) (text : String) : Session :=
  match s.submit text with
  | .ok t => t
  | .error _ => s

def run (s : Session) (texts : List String) : Session := texts.foldl step s

def mesh (s : Session) (quality : Quality) : Mesh := s.model.mesh (s.settings.resolution quality)

/-- The file for the whole model, which has to hold a primitive. -/
def encode (s : Session) (format : Stl.Format) : Except Error ByteArray :=
  if s.model.primitives.isEmpty then .error (.exporting .emptyModel)
  else (Stl.encode format (s.mesh .exported) s.settings.solidName).mapError .exporting

/-- The session with nothing in it, numbering from one again. -/
def reset (s : Session) : Session :=
  { s with model := .withLimit s.settings.primitiveLimit, ids := {} }

theorem step_of_submit {s t : Session} {text : String} (h : s.submit text = .ok t) : s.step text = t := by
  simp [step, h]

@[simp] theorem run_nil (s : Session) : s.run [] = s := rfl

@[simp] theorem run_cons (s : Session) (text : String) (texts : List String) :
    s.run (text :: texts) = (s.step text).run texts := rfl

theorem run_append (s : Session) (a b : List String) : s.run (a ++ b) = (s.run a).run b := by
  simp [run, List.foldl_append]

theorem settings_submit {s t : Session} {text : String} (h : s.submit text = .ok t) :
    t.settings = s.settings := by
  unfold submit at h
  split at h
  · contradiction
  · split at h
    · contradiction
    · cases h; rfl

end Session

end PromptCad
