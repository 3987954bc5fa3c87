import PromptCad.Model.Ron
import PromptCad.Session
import PromptCad.Settings.Ron

/-! Saved sessions: the model and the counter as a text, and what has to hold of such a text before it is a session
again. The settings are not saved. -/

namespace PromptCad

structure Saved where
  model : Model
  ids : IdCounter

def Saved.toRon (d : Saved) : Ron.Form :=
  .record "" [("model", d.model.toRon), ("ids", .record "" [("next", .natural d.ids.next)])]

structure SavedParts where
  model : Option Model := none
  ids : Option IdCounter := none

namespace Ron

def counterField (fuel : Nat) (scope : Scope) (key : String) (next : Option Nat) : Reader (Option Nat) := do
  if key = "next" then Reader.once next (natural IdCounter.last)
  else
    skip fuel (← enter scope)
    return next

def counter (fuel : Nat) (scope : Scope) : Reader IdCounter := do
  let next ← record fuel "IdGenerator" (counterField fuel (← enter scope)) none
  return ⟨← Reader.need next⟩

def savedField (fuel : Nat) (scope : Scope) (key : String) (parts : SavedParts) : Reader SavedParts := do
  let inside ← enter scope
  if key = "model" then return { parts with model := ← Reader.once parts.model (model fuel inside) }
  else if key = "ids" then return { parts with ids := ← Reader.once parts.ids (counter fuel inside) }
  else
    skip fuel inside
    return parts

def saved (fuel : Nat) (scope : Scope) : Reader Saved := do
  let parts ← record fuel "SessionData" (savedField fuel (← enter scope)) {}
  return ⟨← Reader.need parts.model, ← Reader.need parts.ids⟩

end Ron

def Saved.ofText (s : String) : Except ReadError Saved := Ron.readAll Ron.saved s.toList

/-- The counter moved past every number that an id of the model ends with. -/
def Saved.freshIds (d : Saved) : Except SessionError IdCounter :=
  let highest := d.model.highestIdNumber
  if IdCounter.last ≤ highest then .error .idsExhausted
  else .ok (if d.ids.next ≤ highest then .startingAt (highest + 1) else d.ids)

def Saved.session (d : Saved) (settings : Settings) : Except SessionError Session := do
  match d.model.check with
  | .error fault => throw (.model fault)
  | .ok () =>
    let found := d.model.primitives.length
    if settings.primitiveLimit < found then throw (.tooManyPrimitives found settings.primitiveLimit)
    let ids ← d.freshIds
    return ⟨{ d.model with limit := settings.primitiveLimit }, ids, settings⟩

namespace Session

def save (s : Session) : String := String.ofList ((Saved.toRon ⟨s.model, s.ids⟩).print 0)

/-- The session with given settings that bytes hold. The settings are checked first. -/
def load (bytes : ByteArray) (settings : Settings) : Except Error Session :=
  match settings.check with
  | .error fault => .error (.settings (.invalid fault))
  | .ok () =>
    match Text.decode bytes with
    | .error fault => .error (.session (.notText fault))
    | .ok text =>
      match Saved.ofText text with
      | .error fault => .error (.session (.text fault))
      | .ok d => (d.session settings).mapError .session

end Session

def Settings.ofText (text : String) : Except SettingsError Settings :=
  match Settings.ofRonText text with
  | .error fault => .error (.text fault)
  | .ok settings =>
    match settings.check with
    | .error fault => .error (.invalid fault)
    | .ok () => .ok settings

def Settings.ofFile (file : Except FileFault ByteArray) : Except SettingsError Settings :=
  match file.bind textOf with
  | .error fault => .error (.file fault)
  | .ok text => Settings.ofText text

def Session.ofFile (file : Except FileFault ByteArray) (settings : Settings) : Except Error Session :=
  match file with
  | .error fault => .error (.session (.file fault))
  | .ok bytes => Session.load bytes settings

end PromptCad
