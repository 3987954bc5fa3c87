import PromptCad.Files
import PromptCad.Model
import PromptCad.Reader
import PromptCad.Settings
import PromptCad.Stl
import PromptCad.Text.Utf8

/-! All that can go wrong between a prompt and a file, and what the user is told. -/

namespace PromptCad

inductive SettingsError where
  | file (fault : FileFault)
  | text (fault : ReadError)
  | invalid (fault : SettingsFault)
deriving DecidableEq

inductive SessionError where
  | file (fault : FileFault)
  | notText (fault : Text.Utf8Fault)
  | text (fault : ReadError)
  | model (fault : ModelError)
  | tooManyPrimitives (found limit : Nat)
  | idsExhausted
deriving DecidableEq

inductive Error where
  | prompt (e : PromptError)
  | model (e : ModelError)
  | exporting (e : ExportError)
  | settings (e : SettingsError)
  | session (e : SessionError)
deriving DecidableEq

def ReadError.message : ReadError → String
  | malformed => "the text is malformed"
  | refused e => e.message

def Text.Utf8Fault.message : Text.Utf8Fault → String
  | invalid index length =>
    "invalid utf-8 sequence of " ++ Decimal.natText length ++ " bytes from index " ++ Decimal.natText index
  | incomplete index => "incomplete utf-8 byte sequence from index " ++ Decimal.natText index

def fileText (fault : FileFault) : String := "IO error: " ++ fault.message

def unreadable (reason : String) : String := "Deserialization error: " ++ reason

def SettingsError.message : SettingsError → String
  | file fault => fileText fault
  | text fault => unreadable fault.message
  | invalid fault => "Invalid configuration: " ++ fault.message

def SessionError.message : SessionError → String
  | file fault => fileText fault
  | notText fault => unreadable fault.message
  | text fault => unreadable fault.message
  | model fault => unreadable fault.message
  | tooManyPrimitives found limit =>
    "Saved model holds " ++ Decimal.natText found ++ " primitives, limit is " ++ Decimal.natText limit
  | idsExhausted => unreadable "primitive ids exhausted"

def Error.message : Error → String
  | prompt e => e.message
  | model e => e.message
  | exporting e => e.message
  | settings e => e.message
  | session e => e.message

end PromptCad
