import PromptCad.Stl.Ascii
import PromptCad.Stl.Binary

/-! Meshes as STL files of either format. -/

namespace PromptCad

inductive ExportError where
  | emptyModel
deriving DecidableEq

def ExportError.message : ExportError → String
  | emptyModel => "Nothing to export: the model is empty"

namespace Stl

inductive Format where
  | ascii
  | binary
deriving DecidableEq

def Format.name : Format → String
  | ascii => "STL (ASCII)"
  | binary => "STL (binary)"

/-- The file for a mesh, which has to have a triangle. A binary file carries no name. -/
def encode (format : Format) (m : Mesh) (name : String) : Except ExportError ByteArray :=
  if m.isEmpty then .error .emptyModel
  else match format with
    | .ascii => .ok (Ascii.text name.toList m).toUTF8
    | .binary => .ok (Binary.file m)

end Stl

end PromptCad
