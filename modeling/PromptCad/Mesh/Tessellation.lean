import PromptCad.Mesh.Box
import PromptCad.Mesh.Sphere
import PromptCad.Model
import PromptCad.Settings

/-! From primitives to meshes. -/

namespace PromptCad

def Solid.mesh (s : Solid) (r : Resolution) : Mesh :=
  match s with
  | .box width depth height => .box width depth height
  | .cylinder radius height => .cylinder radius height r.cylinder
  | .sphere radius => .sphere radius r.latitude r.longitude

def Primitive.mesh (p : Primitive) (r : Resolution) : Mesh := (p.solid.mesh r).translate p.position

def Mesh.ofPrimitives (ps : List Primitive) (r : Resolution) : Mesh :=
  ps.foldl (fun m p => m.append (p.mesh r)) .empty

/-- The recorded operations leave no trace in it. -/
def Model.mesh (m : Model) (r : Resolution) : Mesh := .ofPrimitives m.primitives r

end PromptCad
