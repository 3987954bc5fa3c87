import PromptCad.Bounds
import PromptCad.Solid

/-! Primitives: solids of admitted size with an id, centred somewhere in space. -/

namespace PromptCad

structure Primitive where
  id : String
  solid : Solid
  position : Point
deriving DecidableEq

namespace Primitive

def kind (p : Primitive) : Kind := p.solid.kind

def make (id : String) (solid : Solid) : Except PromptError Primitive := do
  solid.check
  return ⟨id, solid, .origin⟩

/-- A primitive centred at a given point, all of whose coordinates have to be finite. -/
def place (id : String) (solid : Solid) (position : Point) : Except PromptError Primitive := do
  let p ← make id solid
  match position.toList.find? (!Float.isFinite ·) with
  | some bad => throw (.invalidDimension bad)
  | none => return { p with position }

def bounds (p : Primitive) : Bounds :=
  ⟨p.position - p.solid.halfExtents, p.position + p.solid.halfExtents⟩

end Primitive

end PromptCad
