import PromptCad.Model
import PromptCad.Reader

/-! The parts of primitives and models as they come in from a text, in any order and each at most once. -/

namespace PromptCad

open scoped Power

def Reader.once {α : Type} (part : Option α) (r : Reader α) : Reader (Option α) :=
  if part.isSome then Reader.fail else some <$> r

abbrev MeasureParts := List (String × Float)

namespace MeasureParts

def holds (parts : MeasureParts) (name : String) : Bool := parts.any (·.1 == name)

/-- The solid, when every measure of its kind is there. -/
def solid? (parts : MeasureParts) (kind : Kind) : Option Solid :=
  ((Solid.measureNames kind).mapM fun name => parts.lookup name).bind (Solid.ofMeasures? kind)

theorem solid?_measures (s : Solid) :
    solid? ((Solid.measureNames s.kind).zip s.measures).reverse s.kind = some s := by
  cases s <;> rfl

end MeasureParts

structure PrimitiveParts where
  id : Option String := none
  solid : Option Solid := none
  position : Option Point := none

/-- The primitive, which is checked at once. Without a position it is at the origin. -/
def PrimitiveParts.primitive (parts : PrimitiveParts) : Reader Primitive := do
  let id ← Reader.need parts.id
  let solid ← Reader.need parts.solid
  match Primitive.place id solid (parts.position.getD .origin) with
  | .ok p => return p
  | .error e => throw (.refused e)

structure ModelParts where
  version : Option Nat := none
  primitives : Option (List Primitive) := none
  operations : Option (List Operation) := none

/-- The model, which has still to be checked. Operations may be left out, and the limit is the usual one. -/
def ModelParts.model (parts : ModelParts) : Reader Model := do
  let version ← Reader.need parts.version
  let primitives ← Reader.need parts.primitives
  return ⟨version, primitives, parts.operations.getD [], Model.standardLimit⟩

structure OperationParts where
  target : Option String := none
  tool : Option String := none

def OperationParts.operation (parts : OperationParts) (kind : OperationKind) : Reader Operation := do
  return ⟨kind, ← Reader.need parts.target, ← Reader.need parts.tool⟩

namespace OperationKind

def name : OperationKind → String
  | union => "Union"
  | difference => "Difference"

def ofName? (name : String) : Option OperationKind := [union, difference].find? (·.name == name)

end OperationKind

def greatestVersion : Nat := 2 ^ (32 : Nat) - 1

end PromptCad
