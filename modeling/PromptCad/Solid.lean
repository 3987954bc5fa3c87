import PromptCad.Prompt.Error
import PromptCad.Vec3

/-! Solids and their measures in millimetres. The Y axis points up: a box is as wide along X, as high along Y and as
deep along Z as it says, cylinders stand on the Y axis and spheres have their poles on it. -/

namespace PromptCad

inductive Solid where
  | box (width depth height : Float)
  | cylinder (radius height : Float)
  | sphere (radius : Float)
deriving DecidableEq

namespace Solid

def cube (side : Float) : Solid := .box side side side

def kind : Solid → Kind
  | box .. => .box
  | cylinder .. => .cylinder
  | sphere .. => .sphere

/-- The measures of a solid in the order in which they are checked. -/
def measures : Solid → List Float
  | box width depth height => [width, depth, height]
  | cylinder radius height => [radius, height]
  | sphere radius => [radius]

def measureNames : Kind → List String
  | .box => ["width_mm", "depth_mm", "height_mm"]
  | .cylinder => ["radius_mm", "height_mm"]
  | .sphere => ["radius_mm"]

def ofMeasures? : Kind → List Float → Option Solid
  | .box, [width, depth, height] => some (box width depth height)
  | .cylinder, [radius, height] => some (cylinder radius height)
  | .sphere, [radius] => some (sphere radius)
  | _, _ => none

/-- The first measure out of range is refused. -/
def check (s : Solid) : Except PromptError Unit :=
  match s.measures.find? (!Size.admits ·) with
  | some bad => .error (.invalidDimension bad)
  | none => .ok ()

def halfExtents : Solid → Point
  | box width depth height => Vec3.divideBy ⟨width, height, depth⟩ 2
  | cylinder radius height => ⟨radius, height / 2, radius⟩
  | sphere radius => .splat radius

theorem length_measures (s : Solid) : s.measures.length = (measureNames s.kind).length := by
  cases s <;> rfl

theorem nodup_measureNames (k : Kind) : (measureNames k).Nodup := by cases k <;> decide

theorem length_measureNames (k : Kind) : 0 < (measureNames k).length ∧ (measureNames k).length ≤ 3 := by
  cases k <;> decide

theorem check_eq_ok {s : Solid} : s.check = .ok () ↔ ∀ mm ∈ s.measures, Size.admits mm = true := by
  unfold check
  cases h : s.measures.find? (!Size.admits ·) with
  | none => simpa using h
  | some bad =>
    have hb := List.find?_some h
    simp only [reduceCtorEq, false_iff]
    intro hall
    have := hall bad (List.mem_of_find?_eq_some h)
    simp_all

end Solid

end PromptCad
