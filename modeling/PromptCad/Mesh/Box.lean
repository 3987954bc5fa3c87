import PromptCad.Mesh

/-! The mesh of a box: eight corners and two triangles to each of the six faces. Corners are numbered in binary: one
for the far side along X, two along Y and four along Z. -/

namespace PromptCad.Mesh.Box

variable {α : Type}

/-- On which side of the centre a corner lies, along each axis. -/
def side [Neg α] [OfNat α 1] (n : Nat) : Vec3 α :=
  let sign (far : Bool) : α := if far then 1 else -1
  ⟨sign (n.testBit 0), sign (n.testBit 1), sign (n.testBit 2)⟩

/-- The corners of a box that is so wide, deep and high, centred at the origin. -/
def corners [Neg α] [Mul α] [Div α] [OfNat α 1] [OfNat α 2] (width depth height : α) : List (Vec3 α) :=
  let half : Vec3 α := Vec3.divideBy ⟨width, height, depth⟩ 2
  (List.range 8).map fun n => side n * half

/-- A face as its corners, counter-clockwise seen from outside. -/
structure Face where
  a : Nat
  b : Nat
  c : Nat
  d : Nat

/-- The faces in the order +X, -X, +Y, -Y, +Z, -Z. -/
def faces : List Face :=
  [⟨1, 3, 7, 5⟩, ⟨0, 4, 6, 2⟩, ⟨2, 6, 7, 3⟩, ⟨0, 1, 5, 4⟩, ⟨4, 5, 7, 6⟩, ⟨0, 2, 3, 1⟩]

def Face.triangles (f : Face) : List Triangle := [⟨f.a, f.b, f.c⟩, ⟨f.a, f.c, f.d⟩]

def triangles : List Triangle := faces.flatMap (·.triangles)

end PromptCad.Mesh.Box

namespace PromptCad

def Mesh.box (width depth height : Float) : Mesh :=
  ⟨(Mesh.Box.corners width depth height).toArray, Mesh.Box.triangles.toArray⟩

end PromptCad
