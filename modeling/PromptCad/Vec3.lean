/-! Vectors of three components over any number type, so that a construction on floats can also be read over exact
numbers. -/

namespace PromptCad

structure Vec3 (α : Type) where
  x : α
  y : α
  z : α
deriving BEq, DecidableEq

namespace Vec3

variable {α β : Type}

def map (f : α → β) (v : Vec3 α) : Vec3 β := ⟨f v.x, f v.y, f v.z⟩

def zipWith (f : α → α → β) (v w : Vec3 α) : Vec3 β := ⟨f v.x w.x, f v.y w.y, f v.z w.z⟩

def splat (a : α) : Vec3 α := ⟨a, a, a⟩

def toList (v : Vec3 α) : List α := [v.x, v.y, v.z]

instance [Add α] : Add (Vec3 α) := ⟨zipWith (· + ·)⟩

instance [Sub α] : Sub (Vec3 α) := ⟨zipWith (· - ·)⟩

instance [Mul α] : Mul (Vec3 α) := ⟨zipWith (· * ·)⟩

def divideBy [Div α] (v : Vec3 α) (a : α) : Vec3 α := v.map (· / a)

def multiplyBy [Mul α] (v : Vec3 α) (a : α) : Vec3 α := v.map (· * a)

def dot [Add α] [Mul α] (v w : Vec3 α) : α := v.x * w.x + v.y * w.y + v.z * w.z

def cross [Sub α] [Mul α] (v w : Vec3 α) : Vec3 α :=
  ⟨v.y * w.z - w.y * v.z, v.z * w.x - w.z * v.x, v.x * w.y - w.x * v.y⟩

theorem add_def [Add α] (v w : Vec3 α) : v + w = ⟨v.x + w.x, v.y + w.y, v.z + w.z⟩ := rfl

theorem sub_def [Sub α] (v w : Vec3 α) : v - w = ⟨v.x - w.x, v.y - w.y, v.z - w.z⟩ := rfl

theorem mul_def [Mul α] (v w : Vec3 α) : v * w = ⟨v.x * w.x, v.y * w.y, v.z * w.z⟩ := rfl

end Vec3

/-- A point or direction of space, in millimetres. -/
abbrev Point := Vec3 Float

def Point.origin : Point := .splat 0

def Point.length (v : Point) : Float := (v.dot v).sqrt

def Point.isFinite (v : Point) : Bool := v.x.isFinite && v.y.isFinite && v.z.isFinite

end PromptCad
