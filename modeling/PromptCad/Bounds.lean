import PromptCad.Vec3

/-! Axis-aligned bounding boxes. -/

namespace PromptCad

/-- The smaller of two floats; a value that is not a number gives way to the other. -/
def lesser (a b : Float) : Float :=
  if a.isNaN then b else if b.isNaN then a else if b < a then b else a

def greater (a b : Float) : Float :=
  if a.isNaN then b else if b.isNaN then a else if a < b then b else a

structure Bounds where
  low : Point
  high : Point
deriving DecidableEq

namespace Bounds

def point (p : Point) : Bounds := ⟨p, p⟩

def including (b : Bounds) (p : Point) : Bounds :=
  ⟨b.low.zipWith lesser p, b.high.zipWith greater p⟩

def size (b : Bounds) : Point := b.high - b.low

def center (b : Bounds) : Point := (b.low + b.high).divideBy 2

/-- The box around the points of a list, if there are any. -/
def around? : List Point → Option Bounds
  | [] => none
  | p :: ps => some (ps.foldl including (point p))

theorem around?_eq_none {ps : List Point} : around? ps = none ↔ ps = [] := by
  cases ps <;> simp [around?]

end Bounds

end PromptCad
