import PromptCad.Mesh

/-! The normal of a facet. Both edges are divided by their largest component before they are multiplied, so that the
size of the facet does not matter. -/

namespace PromptCad

/-- Edges whose sine is at most this are taken for parallel. -/
def parallelBound : Float := 1e-12

def Point.abs (v : Point) : Point := v.map Float.abs

/-- The largest component, other than those that are not a number. -/
def Point.largest (v : Point) : Float := greater v.x (greater v.y v.z)

/-- The direction that two edges span, as a vector of length one; zero when they are parallel. -/
def unitNormal (ab ac : Point) : Point :=
  let cross : Point := ab.cross ac
  let length := cross.length
  if length ≤ parallelBound * ab.length * ac.length then .origin else cross.divideBy length

/-- A facet without extent has the normal zero, and so has one with an edge that is not finite. -/
def Facet.normal (f : Facet) : Point :=
  let ab : Point := f.b - f.a
  let ac : Point := f.c - f.a
  let scale := Point.largest (ab.abs.zipWith greater ac.abs)
  if !scale.isFinite || scale == 0 then .origin else unitNormal (ab.divideBy scale) (ac.divideBy scale)

end PromptCad
