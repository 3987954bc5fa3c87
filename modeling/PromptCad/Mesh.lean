import PromptCad.Bounds

/-! Triangle meshes. Triangles name their corners by the place of a vertex in the list of vertices, and run
counter-clockwise when seen from outside of the solid. -/

namespace PromptCad

theorem length_flatMap_const {α β : Type} {f : α → List β} {n : Nat} (h : ∀ a, (f a).length = n) (l : List α) :
    (l.flatMap f).length = l.length * n := by
  induction l with
  | nil => simp
  | cons a l ih => simp [h, ih, Nat.add_mul, Nat.add_comm]

structure Triangle where
  a : Nat
  b : Nat
  c : Nat
deriving DecidableEq

namespace Triangle

def indices (t : Triangle) : List Nat := [t.a, t.b, t.c]

def shift (t : Triangle) (n : Nat) : Triangle := ⟨t.a + n, t.b + n, t.c + n⟩

@[simp] theorem indices_shift (t : Triangle) (n : Nat) : (t.shift n).indices = t.indices.map (· + n) := rfl

end Triangle

structure Mesh where
  vertices : Array Point
  triangles : Array Triangle

structure Facet where
  a : Point
  b : Point
  c : Point

def Facet.corners (f : Facet) : List Point := [f.a, f.b, f.c]

namespace Mesh

def empty : Mesh := ⟨#[], #[]⟩

def isEmpty (m : Mesh) : Bool := m.triangles.isEmpty

def InRange (m : Mesh) : Prop := ∀ t ∈ m.triangles.toList, ∀ i ∈ t.indices, i < m.vertices.size

/-- The vertex at a place; past the end, the origin. -/
def vertex (m : Mesh) (i : Nat) : Point := m.vertices.getD i .origin

def facet (m : Mesh) (t : Triangle) : Facet := ⟨m.vertex t.a, m.vertex t.b, m.vertex t.c⟩

def facets (m : Mesh) : List Facet := m.triangles.toList.map m.facet

/-- Both meshes in one, the triangles of the second after those of the first. -/
def append (m n : Mesh) : Mesh :=
  ⟨m.vertices ++ n.vertices, m.triangles ++ n.triangles.map (·.shift m.vertices.size)⟩

/-- Every vertex moved. A shift by nothing keeps even the signs of zeros. -/
def translate (m : Mesh) (offset : Point) : Mesh :=
  if offset == .origin then m else { m with vertices := m.vertices.map (· + offset) }

/-- The box around the corners of all triangles; other vertices do not count. -/
def bounds? (m : Mesh) : Option Bounds := Bounds.around? (m.facets.flatMap (·.corners))

@[simp] theorem length_facets (m : Mesh) : m.facets.length = m.triangles.size := by simp [facets]

@[simp] theorem size_vertices_append (m n : Mesh) :
    (m.append n).vertices.size = m.vertices.size + n.vertices.size := by
  simp [append]

@[simp] theorem size_triangles_append (m n : Mesh) :
    (m.append n).triangles.size = m.triangles.size + n.triangles.size := by
  simp [append]

@[simp] theorem triangles_translate (m : Mesh) (offset : Point) : (m.translate offset).triangles = m.triangles := by
  unfold translate; split <;> rfl

@[simp] theorem size_vertices_translate (m : Mesh) (offset : Point) :
    (m.translate offset).vertices.size = m.vertices.size := by
  unfold translate; split <;> simp

end Mesh

end PromptCad
