import PromptCad.Mesh

/-! The mesh of a cylinder on the Y axis. Its vertices are the bottom ring, the top ring, the centre of the bottom and
the centre of the top. The caps share the rings with the side, and the last segment ends where the first begins. -/

namespace PromptCad.Mesh

def turn : Float := Float.ofBits 0x401921FB54442D18

namespace Cylinder

/-- The segments in use: at least three, so that there is a solid, and at most 512. -/
def segments (wanted : Nat) : Nat := min (max wanted 3) 512

def ring (radius y : Float) (n : Nat) : List Point :=
  (List.range n).map fun i =>
    let angle := turn * i.toFloat / n.toFloat
    ⟨radius * angle.cos, y, radius * angle.sin⟩

def vertices (radius height : Float) (n : Nat) : List Point :=
  let half := height / 2
  ring radius (-half) n ++ ring radius half n ++ [⟨0, -half, 0⟩, ⟨0, half, 0⟩]

/-- The two triangles of the side and the two of the caps between a segment's start `i` and its end `j`. -/
def segment (n i j : Nat) : List Triangle :=
  [⟨i, n + i, n + j⟩, ⟨i, n + j, j⟩, ⟨2 * n + 1, n + j, n + i⟩, ⟨2 * n, i, j⟩]

def triangles (n : Nat) : List Triangle := (List.range n).flatMap fun i => segment n i ((i + 1) % n)

theorem length_vertices (radius height : Float) (n : Nat) : (vertices radius height n).length = 2 * n + 2 := by
  simp [vertices, ring]; omega

end Cylinder

def cylinder (radius height : Float) (wanted : Nat) : Mesh :=
  let n := Cylinder.segments wanted
  ⟨(Cylinder.vertices radius height n).toArray, (Cylinder.triangles n).toArray⟩

end PromptCad.Mesh
