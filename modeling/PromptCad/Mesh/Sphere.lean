import PromptCad.Mesh.Cylinder

/-! The mesh of a sphere with its poles on the Y axis. Its vertices are the north pole, the rings from north to south
and the south pole. The bands at the poles are fans of triangles, those between them are split quads. -/

namespace PromptCad.Mesh.Sphere

def halfTurn : Float := Float.ofBits 0x400921FB54442D18

/-- The bands in use: at least two and at most 512. -/
def bands (wanted : Nat) : Nat := min (max wanted 2) 512

/-- The segments in use: at least three and at most 512. -/
def segments (wanted : Nat) : Nat := min (max wanted 3) 512

def ring (radius : Float) (lat lon k : Nat) : List Point :=
  let theta := halfTurn * k.toFloat / lat.toFloat
  (List.range lon).map fun j =>
    let phi := turn * j.toFloat / lon.toFloat
    Vec3.multiplyBy ⟨theta.sin * phi.cos, theta.cos, theta.sin * phi.sin⟩ radius

def vertices (radius : Float) (lat lon : Nat) : List Point :=
  ⟨0, radius, 0⟩ :: ((List.range (lat - 1)).flatMap fun k => ring radius lat lon (k + 1)) ++ [⟨0, -radius, 0⟩]

/-- The place of a vertex on ring `k`, counted from zero; a full turn leads back to the start. -/
def place (lon k j : Nat) : Nat := 1 + k * lon + j % lon

def southPole (lat lon : Nat) : Nat := (lat - 1) * lon + 1

def northFan (lon : Nat) : List Triangle :=
  (List.range lon).map fun j => ⟨0, place lon 0 (j + 1), place lon 0 j⟩

def band (lon k : Nat) : List Triangle :=
  (List.range lon).flatMap fun j =>
    [⟨place lon (k + 1) j, place lon k j, place lon k (j + 1)⟩,
     ⟨place lon (k + 1) j, place lon k (j + 1), place lon (k + 1) (j + 1)⟩]

def southFan (lat lon : Nat) : List Triangle :=
  (List.range lon).map fun j => ⟨southPole lat lon, place lon (lat - 2) j, place lon (lat - 2) (j + 1)⟩

def triangles (lat lon : Nat) : List Triangle :=
  northFan lon ++ (List.range (lat - 2)).flatMap (band lon) ++ southFan lat lon

theorem length_ring (radius : Float) (lat lon k : Nat) : (ring radius lat lon k).length = lon := by
  simp [ring]

theorem length_vertices (radius : Float) (lat lon : Nat) :
    (vertices radius lat lon).length = (lat - 1) * lon + 2 := by
  have h := length_flatMap_const (fun k => length_ring radius lat lon (k + 1)) (List.range (lat - 1))
  simp [vertices, h]

end PromptCad.Mesh.Sphere

namespace PromptCad

def Mesh.sphere (radius : Float) (latitude longitude : Nat) : Mesh :=
  let lat := Sphere.bands latitude
  let lon := Sphere.segments longitude
  ⟨(Sphere.vertices radius lat lon).toArray, (Sphere.triangles lat lon).toArray⟩

end PromptCad
