import PromptCad.Proofs.Mesh.Index
import PromptCad.Proofs.Mesh.Valence

/-! The surface of a sphere as a whole: every vertex is used, there is no hole and no handle, and the triangles at a pole
are a fan that stands at one end of the list, whatever numbers of bands and segments are asked for. -/

namespace PromptCad.Mesh

open Rings (Spot Piece)

namespace Sphere

variable {lat lon i : ℕ}

theorem exists_spot (hi : i < (lat - 1) * lon + 2) : ∃ s : Spot, s.Within (lat - 2) lon ∧ number lat lon s = i := by
  by_cases hnorth : i = 0
  · exact ⟨.north, trivial, hnorth.symm⟩
  by_cases hsouth : i = (lat - 1) * lon + 1
  · exact ⟨.south, trivial, hsouth.symm⟩
  have hplace : i - 1 < (lat - 1) * lon := by omega
  have hlon : 0 < lon := Nat.pos_of_mul_pos_left (Nat.zero_lt_of_lt hplace)
  have hring : (i - 1) / lon < lat - 1 := (Nat.div_lt_iff_lt_mul hlon).mpr hplace
  refine ⟨.ring ((i - 1) / lon) ((i - 1) % lon), ⟨by omega, Nat.mod_lt _ hlon⟩, ?_⟩
  have hsum := Nat.div_add_mod' (i - 1) lon
  rw [number]
  omega

theorem getElem?_poles (radius : Float) (lat lon : ℕ) :
    (vertices radius lat lon).toArray[0]? = some ⟨0, radius, 0⟩ ∧
      (vertices radius lat lon).toArray[southPole lat lon]? = some ⟨0, -radius, 0⟩ := by
  refine ⟨rfl, ?_⟩
  have hlength : (⟨0, radius, 0⟩ :: (List.range (lat - 1)).flatMap fun k => ring radius lat lon (k + 1)).length =
      southPole lat lon := by
    rw [List.length_cons, length_flatMap_const fun k => length_ring radius lat lon (k + 1), List.length_range, southPole]
  rw [List.getElem?_toArray, vertices, ← hlength]
  exact List.getElem?_concat_length

end Sphere

section

variable (radius : Float) (latitude longitude : ℕ)

theorem trianglesAt_north :
    (Mesh.sphere radius latitude longitude).trianglesAt 0 = Sphere.northFan (Sphere.segments longitude) := by
  have hsplit : ∀ lat lon, Sphere.pieces lat lon = [] ++ (List.range lon).map Piece.north ++ (_ ++ _) :=
    fun _ _ => List.append_assoc _ _ _
  rw [Sphere.northFan_eq (Sphere.bands latitude)]
  exact Rings.trianglesAt_eq (Sphere.nodup_pieces _ _) Sphere.mem_pieces
    (fun _ _ => Sphere.number_injective (Sphere.two_le_bands latitude)) (Sphere.triangles_eq _ _) (s := .north) trivial
    (hsplit _ _) fun p => Rings.mem_northFan

theorem trianglesAt_south :
    (Mesh.sphere radius latitude longitude).trianglesAt
        (Sphere.southPole (Sphere.bands latitude) (Sphere.segments longitude)) =
      Sphere.southFan (Sphere.bands latitude) (Sphere.segments longitude) := by
  rw [Sphere.southFan_eq]
  exact Rings.trianglesAt_eq (Sphere.nodup_pieces _ _) Sphere.mem_pieces
    (fun _ _ => Sphere.number_injective (Sphere.two_le_bands latitude)) (Sphere.triangles_eq _ _) (s := .south) trivial
    (List.append_nil _).symm fun p => Rings.mem_southFan

theorem exists_triangle_sphere {i : ℕ} (hi : i < (Mesh.sphere radius latitude longitude).vertices.size) :
    ∃ t ∈ (Mesh.sphere radius latitude longitude).triangles.toList, i ∈ t.indices := by
  have hlon := Sphere.three_le_segments longitude
  rw [size_vertices_sphere] at hi
  obtain ⟨s, hs, rfl⟩ := Sphere.exists_spot hi
  exact Rings.exists_triangle (by omega) Sphere.mem_pieces
    (fun _ _ => Sphere.number_injective (Sphere.two_le_bands latitude)) (Sphere.triangles_eq _ _) hs

end

/-- A sphere of any numbers of bands and segments is a closed surface without holes or handles, wound in one direction,
and no number on the way to it needs more than 32 bits. Each of its vertices is used. A pole is a corner of one triangle
of every segment, which joins it to two places of the ring next to it that follow each other; these triangles are the
first of the mesh, or the last. -/
theorem sphere_topology (radius : Float) (latitude longitude : ℕ) :
    let m : Mesh := Mesh.sphere radius latitude longitude
    let lat := min (max latitude 2) 512
    let lon := min (max longitude 3) 512
    let south := (lat - 1) * lon + 1
    Mesh.sphere? radius latitude longitude = some m ∧
      m.vertices[0]? = some ⟨0, radius, 0⟩ ∧ m.vertices[south]? = some ⟨0, -radius, 0⟩ ∧
      m.vertices.size = (lat - 1) * lon + 2 ∧ m.triangles.size = 2 * lon * (lat - 1) ∧
      (∀ t ∈ m.triangles.toList, (∀ i ∈ [t.a, t.b, t.c], i < m.vertices.size) ∧ t.a ≠ t.b ∧ t.b ≠ t.c ∧ t.c ≠ t.a) ∧
      (∀ i < m.vertices.size, ∃ t ∈ m.triangles.toList, i ∈ [t.a, t.b, t.c]) ∧
      (∀ e ∈ m.edges, m.edges.count e = 1 ∧ m.edges.count e.swap = 1) ∧
      (m.vertices.size : ℤ) - m.sides.card + m.triangles.size = 2 ∧
      (m.trianglesAt 0).length = lon ∧ m.trianglesAt 0 = m.triangles.toList.take lon ∧
      m.trianglesAt 0 = ((List.range lon).map fun j => ⟨0, 1 + (j + 1) % lon, 1 + j⟩) ∧
      (m.trianglesAt south).length = lon ∧
      m.trianglesAt south = m.triangles.toList.drop (m.triangles.size - lon) ∧
      m.trianglesAt south = (List.range lon).map fun j =>
        ⟨south, 1 + (lat - 2) * lon + j, 1 + (lat - 2) * lon + (j + 1) % lon⟩ := by
  intro m lat lon south
  have hlat : 2 ≤ lat := Sphere.two_le_bands latitude
  have htight : m.Watertight := watertight_sphere radius latitude longitude
  have hvertices : m.vertices.size = (lat - 1) * lon + 2 := size_vertices_sphere radius latitude longitude
  have htriangles : m.triangles.size = 2 * lon * (lat - 1) := size_triangles_sphere radius latitude longitude
  have hlist : m.triangles.toList =
    Sphere.northFan lon ++ (List.range (lat - 2)).flatMap (Sphere.band lon) ++ Sphere.southFan lat lon := rfl
  have hnorth : m.trianglesAt 0 = Sphere.northFan lon := trianglesAt_north radius latitude longitude
  have hsouth : m.trianglesAt south = Sphere.southFan lat lon := trianglesAt_south radius latitude longitude
  have hlengthNorth : (Sphere.northFan lon).length = lon := by rw [Sphere.northFan, List.length_map, List.length_range]
  have hlengthSouth : (Sphere.southFan lat lon).length = lon := by
    rw [Sphere.southFan, List.length_map, List.length_range]
  obtain ⟨hfirst, hlast⟩ := Sphere.getElem?_poles radius lat lon
  refine ⟨sphere?_eq radius latitude longitude, hfirst, hlast, hvertices, htriangles,
    fun t ht => ⟨htight.inRange t ht, htight.distinct ht⟩, fun i hi => exists_triangle_sphere radius latitude longitude hi,
    fun e he => htight.paired.count_eq_one he, ?_, hnorth ▸ hlengthNorth, ?_, ?_, hsouth ▸ hlengthSouth, ?_, ?_⟩
  · have hsides := htight.two_mul_card_sides
    rw [Nat.mul_assoc, Nat.mul_comm lon] at htriangles
    omega
  · rw [hnorth, hlist, List.append_assoc, List.take_left' hlengthNorth]
  · rw [hnorth]
    refine List.map_congr_left fun j hj => ?_
    rw [Sphere.place, Sphere.place_eq (List.mem_range.mp hj), Nat.zero_mul, Nat.add_zero]
  · have hlength : m.triangles.size - lon =
        (Sphere.northFan lon ++ (List.range (lat - 2)).flatMap (Sphere.band lon)).length := by
      rw [← Array.length_toList, hlist, List.length_append, hlengthSouth, Nat.add_sub_cancel]
    rw [hsouth, hlist, List.drop_left' hlength.symm]
  · rw [hsouth]
    refine List.map_congr_left fun j hj => ?_
    rw [Sphere.place_eq (List.mem_range.mp hj)]
    rfl

/-- Two pyramids on one ring of three places are the least that is made; there is no quad in it. -/
theorem sphere_topology_least :
    let m := Mesh.sphere 2 1 3
    Mesh.sphere? 2 1 3 = some m ∧ m.vertices.size = 5 ∧ m.triangles.size = 6 ∧
      (⟨0, 1, 3⟩ ∈ m.triangles.toList ∧ 3 < m.vertices.size ∧ ∃ t ∈ m.triangles.toList, 3 ∈ [t.a, t.b, t.c]) ∧
      ((1, 3) ∈ m.edges ∧ m.edges.count (1, 3) = 1 ∧ m.edges.count (3, 1) = 1) ∧
      m.sides.card = 9 ∧ m.trianglesAt 0 = [⟨0, 2, 1⟩, ⟨0, 3, 2⟩, ⟨0, 1, 3⟩] ∧
      m.trianglesAt 4 = [⟨4, 1, 2⟩, ⟨4, 2, 3⟩, ⟨4, 3, 1⟩] := by
  intro m
  have hseam : ⟨0, 1, 3⟩ ∈ m.triangles.toList := by decide
  have hedge : (1, 3) ∈ m.edges := mem_edges.mpr ⟨_, hseam, by decide⟩
  obtain ⟨hchecked, -, -, hvertices, htriangles, hcorners, hused, hedges, heuler, -, -, hnorth, -, -, hsouth⟩ :=
    sphere_topology 2 1 3
  have hvertices : m.vertices.size = 5 := hvertices
  have htriangles : m.triangles.size = 6 := htriangles
  have heuler : (m.vertices.size : ℤ) - m.sides.card + m.triangles.size = 2 := heuler
  exact ⟨hchecked, hvertices, htriangles, ⟨hseam, (hcorners _ hseam).1 3 (by simp), hused 3 (by rw [hvertices]; decide)⟩,
    ⟨hedge, hedges _ hedge⟩, by omega, hnorth, hsouth⟩

end PromptCad.Mesh
