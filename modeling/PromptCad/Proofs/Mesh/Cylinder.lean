import PromptCad.Proofs.Mesh.Valence

/-! The surface of a cylinder as a whole: every vertex is a corner of as many triangles as it should be, and there is no
hole and no handle, whatever number of segments is asked for. -/

namespace PromptCad.Mesh

open Rings (Spot Piece next northOf southOf)

namespace Cylinder

variable {n i : ℕ}

theorem exists_spot (hi : i < 2 * n + 2) : ∃ s : Spot, s.Within 1 n ∧ number n s = i := by
  by_cases hbottom : i < n
  · exact ⟨.ring 1 i, ⟨le_rfl, hbottom⟩, rfl⟩
  by_cases htop : i < 2 * n
  · have hplace : n + (i - n) = i := by omega
    exact ⟨.ring 0 (i - n), ⟨Nat.zero_le _, by omega⟩, hplace⟩
  by_cases hsouth : i = 2 * n
  · exact ⟨.south, trivial, hsouth.symm⟩
  · have hnorth : 2 * n + 1 = i := by omega
    exact ⟨.north, trivial, hnorth⟩

end Cylinder

section

variable (radius height : Float) (wanted : ℕ) {s : Spot}

def Cylinder.valence (n : ℕ) : Spot → ℕ
  | .north | .south => n
  | .ring _ _ => 5

/-- A pole has its whole fan around it; a place on a ring has two triangles of a fan and three of the side. -/
theorem length_trianglesAt_cylinder (hs : s.Within 1 (Cylinder.segments wanted)) :
    ((Mesh.cylinder radius height wanted).trianglesAt (Cylinder.number (Cylinder.segments wanted) s)).length =
      Cylinder.valence (Cylinder.segments wanted) s := by
  have hstar : ∀ star : List Piece, star.Nodup →
      (∀ p, p ∈ star ↔ p.Within 1 (Cylinder.segments wanted) ∧ p.Touches 1 (Cylinder.segments wanted) s) →
      ((Mesh.cylinder radius height wanted).trianglesAt (Cylinder.number (Cylinder.segments wanted) s)).length =
        star.length :=
    fun star => Rings.length_trianglesAt (Cylinder.nodup_pieces _) Cylinder.mem_pieces
      (fun _ _ => Cylinder.number_injective) (Cylinder.triangles_eq _) hs
  cases s with
  | north =>
    rw [hstar _ (List.nodup_range.map fun i j h => Piece.north.inj h) fun p => Rings.mem_northFan, List.length_map,
      List.length_range, Cylinder.valence]
  | south =>
    rw [hstar _ (List.nodup_range.map fun i j h => Piece.south.inj h) fun p => Rings.mem_southFan, List.length_map,
      List.length_range, Cylinder.valence]
  | ring k j =>
    obtain ⟨i, hi, hij⟩ := Rings.exists_next hs.2
    rw [hstar _ (Rings.nodup_ringStar (three_le_segments wanted) hi hij) fun p => Rings.mem_ringStar hi hij hs.1,
      Cylinder.valence]
    -- of two rings the first has a fan to the north, the other one to the south
    obtain rfl | rfl : k = 0 ∨ k = 1 := Nat.le_one_iff_eq_zero_or_eq_one.mp hs.1
    · rfl
    · rfl

end

/-- A cylinder of any number of segments is a closed surface without holes or handles, wound in one direction. Each of
its vertices is used: the centre of a cap by one triangle of every segment, a vertex of a ring by five triangles. -/
theorem cylinder_topology (radius height : Float) (wanted : ℕ) :
    let m := Mesh.cylinder radius height wanted
    let n := min (max wanted 3) 512
    m.vertices.toList = Cylinder.ring radius (-(height / 2)) n ++ Cylinder.ring radius (height / 2) n ++
        [⟨0, -(height / 2), 0⟩, ⟨0, height / 2, 0⟩] ∧
      m.vertices.size = 2 * n + 2 ∧ m.triangles.size = 4 * n ∧
      (∀ t ∈ m.triangles.toList, (∀ i ∈ [t.a, t.b, t.c], i < m.vertices.size) ∧ t.a ≠ t.b ∧ t.b ≠ t.c ∧ t.c ≠ t.a) ∧
      (∀ i < m.vertices.size, ∃ t ∈ m.triangles.toList, i ∈ [t.a, t.b, t.c]) ∧
      (∀ e ∈ m.edges, m.edges.count e = 1 ∧ m.edges.count e.swap = 1) ∧
      (m.vertices.size : ℤ) - m.sides.card + m.triangles.size = 2 ∧
      (∀ i ∈ [2 * n, 2 * n + 1], (m.trianglesAt i).length = n) ∧ ∀ i < 2 * n, (m.trianglesAt i).length = 5 := by
  intro m n
  have hn : 3 ≤ n := three_le_segments wanted
  have htight : m.Watertight := watertight_cylinder radius height wanted
  have hvertices : m.vertices.size = 2 * n + 2 := size_vertices_cylinder radius height wanted
  have htriangles : m.triangles.size = 4 * n := size_triangles_cylinder radius height wanted
  have hvalence : ∀ s : Spot, s.Within 1 n → (m.trianglesAt (Cylinder.number n s)).length = Cylinder.valence n s :=
    fun s hs => length_trianglesAt_cylinder radius height wanted hs
  refine ⟨rfl, hvertices, htriangles, fun t ht => ⟨htight.inRange t ht, htight.distinct ht⟩, fun i hi => ?_,
    fun e he => htight.paired.count_eq_one he, ?_, fun i hi => ?_, fun i hi => ?_⟩
  · obtain ⟨s, hs, rfl⟩ := Cylinder.exists_spot (hvertices ▸ hi)
    have hpos : 0 < (m.trianglesAt (Cylinder.number n s)).length := by
      rw [hvalence s hs]
      cases s <;> simp only [Cylinder.valence] <;> omega
    obtain ⟨t, ht⟩ := List.exists_mem_of_length_pos hpos
    obtain ⟨ht, hcorner⟩ := List.mem_filter.mp ht
    exact ⟨t, ht, of_decide_eq_true hcorner⟩
  · have hsides := htight.two_mul_card_sides
    omega
  · rcases List.mem_pair.mp hi with rfl | rfl
    · exact hvalence .south trivial
    · exact hvalence .north trivial
  · obtain ⟨s, hs, rfl⟩ := Cylinder.exists_spot (show i < 2 * n + 2 by omega)
    cases s with
    | north => simp only [Cylinder.number] at hi; omega
    | south => exact absurd hi (lt_irrefl _)
    | ring k j => exact hvalence (.ring k j) hs

/-- A prism with three sides is the least that is made; its last segment ends at the edge where the first begins. -/
theorem cylinder_topology_least :
    let m := Mesh.cylinder 0.5 1 0
    m.vertices.size = 8 ∧ m.triangles.size = 12 ∧
      (⟨2, 5, 3⟩ ∈ m.triangles.toList ∧ 5 < m.vertices.size) ∧
      ((5, 3) ∈ m.edges ∧ m.edges.count (5, 3) = 1 ∧ m.edges.count (3, 5) = 1) ∧
      m.sides.card = 18 ∧ (m.trianglesAt 7).length = 3 ∧ (m.trianglesAt 3).length = 5 := by
  intro m
  have hseam : ⟨2, 5, 3⟩ ∈ m.triangles.toList := by decide
  have hedge : (5, 3) ∈ m.edges := mem_edges.mpr ⟨_, hseam, by decide⟩
  obtain ⟨-, hvertices, htriangles, hcorners, -, hedges, heuler, hcentres, hrings⟩ := cylinder_topology 0.5 1 0
  have hvertices : m.vertices.size = 8 := hvertices
  have htriangles : m.triangles.size = 12 := htriangles
  have heuler : (m.vertices.size : ℤ) - m.sides.card + m.triangles.size = 2 := heuler
  refine ⟨hvertices, htriangles, ⟨hseam, (hcorners _ hseam).1 5 (by simp)⟩, ⟨hedge, hedges _ hedge⟩, by omega,
    hcentres 7 (by decide), hrings 3 (by decide)⟩

end PromptCad.Mesh
