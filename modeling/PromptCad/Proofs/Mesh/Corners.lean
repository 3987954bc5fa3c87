import PromptCad.Proofs.Mesh.Tessellation

/-! The triangles of a mesh in space. Those of a list of primitives are the triangles of each one after the other, and
nothing of a primitive but its solid and its position goes into them. -/

namespace PromptCad

theorem Triangle.forall_mem_indices {t : Triangle} {P : ℕ → Prop} : (∀ i ∈ t.indices, P i) ↔ P t.a ∧ P t.b ∧ P t.c := by
  simp [indices]

namespace Mesh

variable {m n : Mesh}

def facet? (m : Mesh) (t : Triangle) : Option Facet := do
  return ⟨← m.vertices[t.a]?, ← m.vertices[t.b]?, ← m.vertices[t.c]?⟩

def facets? (m : Mesh) : Option (List Facet) := m.triangles.toList.mapM m.facet?

theorem isEmpty_eq_false (h : 0 < m.triangles.size) : m.isEmpty = false := by
  rw [isEmpty, Array.isEmpty_eq_false_iff, ne_eq, ← Array.size_eq_zero_iff]
  omega

theorem getElem?_vertices {i : ℕ} (h : i < m.vertices.size) : m.vertices[i]? = some (m.vertex i) := by
  rw [vertex, Array.getD_eq_getD_getElem?, Array.getElem?_eq_getElem h, Option.getD_some]

theorem facets?_eq (h : m.InRange) : m.facets? = some m.facets := by
  refine Index.mapM_eq_some fun t ht => ?_
  have hcorner : ∀ i ∈ t.indices, m.vertices[i]? = some (m.vertex i) := fun i hi => getElem?_vertices (h t ht i hi)
  obtain ⟨ha, hb, hc⟩ := Triangle.forall_mem_indices.mp hcorner
  rw [facet?, ha, hb, hc]
  rfl

theorem vertex_translate (offset : Point) {i : ℕ} (h : i < m.vertices.size) :
    (m.translate offset).vertex i = if offset == .origin then m.vertex i else m.vertex i + offset := by
  unfold translate
  split
  · rfl
  · rw [vertex, vertex, Array.getD_eq_getD_getElem?, Array.getD_eq_getD_getElem?, Array.getElem?_map,
      Array.getElem?_eq_getElem h, Option.map_some, Option.getD_some, Option.getD_some]

theorem corners_facets (m : Mesh) :
    m.facets.flatMap (·.corners) = (m.triangles.toList.flatMap (·.indices)).map m.vertex := by
  rw [facets, List.flatMap_map, List.map_flatMap]
  rfl

theorem vertex_append_left (n : Mesh) {i : ℕ} (h : i < m.vertices.size) : (m.append n).vertex i = m.vertex i := by
  rw [vertex, vertex, append, Array.getD_eq_getD_getElem?, Array.getD_eq_getD_getElem?, Array.getElem?_append_left h]

theorem vertex_append_right (m n : Mesh) (i : ℕ) : (m.append n).vertex (i + m.vertices.size) = n.vertex i := by
  rw [vertex, vertex, append, Array.getD_eq_getD_getElem?, Array.getD_eq_getD_getElem?,
    Array.getElem?_append_right (Nat.le_add_left _ _), Nat.add_sub_cancel]

theorem facets_append (n : Mesh) (h : m.InRange) : (m.append n).facets = m.facets ++ n.facets := by
  have htriangles : (m.append n).triangles.toList =
      m.triangles.toList ++ n.triangles.toList.map (·.shift m.vertices.size) := by simp [append]
  have hleft : ∀ t ∈ m.triangles.toList, (m.append n).facet t = m.facet t := by
    intro t ht
    have hcorner : ∀ i ∈ t.indices, (m.append n).vertex i = m.vertex i := fun i hi => vertex_append_left n (h t ht i hi)
    obtain ⟨ha, hb, hc⟩ := Triangle.forall_mem_indices.mp hcorner
    rw [facet, ha, hb, hc]
    rfl
  have hright : ∀ t, (m.append n).facet (t.shift m.vertices.size) = n.facet t := by
    intro t
    simp only [facet, Triangle.shift, vertex_append_right]
  rw [facets, htriangles, List.map_append, List.map_congr_left hleft, List.map_map]
  exact congrArg (m.facets ++ ·) (List.map_congr_left fun t _ => hright t)

theorem facets_ofPrimitives (ps : List Primitive) (r : Resolution) :
    (ofPrimitives ps r).facets = ps.flatMap fun p => (p.mesh r).facets := by
  suffices hfold : ∀ m : Mesh, m.InRange → (ps.foldl (fun m p => m.append (p.mesh r)) m).facets =
      m.facets ++ ps.flatMap fun p => (p.mesh r).facets from hfold empty watertight_empty.inRange
  induction ps with
  | nil => exact fun m _ => (List.append_nil _).symm
  | cons p ps ih =>
    intro m hm
    have hp := (p.watertight_mesh r).inRange
    rw [List.foldl_cons, ih _ (hm.append hp), facets_append _ hm, List.flatMap_cons, List.append_assoc]

end Mesh

/-- A single triangle with a vertex that it does not use, and a coordinate that is almost zero. -/
def Mesh.sliver : Mesh := ⟨#[⟨0, -0.0, 4e-7⟩, ⟨9, 9, 9⟩, ⟨2.5, 0, 0⟩, ⟨0, 1, 0⟩], #[⟨0, 2, 3⟩]⟩

def Primitive.placement (p : Primitive) : Solid × Point := (p.solid, p.position)

theorem Mesh.ofPrimitives_congr {ps qs : List Primitive} (h : ps.map (·.placement) = qs.map (·.placement))
    (r : Resolution) : ofPrimitives ps r = ofPrimitives qs r := by
  have hplaced : ∀ ps : List Primitive, ofPrimitives ps r =
      (ps.map (·.placement)).foldl (fun m sp => m.append ((sp.1.mesh r).translate sp.2)) .empty := by
    intro ps
    rw [List.foldl_map]
    rfl
  rw [hplaced, hplaced, h]

section Counts

variable {r : Resolution}

theorem Resolution.Valid.triangleCount_bounds (hr : r.Valid) (s : Solid) :
    1 ≤ s.triangleCount r ∧ s.triangleCount r ≤ 1024 * 511 := by
  have hgreatest : SegmentCount.greatest = 512 := rfl
  have hc := hr.cylinder.le_greatest
  have hlat := hr.latitude.le_greatest
  have hlon := hr.longitude.le_greatest
  have hc' := hr.cylinder.positive
  have hlat' := hr.two_le_latitude
  have hlon' := hr.longitude.positive
  cases s with
  | box width depth height => exact ⟨show 1 ≤ 12 by decide, show 12 ≤ 1024 * 511 by decide⟩
  | cylinder radius height =>
    rw [Solid.triangleCount]
    omega
  | sphere radius => exact ⟨Nat.mul_pos (by omega) (by omega), Nat.mul_le_mul (by omega) (by omega)⟩

theorem triangleTotal_bounds (hr : r.Valid) (ps : List Primitive) :
    ps.length ≤ triangleTotal r ps ∧ triangleTotal r ps ≤ ps.length * (1024 * 511) := by
  have hall : ∀ n ∈ ps.map (·.solid.triangleCount r), 1 ≤ n ∧ n ≤ 1024 * 511 := by
    intro n hn
    obtain ⟨p, -, rfl⟩ := List.mem_map.mp hn
    exact hr.triangleCount_bounds p.solid
  have hlow := List.card_nsmul_le_sum _ 1 fun n hn => (hall n hn).1
  have hhigh := List.sum_le_card_nsmul _ _ fun n hn => (hall n hn).2
  rw [List.length_map, smul_eq_mul, Nat.mul_one] at hlow
  rw [List.length_map, smul_eq_mul] at hhigh
  exact ⟨hlow, hhigh⟩

end Counts

end PromptCad
