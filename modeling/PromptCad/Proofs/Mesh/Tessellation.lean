import Mathlib.Algebra.Group.Action.Defs
import Mathlib.Algebra.Order.BigOperators.Group.List
import PromptCad.Proofs.Mesh.Index

/-! The mesh of a list of primitives. Each primitive is numbered on from those before it, so that the surfaces do not
touch and their counts add up. -/

namespace PromptCad

variable {r : Resolution}

theorem Primitive.watertight_mesh (p : Primitive) (r : Resolution) : (p.mesh r).Watertight :=
  (p.solid.watertight_mesh r).translate p.position

theorem Primitive.size_vertices_mesh (hr : r.Valid) (p : Primitive) :
    (p.mesh r).vertices.size = p.solid.vertexCount r := by
  rw [mesh, Mesh.size_vertices_translate, hr.size_vertices]

theorem Primitive.size_triangles_mesh (hr : r.Valid) (p : Primitive) :
    (p.mesh r).triangles.size = p.solid.triangleCount r := by
  rw [mesh, Mesh.triangles_translate, hr.size_triangles]

def vertexTotal (r : Resolution) (ps : List Primitive) : ℕ := (ps.map (·.solid.vertexCount r)).sum

def triangleTotal (r : Resolution) (ps : List Primitive) : ℕ := (ps.map (·.solid.triangleCount r)).sum

theorem Resolution.Valid.vertexCount_le (hr : r.Valid) (s : Solid) : s.vertexCount r ≤ 511 * 512 + 2 := by
  have hgreatest : SegmentCount.greatest = 512 := rfl
  have hc := hr.cylinder.le_greatest
  have hlat := hr.latitude.le_greatest
  have hlon := hr.longitude.le_greatest
  have hsphere : (r.latitude - 1) * r.longitude ≤ 511 * 512 := Nat.mul_le_mul (by omega) (by omega)
  cases s with
  | box width depth height => simp [Solid.vertexCount]
  | cylinder radius height =>
    rw [Solid.vertexCount]
    omega
  | sphere radius =>
    rw [Solid.vertexCount]
    omega

theorem vertexTotal_le (hr : r.Valid) (ps : List Primitive) : vertexTotal r ps ≤ ps.length * (511 * 512 + 2) := by
  have hall : ∀ n ∈ ps.map (·.solid.vertexCount r), n ≤ 511 * 512 + 2 := by
    intro n hn
    obtain ⟨p, -, rfl⟩ := List.mem_map.mp hn
    exact hr.vertexCount_le p.solid
  have hsum := List.sum_le_card_nsmul _ _ hall
  rwa [List.length_map, smul_eq_mul] at hsum

namespace Mesh

/-- Adding primitives to a watertight mesh keeps it watertight and adds their counts; as long as these fit into 32 bits
all numbers do. -/
theorem foldl_append (hr : r.Valid) (ps : List Primitive) {m : Mesh} (hm : m.Watertight) :
    (ps.foldl (fun m p => m.append (p.mesh r)) m).Watertight ∧
      (ps.foldl (fun m p => m.append (p.mesh r)) m).vertices.size = m.vertices.size + vertexTotal r ps ∧
      (ps.foldl (fun m p => m.append (p.mesh r)) m).triangles.size = m.triangles.size + triangleTotal r ps ∧
      (m.vertices.size + vertexTotal r ps < Index.bound →
        ps.foldlM (fun m p => do m.append? (← p.mesh? r)) m = some (ps.foldl (fun m p => m.append (p.mesh r)) m)) := by
  induction ps generalizing m with
  | nil => exact ⟨hm, rfl, rfl, fun _ => rfl⟩
  | cons p ps ih =>
    have hp := p.watertight_mesh r
    have hv := p.size_vertices_mesh hr
    have ht := p.size_triangles_mesh hr
    have hvertices : vertexTotal r (p :: ps) = p.solid.vertexCount r + vertexTotal r ps := by simp [vertexTotal]
    have htriangles : triangleTotal r (p :: ps) = p.solid.triangleCount r + triangleTotal r ps := by
      simp [triangleTotal]
    obtain ⟨htight, hsize, hcount, hchecked⟩ := ih (hm.append hp)
    rw [size_vertices_append, hv] at hsize hchecked
    rw [size_triangles_append, ht] at hcount
    rw [List.foldl_cons, hvertices, htriangles, hsize, hcount]
    refine ⟨htight, Nat.add_assoc _ _ _, Nat.add_assoc _ _ _, fun hfits => ?_⟩
    have happend : m.append? (p.mesh r) = some (m.append (p.mesh r)) := append?_eq hp.inRange (by omega)
    rw [List.foldlM_cons, p.mesh?_eq r]
    simp only [Option.bind_eq_bind, Option.bind_some, happend]
    exact hchecked (by omega)

theorem watertight_ofPrimitives (hr : r.Valid) (ps : List Primitive) : (ofPrimitives ps r).Watertight :=
  (foldl_append hr ps watertight_empty).1

theorem size_vertices_ofPrimitives (hr : r.Valid) (ps : List Primitive) :
    (ofPrimitives ps r).vertices.size = vertexTotal r ps := by
  have hsize := (foldl_append hr ps watertight_empty).2.1
  rw [ofPrimitives, hsize]
  exact Nat.zero_add _

theorem size_triangles_ofPrimitives (hr : r.Valid) (ps : List Primitive) :
    (ofPrimitives ps r).triangles.size = triangleTotal r ps := by
  have hcount := (foldl_append hr ps watertight_empty).2.2.1
  rw [ofPrimitives, hcount]
  exact Nat.zero_add _

theorem ofPrimitives?_eq (hr : r.Valid) {ps : List Primitive} (hfits : vertexTotal r ps < Index.bound) :
    ofPrimitives? ps r = some (ofPrimitives ps r) := by
  apply (foldl_append hr ps watertight_empty).2.2.2
  rwa [empty, Array.size_empty, Nat.zero_add]

end Mesh

end PromptCad
