import PromptCad.Proofs.Mesh.Tessellation
import PromptCad.Proofs.Session.Reachable

/-! The meshes of a session. The limit on primitives and the bounds on segments together keep all numbers within 32
bits, at either quality. -/

namespace PromptCad.Session

variable {s : Session}

theorem Sound.length_le (h : s.Sound) : s.model.primitives.length ≤ Settings.greatestLimit := by
  have hfits := h.fits
  rw [h.limit] at hfits
  exact Nat.le_trans hfits h.settings.limit.2

theorem Sound.vertexTotal_lt (h : s.Sound) {r : Resolution} (hr : r.Valid) :
    vertexTotal r s.model.primitives < Index.bound := by
  have hgreatest : Settings.greatestLimit * (511 * 512 + 2) < Index.bound := by decide
  have hlength := h.length_le
  calc vertexTotal r s.model.primitives ≤ s.model.primitives.length * (511 * 512 + 2) := vertexTotal_le hr _
    _ ≤ Settings.greatestLimit * (511 * 512 + 2) := Nat.mul_le_mul_right _ hlength
    _ < Index.bound := hgreatest

/-- Every mesh is closed, has the triangles that its resolution asks for, and comes about without any number being cut
off or wrapping around. -/
theorem closed_mesh (h : s.Reachable) (quality : Quality) :
    (∀ t ∈ (s.mesh quality).triangles.toList,
        (∀ i ∈ [t.a, t.b, t.c], i < (s.mesh quality).vertices.size) ∧ t.a ≠ t.b ∧ t.b ≠ t.c ∧ t.c ≠ t.a) ∧
      (∀ e ∈ (s.mesh quality).edges,
        (s.mesh quality).edges.count e = 1 ∧ (s.mesh quality).edges.count e.swap = 1) ∧
      ((s.mesh quality).vertices.size < 2 ^ 32 ∧
        Mesh.ofPrimitives? s.model.primitives (s.settings.resolution quality) = some (s.mesh quality)) ∧
      (Mesh.Cylinder.segments (s.settings.resolution quality).cylinder = (s.settings.resolution quality).cylinder ∧
        Mesh.Sphere.bands (s.settings.resolution quality).latitude = (s.settings.resolution quality).latitude ∧
        Mesh.Sphere.segments (s.settings.resolution quality).longitude =
          (s.settings.resolution quality).longitude) ∧
      (s.mesh quality).triangles.size =
        (s.model.primitives.map fun p =>
          match p.solid with
          | .box .. => 12
          | .cylinder .. => 4 * (s.settings.resolution quality).cylinder
          | .sphere .. =>
            2 * (s.settings.resolution quality).longitude * ((s.settings.resolution quality).latitude - 1)).sum := by
  have hr := h.sound.settings.resolution quality
  have hfits := h.sound.vertexTotal_lt hr
  have htight : (s.mesh quality).Watertight := Mesh.watertight_ofPrimitives hr s.model.primitives
  have hsize : (s.mesh quality).vertices.size = vertexTotal (s.settings.resolution quality) s.model.primitives :=
    Mesh.size_vertices_ofPrimitives hr s.model.primitives
  refine ⟨fun t ht => ⟨htight.inRange t ht, htight.distinct ht⟩, fun e he => htight.paired.count_eq_one he,
    ⟨?_, Mesh.ofPrimitives?_eq hr hfits⟩, hr.segments_eq, Mesh.size_triangles_ofPrimitives hr s.model.primitives⟩
  rw [hsize]
  exact hfits

/-- A sphere and a cube at preview quality. -/
theorem closed_mesh_resumed :
    resumed.Reachable ∧
      (∀ t ∈ (resumed.mesh .preview).triangles.toList,
        (∀ i ∈ [t.a, t.b, t.c], i < (resumed.mesh .preview).vertices.size) ∧ t.a ≠ t.b ∧ t.b ≠ t.c ∧ t.c ≠ t.a) ∧
      (∀ e ∈ (resumed.mesh .preview).edges,
        (resumed.mesh .preview).edges.count e = 1 ∧ (resumed.mesh .preview).edges.count e.swap = 1) ∧
      (resumed.mesh .preview).vertices.size < 2 ^ 32 ∧
      Mesh.ofPrimitives? resumed.model.primitives ⟨12, 8, 12⟩ = some (resumed.mesh .preview) ∧
      (resumed.mesh .preview).triangles.size = 2 * 12 * (8 - 1) + 12 := by
  obtain ⟨hcorners, hedges, ⟨hsize, hchecked⟩, -, hcount⟩ := closed_mesh reachable_resumed .preview
  exact ⟨reachable_resumed, hcorners, hedges, hsize, hchecked, hcount⟩

end PromptCad.Session
