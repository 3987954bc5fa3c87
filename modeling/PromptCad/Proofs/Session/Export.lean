import PromptCad.Proofs.Session.Mesh
import PromptCad.Proofs.Stl.Ascii
import PromptCad.Proofs.Stl.Binary

/-! The files of a session. They hold the triangles of each primitive in turn, and nothing else of the model than where
its solids are goes into them. -/

namespace PromptCad

/-- A file that is read to its end and holds just these facets. -/
def Stl.Format.Holds (bytes : ByteArray) (facets : List Facet) : Stl.Format → Prop
  | .ascii => ∃ text head foot, Text.decode bytes = .ok text ∧
      Stl.Ascii.read? text = some (⟨head, facets.map Stl.Ascii.facetText, foot⟩, [])
  | .binary => ∃ records, Stl.Binary.takeSolid.run bytes.data.toList = some ((facets.length, records), []) ∧
      List.Forall₂ Stl.Binary.Record.Holds records facets

theorem Stl.encode_holds {m : Mesh} (hpos : 0 < m.triangles.size) (hlt : m.triangles.size < 2 ^ 32) (format : Format)
    (name : String) : ∃ bytes, encode format m name = .ok bytes ∧ format.Holds bytes m.facets := by
  cases format with
  | ascii =>
    obtain ⟨-, hread⟩ := Ascii.read?_text name.toList m
    exact ⟨_, Ascii.encode_ascii hpos name, _, _, _, Text.decode_toUTF8 _, hread⟩
  | binary =>
    have hread := Binary.run_file hlt
    rw [← Mesh.length_facets] at hread
    exact ⟨_, Binary.encode_binary hpos name, _, hread, Binary.forall₂_facetRecord m.facets⟩

namespace Session

variable {s : Session}

theorem facets_mesh (s : Session) (quality : Quality) :
    (s.mesh quality).facets =
      (s.model.primitives.map fun p => (p.mesh (s.settings.resolution quality)).facets).flatten := by
  rw [← List.flatMap_def, ← Mesh.facets_ofPrimitives]
  rfl

/-- The mesh of a model that is not empty has triangles, and no more than a file can count. -/
theorem Sound.size_triangles_mesh (h : s.Sound) (hne : s.model.primitives ≠ []) (quality : Quality) :
    0 < (s.mesh quality).triangles.size ∧ (s.mesh quality).triangles.size < 2 ^ 32 := by
  have hr := h.settings.resolution quality
  have hsize : (s.mesh quality).triangles.size = triangleTotal (s.settings.resolution quality) s.model.primitives :=
    Mesh.size_triangles_ofPrimitives hr s.model.primitives
  have hlength := h.length_le
  have hgreatest : Settings.greatestLimit * (1024 * 511) < 2 ^ 32 := by decide
  have hpos := List.length_pos_iff.mpr hne
  have hmul := Nat.mul_le_mul_right (1024 * 511) hlength
  obtain ⟨hlow, hhigh⟩ := triangleTotal_bounds hr s.model.primitives
  omega

end Session

end PromptCad
