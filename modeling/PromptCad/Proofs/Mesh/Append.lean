import Mathlib.Data.List.Count
import PromptCad.Proofs.Mesh.Corners

/-! Meshes put together. Which are put together first makes no difference, an empty mesh adds nothing, the triangles in
space are those of both parts one after the other, and neither closed surfaces nor moves notice the joint. -/

namespace PromptCad.Mesh

variable {m n : Mesh}

/-- Each edge occurs once, and so does its reverse. -/
def Closed (m : Mesh) : Prop := ∀ e ∈ m.edges, m.edges.count e = 1 ∧ m.edges.count e.swap = 1

theorem Watertight.closed (h : m.Watertight) : m.Closed := fun _ he => h.paired.count_eq_one he

theorem count_edges_append_left (n : Mesh) {e : ℕ × ℕ} (he : e.1 < m.vertices.size) :
    (m.append n).edges.count e = m.edges.count e := by
  rw [edges_append, List.count_append, Nat.add_eq_left, List.count_eq_zero]
  intro hmem
  obtain ⟨f, -, rfl⟩ := List.mem_map.mp hmem
  exact absurd he (Nat.not_lt.mpr (Nat.le_add_left _ _))

theorem count_edges_append_right (h : m.InRange) (n : Mesh) (e : ℕ × ℕ) :
    (m.append n).edges.count (e.map (· + m.vertices.size) (· + m.vertices.size)) = n.edges.count e := by
  have hinjective : Function.Injective (Prod.map (· + m.vertices.size) (· + m.vertices.size)) :=
    (add_left_injective _).prodMap (add_left_injective _)
  rw [edges_append, List.count_append, List.count_map_of_injective _ _ hinjective, Nat.add_eq_right,
    List.count_eq_zero]
  intro hmem
  exact absurd (h.fst_lt hmem) (Nat.not_lt.mpr (Nat.le_add_left _ _))

theorem Closed.append (hrange : m.InRange) (h : m.Closed) (h' : n.Closed) : (m.append n).Closed := by
  intro e he
  rw [edges_append, List.mem_append] at he
  rcases he with he | he
  · obtain ⟨hone, hback⟩ := h e he
    have hswap : e.swap ∈ m.edges := List.count_pos_iff.mp (by omega)
    rw [count_edges_append_left n (hrange.fst_lt he), count_edges_append_left n (hrange.fst_lt hswap)]
    exact ⟨hone, hback⟩
  · obtain ⟨f, hf, rfl⟩ := List.mem_map.mp he
    have hswap : (f.map (· + m.vertices.size) (· + m.vertices.size)).swap =
      f.swap.map (· + m.vertices.size) (· + m.vertices.size) := rfl
    rw [hswap, count_edges_append_right hrange, count_edges_append_right hrange]
    exact h' f hf

theorem append_assoc (a b c : Mesh) : (a.append b).append c = a.append (b.append c) := by
  have hshift : ∀ t : Triangle, (t.shift b.vertices.size).shift a.vertices.size =
      t.shift (a.vertices.size + b.vertices.size) := by
    intro t
    simp only [Triangle.shift, Nat.add_assoc, Nat.add_comm b.vertices.size]
  simp only [append, Array.append_assoc, Array.map_append, Array.map_map, Array.size_append, Function.comp_def, hshift]

theorem empty_append (m : Mesh) : empty.append m = m := by
  have hshift : ∀ t : Triangle, t.shift 0 = t := fun _ => rfl
  simp [append, empty, hshift]

theorem append_empty (m : Mesh) : m.append empty = m := by
  simp [append, empty]

theorem translate_append (m n : Mesh) (offset : Point) :
    (m.append n).translate offset = (m.translate offset).append (n.translate offset) := by
  unfold translate
  split
  · rfl
  · simp only [append, Array.map_append, Array.size_map]

/-- Meshes with corners that exist, numbered together in 32 bits: putting them together never wraps a number around, no
matter which are put together first. The corners of the whole are those of the parts in their order, closed surfaces stay
closed, and the whole is moved by moving the parts. -/
theorem append_monoid {a b c : Mesh} (ha : a.InRange) (hb : b.InRange) (hc : c.InRange)
    (hfits : a.vertices.size + b.vertices.size + c.vertices.size < 2 ^ 32) (offset : Point) :
    (a.append? b = some (a.append b) ∧ (a.append b).InRange) ∧
      (∃ fa fb, a.facets? = some fa ∧ b.facets? = some fb ∧ (a.append b).facets? = some (fa ++ fb)) ∧
      ((a.append? b).bind (·.append? c) = some (a.append (b.append c)) ∧
        (b.append? c).bind a.append? = some (a.append (b.append c))) ∧
      (empty.append? a = some a ∧ a.append? empty = some a) ∧
      (a.Closed → b.Closed → (a.append b).Closed) ∧
      (a.translate offset).append? (b.translate offset) = some ((a.append b).translate offset) := by
  have hbound : a.vertices.size + b.vertices.size + c.vertices.size < Index.bound := hfits
  have hempty := watertight_empty.inRange
  have hab : a.append? b = some (a.append b) := append?_eq hb (by omega)
  have hbc : b.append? c = some (b.append c) := append?_eq hc (by omega)
  have hleft : (a.append b).append? c = some ((a.append b).append c) :=
    append?_eq hc (by rwa [size_vertices_append])
  have hright : a.append? (b.append c) = some (a.append (b.append c)) :=
    append?_eq (hb.append hc) (by rwa [size_vertices_append, ← Nat.add_assoc])
  have hfacets : (a.append b).facets? = some (a.facets ++ b.facets) := by
    rw [facets?_eq (ha.append hb), facets_append b ha]
  have hmoved : (a.translate offset).append? (b.translate offset) =
      some ((a.translate offset).append (b.translate offset)) :=
    append?_eq (hb.translate offset) (by rw [size_vertices_translate, size_vertices_translate]; omega)
  refine ⟨⟨hab, ha.append hb⟩, ⟨a.facets, b.facets, facets?_eq ha, facets?_eq hb, hfacets⟩, ⟨?_, ?_⟩, ⟨?_, ?_⟩,
    fun h h' => h.append ha h', ?_⟩
  · rw [hab, Option.bind_some, hleft, append_assoc]
  · rw [hbc, Option.bind_some, hright]
  · rw [append?_eq ha (by simp only [empty, Array.size_empty]; omega), empty_append]
  · rw [append?_eq hempty (by simp only [empty, Array.size_empty]; omega), append_empty]
  · rw [hmoved, translate_append]

/-- A box, a prism and a sliver, which is not closed. -/
theorem append_monoid_sliver :
    let a := Mesh.box 1 2 3
    let b := Mesh.cylinder 0.5 1 0
    (a.InRange ∧ b.InRange ∧ sliver.InRange ∧ a.vertices.size + b.vertices.size + sliver.vertices.size < 2 ^ 32) ∧
      (a.Closed ∧ b.Closed ∧ (a.append b).Closed) ∧
      (a.append? b).bind (·.append? sliver) = some (a.append (b.append sliver)) ∧
      (a.translate ⟨0, -0.0, 7⟩).append? (b.translate ⟨0, -0.0, 7⟩) = some ((a.append b).translate ⟨0, -0.0, 7⟩) := by
  intro a b
  have ha : a.Watertight := watertight_box 1 2 3
  have hb : b.Watertight := watertight_cylinder 0.5 1 0
  have hsliver : sliver.InRange := by
    unfold InRange
    decide
  have hfits : a.vertices.size + b.vertices.size + sliver.vertices.size < 2 ^ 32 := by
    rw [size_vertices_cylinder]
    decide
  obtain ⟨-, -, ⟨hleft, -⟩, -, hclosed, hmoved⟩ :=
    append_monoid ha.inRange hb.inRange hsliver hfits ⟨0, -0.0, 7⟩
  exact ⟨⟨ha.inRange, hb.inRange, hsliver, hfits⟩, ⟨ha.closed, hb.closed, hclosed ha.closed hb.closed⟩, hleft, hmoved⟩

end PromptCad.Mesh
