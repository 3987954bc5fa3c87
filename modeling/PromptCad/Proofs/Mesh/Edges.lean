import Mathlib.Data.List.Nodup
import Mathlib.Data.Prod.Basic
import PromptCad.Mesh

/-! Directed edges of meshes. A mesh is watertight when each directed edge belongs to one triangle, and so does the same
edge in the other direction: then every triangle meets exactly one other across each of its sides. -/

namespace PromptCad

variable {α β ι : Type}

/-- The sides of a triangle, each in the direction in which the triangle runs. -/
def around (a b c : α) : List (α × α) := [(a, b), (b, c), (c, a)]

theorem mem_around {a b c : α} {e : α × α} : e ∈ around a b c ↔ e = (a, b) ∨ e = (b, c) ∨ e = (c, a) := by
  simp [around]

theorem nodup_around {a b c : α} (hab : a ≠ b) (hbc : b ≠ c) (hca : c ≠ a) : (around a b c).Nodup := by
  simp [around, hab, hbc, hca.symm]

theorem loopless_around {a b c : α} (hab : a ≠ b) (hbc : b ≠ c) (hca : c ≠ a) : ∀ e ∈ around a b c, e.1 ≠ e.2 := by
  intro e he
  obtain rfl | rfl | rfl := mem_around.mp he
  · exact hab
  · exact hbc
  · exact hca

theorem map_around (f : α → β) (a b c : α) : (around a b c).map (Prod.map f f) = around (f a) (f b) (f c) := rfl

def Triangle.edges (t : Triangle) : List (ℕ × ℕ) := around t.a t.b t.c

def Mesh.edges (m : Mesh) : List (ℕ × ℕ) := m.triangles.toList.flatMap (·.edges)

/-- Edges of a closed surface: none leads back to its start, none occurs twice, and each has its reverse. -/
structure Paired (es : List (α × α)) : Prop where
  loopless : ∀ e ∈ es, e.1 ≠ e.2
  nodup : es.Nodup
  reverse : ∀ e ∈ es, e.swap ∈ es

namespace Paired

variable {es fs : List (α × α)}

theorem nil : Paired ([] : List (α × α)) := ⟨by simp, List.nodup_nil, by simp⟩

theorem count_eq_one [DecidableEq α] (h : Paired es) {e : α × α} (he : e ∈ es) :
    es.count e = 1 ∧ es.count e.swap = 1 :=
  ⟨List.count_eq_one_of_mem h.nodup he, List.count_eq_one_of_mem h.nodup (h.reverse e he)⟩

theorem append (h : Paired es) (h' : Paired fs) (hdisjoint : ∀ e ∈ es, ∀ f ∈ fs, e.1 ≠ f.1) : Paired (es ++ fs) where
  loopless e he := by
    rcases List.mem_append.mp he with he | he
    · exact h.loopless e he
    · exact h'.loopless e he
  nodup := by
    rw [List.nodup_append]
    refine ⟨h.nodup, h'.nodup, fun e he f hf hef => ?_⟩
    exact hdisjoint e he f hf (congrArg Prod.fst hef)
  reverse e he := by
    rcases List.mem_append.mp he with he | he
    · exact List.mem_append_left _ (h.reverse e he)
    · exact List.mem_append_right _ (h'.reverse e he)

/-- Corners may be numbered in any way that keeps them apart. -/
theorem map (h : Paired es) {f : α → β} {P : α → Prop} (hP : ∀ e ∈ es, P e.1)
    (hf : ∀ a b, P a → P b → f a = f b → a = b) : Paired (es.map (Prod.map f f)) where
  loopless e he := by
    obtain ⟨e, he', rfl⟩ := List.mem_map.mp he
    have hsnd : P e.2 := hP e.swap (h.reverse e he')
    intro heq
    exact h.loopless e he' (hf e.1 e.2 (hP e he') hsnd heq)
  nodup := by
    apply h.nodup.map_on
    intro e he e' he' heq
    obtain ⟨hfst, hsnd⟩ := Prod.mk.inj heq
    exact Prod.ext (hf _ _ (hP e he) (hP e' he') hfst)
      (hf _ _ (hP e.swap (h.reverse e he)) (hP e'.swap (h.reverse e' he')) hsnd)
  reverse e he := by
    obtain ⟨e, he', rfl⟩ := List.mem_map.mp he
    exact List.mem_map.mpr ⟨e.swap, h.reverse e he', rfl⟩

end Paired

/-- No edge occurs twice when each edge tells the piece of the surface that it belongs to. -/
theorem nodup_flatMap_of_owner {l : List ι} {f : ι → List α} (owner : α → β) (tag : ι → β)
    (hpiece : ∀ i ∈ l, (f i).Nodup) (howner : ∀ i ∈ l, ∀ e ∈ f i, owner e = tag i) (hl : (l.map tag).Nodup) :
    (l.flatMap f).Nodup := by
  rw [List.nodup_flatMap]
  refine ⟨hpiece, ?_⟩
  have hpair : l.Pairwise fun i j => tag i ≠ tag j := List.pairwise_map.mp hl
  refine hpair.imp_of_mem fun {i j} hi hj hne e hei hej => ?_
  exact hne ((howner i hi e hei).symm.trans (howner j hj e hej))

structure Mesh.Watertight (m : Mesh) : Prop where
  inRange : m.InRange
  paired : Paired m.edges

namespace Mesh

variable {m n : Mesh}

theorem mem_edges {e : ℕ × ℕ} : e ∈ m.edges ↔ ∃ t ∈ m.triangles.toList, e ∈ t.edges := List.mem_flatMap

theorem InRange.fst_lt (h : m.InRange) {e : ℕ × ℕ} (he : e ∈ m.edges) : e.1 < m.vertices.size := by
  obtain ⟨t, ht, he⟩ := mem_edges.mp he
  have hrange := h t ht
  obtain rfl | rfl | rfl := mem_around.mp he
  · exact hrange t.a (by simp [Triangle.indices])
  · exact hrange t.b (by simp [Triangle.indices])
  · exact hrange t.c (by simp [Triangle.indices])

theorem Watertight.distinct (h : m.Watertight) {t : Triangle} (ht : t ∈ m.triangles.toList) :
    t.a ≠ t.b ∧ t.b ≠ t.c ∧ t.c ≠ t.a := by
  have hside : ∀ e ∈ t.edges, e.1 ≠ e.2 := fun e he => h.paired.loopless e (mem_edges.mpr ⟨t, ht, he⟩)
  exact ⟨hside (t.a, t.b) (mem_around.mpr (.inl rfl)), hside (t.b, t.c) (mem_around.mpr (.inr (.inl rfl))),
    hside (t.c, t.a) (mem_around.mpr (.inr (.inr rfl)))⟩

theorem watertight_empty : Mesh.empty.Watertight := ⟨by simp [InRange, empty], Paired.nil⟩

theorem edges_translate (m : Mesh) (offset : Point) : (m.translate offset).edges = m.edges := by
  rw [edges, triangles_translate, edges]

theorem InRange.translate (h : m.InRange) (offset : Point) : (m.translate offset).InRange := by
  unfold InRange
  rw [triangles_translate, size_vertices_translate]
  exact h

theorem Watertight.translate (h : m.Watertight) (offset : Point) : (m.translate offset).Watertight :=
  ⟨h.inRange.translate offset, by rw [edges_translate]; exact h.paired⟩

theorem edges_append (m n : Mesh) :
    (m.append n).edges = m.edges ++ n.edges.map (Prod.map (· + m.vertices.size) (· + m.vertices.size)) := by
  simp [edges, append, List.flatMap_map, List.map_flatMap, Triangle.edges, Triangle.shift, map_around]

theorem InRange.append (h : m.InRange) (h' : n.InRange) : (m.append n).InRange := by
  intro t ht i hi
  rw [size_vertices_append]
  simp only [Mesh.append, Array.toList_append, Array.toList_map, List.mem_append, List.mem_map] at ht
  obtain ht | ⟨t, ht, rfl⟩ := ht
  · have := h t ht i hi
    omega
  · rw [Triangle.indices_shift] at hi
    obtain ⟨j, hj, rfl⟩ := List.mem_map.mp hi
    have := h' t ht j hj
    omega

theorem Watertight.append (h : m.Watertight) (h' : n.Watertight) : (m.append n).Watertight := by
  refine ⟨h.inRange.append h'.inRange, ?_⟩
  rw [edges_append]
  refine h.paired.append ?_ ?_
  · exact h'.paired.map (P := fun _ => True) (fun _ _ => trivial) fun a b _ _ hab => Nat.add_right_cancel hab
  · intro e he f hf
    obtain ⟨f, -, rfl⟩ := List.mem_map.mp hf
    have hlt := h.inRange.fst_lt he
    simp only [Prod.map_fst]
    omega

end Mesh

end PromptCad
