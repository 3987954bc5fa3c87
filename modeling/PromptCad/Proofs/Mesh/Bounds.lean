import PromptCad.Proofs.Bounds
import PromptCad.Proofs.Mesh.Corners

/-! The box around a mesh. It is the least one around the corners of the triangles: it has all of them inside and one on
each of its sides. Nothing else of the mesh matters, not the other vertices, and neither the order of the triangles nor
that of their corners. -/

namespace PromptCad.Mesh

/-- The same triangles told in another way: in another order, from another corner on, the other way round, or more often
than once. -/
inductive Retold : List Triangle → List Triangle → Prop where
  | perm {ts us : List Triangle} : ts.Perm us → Retold ts us
  | turn (t : Triangle) (ts : List Triangle) : Retold (t :: ts) (⟨t.b, t.c, t.a⟩ :: ts)
  | flip (t : Triangle) (ts : List Triangle) : Retold (t :: ts) (⟨t.a, t.c, t.b⟩ :: ts)
  | again {t : Triangle} {ts : List Triangle} : t ∈ ts → Retold ts (t :: ts)
  | trans {ts us vs : List Triangle} : Retold ts us → Retold us vs → Retold ts vs

variable {m n : Mesh} {ts us : List Triangle}

theorem Retold.mem_indices (h : Retold ts us) (i : ℕ) : i ∈ us.flatMap (·.indices) ↔ i ∈ ts.flatMap (·.indices) := by
  induction h with
  | perm h => exact (h.flatMap_right _).mem_iff.symm
  | turn t ts =>
    simp only [List.flatMap_cons, Triangle.indices, List.mem_append, List.mem_cons]
    tauto
  | flip t ts =>
    simp only [List.flatMap_cons, Triangle.indices, List.mem_append, List.mem_cons]
    tauto
  | @again t ts ht =>
    rw [List.flatMap_cons, List.mem_append]
    exact or_iff_right_of_imp fun hi => List.mem_flatMap.mpr ⟨t, ht, hi⟩
  | trans _ _ ih ih' => exact ih'.trans ih

theorem inRange_iff : m.InRange ↔ ∀ i ∈ m.triangles.toList.flatMap (·.indices), i < m.vertices.size := by
  simp only [InRange, List.mem_flatMap]
  constructor
  · rintro h i ⟨t, ht, hi⟩
    exact h t ht i hi
  · exact fun h t ht i hi => h i ⟨t, ht, hi⟩

theorem bounds?_eq_none : m.bounds? = none ↔ m.triangles.size = 0 := by
  rw [bounds?, Bounds.around?_eq_none, corners_facets, List.map_eq_nil_iff, List.flatMap_eq_nil_iff,
    ← Array.length_toList, List.length_eq_zero_iff]
  constructor
  · exact fun h => List.eq_nil_iff_forall_not_mem.mpr fun t ht => List.cons_ne_nil _ _ (h t ht)
  · intro h t ht
    rw [h] at ht
    cases ht

/-- Only the corners of triangles matter, and only as a set. -/
theorem bounds?_congr (hm : ∀ p ∈ m.facets.flatMap (·.corners), Point.IsNumber p)
    (hindices : ∀ i, i ∈ n.triangles.toList.flatMap (·.indices) ↔ i ∈ m.triangles.toList.flatMap (·.indices))
    (hvertices : ∀ i ∈ m.triangles.toList.flatMap (·.indices), n.vertices[i]? = m.vertices[i]?) :
    Option.Rel Bounds.Same m.bounds? n.bounds? := by
  have hvertex : ∀ i ∈ m.triangles.toList.flatMap (·.indices), n.vertex i = m.vertex i := fun i hi => by
    rw [vertex, vertex, Array.getD_eq_getD_getElem?, Array.getD_eq_getD_getElem?, hvertices i hi]
  refine Bounds.around?_congr hm fun p => ?_
  rw [corners_facets, corners_facets, List.mem_map, List.mem_map]
  constructor
  · rintro ⟨i, hi, rfl⟩
    exact ⟨i, (hindices i).mpr hi, hvertex i hi⟩
  · rintro ⟨i, hi, rfl⟩
    exact ⟨i, (hindices i).mp hi, (hvertex i ((hindices i).mp hi)).symm⟩

/-- A mesh with corners that exist and are numbers, finite or not, has bounds unless it has no triangle. They enclose
every corner, and on every axis some corner is at the one end and some corner at the other. Vertices without a triangle
do not count, and the bounds are the same numbers in whatever way the triangles are told. -/
theorem bounds_enclose {m : Mesh} (h : m.InRange)
    (hnumber : ∀ i ∈ m.triangles.toList.flatMap (·.indices), Point.IsNumber (m.vertex i)) :
    ∃ facets, m.facets? = some facets ∧
      (m.bounds? = none ↔ m.triangles.size = 0) ∧
      (∀ b, m.bounds? = some b → ∀ a : Axis,
        (∀ p ∈ facets.flatMap (·.corners), b.low.along a ≤ p.along a ∧ p.along a ≤ b.high.along a) ∧
          (∃ p ∈ facets.flatMap (·.corners), (p.along a == b.low.along a) = true) ∧
          ∃ p ∈ facets.flatMap (·.corners), (p.along a == b.high.along a) = true) ∧
      (∀ n : Mesh, n.triangles = m.triangles →
        (∀ i ∈ m.triangles.toList.flatMap (·.indices), n.vertices[i]? = m.vertices[i]?) → n.bounds? = m.bounds?) ∧
      ∀ us, Retold m.triangles.toList us → (Mesh.mk m.vertices us.toArray).InRange ∧
        Option.Rel Bounds.Same m.bounds? (Mesh.mk m.vertices us.toArray).bounds? := by
  have hcorners : ∀ p ∈ m.facets.flatMap (·.corners), Point.IsNumber p := by
    rw [corners_facets]
    exact List.forall_mem_map.mpr hnumber
  refine ⟨m.facets, facets?_eq h, bounds?_eq_none, fun b hb a => ⟨?_, Bounds.attained_around? hcorners hb a⟩, ?_, ?_⟩
  · exact fun p hp => Bounds.between_around? hcorners hb hp a
  · intro n htriangles hvertices
    rw [bounds?, bounds?, corners_facets, corners_facets, htriangles]
    refine congrArg Bounds.around? (List.map_congr_left fun i hi => ?_)
    rw [vertex, vertex, Array.getD_eq_getD_getElem?, Array.getD_eq_getD_getElem?, hvertices i hi]
  · intro us hus
    refine ⟨inRange_iff.mpr fun i hi => ?_, bounds?_congr hcorners (fun i => hus.mem_indices i) fun _ _ => rfl⟩
    exact inRange_iff.mp h i ((hus.mem_indices i).mp hi)

/-- Two triangles that reach out to infinity, and a vertex apart from them that is not a number. -/
def stray : Mesh :=
  ⟨#[⟨0, -0.0, 1 / 0⟩, ⟨0 / 0, 9, 9⟩, ⟨2.5, 0, 0⟩, ⟨0, 1, -5e-324⟩, ⟨-0.0, 0, 0⟩], #[⟨0, 2, 3⟩, ⟨4, 3, 2⟩]⟩

theorem bounds_enclose_stray :
    (stray.InRange ∧ ∀ i ∈ stray.triangles.toList.flatMap (·.indices), Point.IsNumber (stray.vertex i)) ∧
      (∃ b, stray.bounds? = some b ∧ (b.low.y == 0) = true ∧ (b.high.z == 1 / 0) = true) ∧
      Option.Rel Bounds.Same stray.bounds?
        (Mesh.mk stray.vertices #[⟨3, 2, 4⟩, ⟨3, 0, 2⟩, ⟨3, 2, 4⟩]).bounds? := by
  have hrange : stray.InRange := by
    unfold InRange
    decide
  have hnumber : ∀ i ∈ stray.triangles.toList.flatMap (·.indices), Point.IsNumber (stray.vertex i) := by
    have hall : ∀ i ∈ stray.triangles.toList.flatMap (·.indices), (stray.vertex i).x.isNaN = false ∧
        (stray.vertex i).y.isNaN = false ∧ (stray.vertex i).z.isNaN = false := by decide +kernel
    intro i hi a
    obtain ⟨hx, hy, hz⟩ := hall i hi
    cases a with
    | x => exact hx
    | y => exact hy
    | z => exact hz
  -- the second triangle from another corner on and twice, then the first from its last corner on between the two
  have hback : Retold [⟨3, 2, 4⟩, ⟨3, 2, 4⟩, ⟨0, 2, 3⟩] [⟨0, 2, 3⟩, ⟨3, 2, 4⟩, ⟨3, 2, 4⟩] := .perm (by decide)
  have hretold : Retold [⟨0, 2, 3⟩, ⟨4, 3, 2⟩] [⟨3, 2, 4⟩, ⟨3, 0, 2⟩, ⟨3, 2, 4⟩] :=
    (Retold.perm (.swap _ _ _)).trans <| (Retold.turn ⟨4, 3, 2⟩ [⟨0, 2, 3⟩]).trans <|
      (Retold.again List.mem_cons_self).trans <| hback.trans <|
      (Retold.turn ⟨0, 2, 3⟩ _).trans <| (Retold.turn ⟨2, 3, 0⟩ _).trans <| .perm (.swap _ _ _)
  obtain ⟨-, -, -, -, -, hsame⟩ := bounds_enclose hrange hnumber
  exact ⟨⟨hrange, hnumber⟩, ⟨_, rfl, by decide +kernel, by decide +kernel⟩, (hsame _ hretold).2⟩

end PromptCad.Mesh
