import PromptCad.Proofs.Bounds
import PromptCad.Proofs.Float.Order
import PromptCad.Proofs.Mesh.Corners
import PromptCad.Proofs.Model.Check

/-! The box around the mesh of a box is the one that its measures give. Along each axis a corner is half of the size
away from the centre, up or down, and it is rounded as the end of the box on that side is. -/

namespace PromptCad

open Decimal

theorem exactValue_side {x : Float} (hx : x.isFinite = true) (far : Bool) :
    ((if far then 1 else -1) * x).isFinite = true ∧
      exactValue ((if far then 1 else -1) * x) = if far then exactValue x else -exactValue x := by
  have hminus : exactValue (-1) = -1 := by
    rw [exactValue, if_pos (by decide), show magnitude (-1) = 1022 * 2 ^ 52 + 2 ^ 52 by decide, value_power]
    rfl
  have hnear : Nearest ((if far then 1 else -1) * x) (if far then exactValue x else -exactValue x) := by
    cases far with
    | true => simpa [exactValue_one] using nearest_mul (x := 1) (by decide) hx
    | false => simpa [hminus] using nearest_mul (x := -1) (by decide) hx
  have hvalue := hnear.exact (by
    cases far with
    | true => exact representable_exactValue hx
    | false => exact (representable_exactValue hx).neg)
  refine ⟨?_, hvalue⟩
  rw [isFinite_iff_abs] at hx ⊢
  rw [hvalue]
  cases far with
  | true => exact hx
  | false => rwa [if_neg Bool.false_ne_true, abs_neg]

theorem Size.half {mm : Float} (h : Size.admits mm = true) : (mm / 2).isFinite = true ∧ 0 ≤ exactValue (mm / 2) := by
  have hfinite := Size.isFinite_of_admits h
  have hnonneg : 0 ≤ exactValue mm := by
    rw [exactValue_eq_value (Size.admits_iff.mp h).1]
    exact binary64_value_nonneg _
  have hnear := nearest_div hfinite (y := 2) (by decide) (by rw [exactValue_two]; norm_num)
  rw [exactValue_two] at hnear
  exact ⟨isFinite_div hfinite (by decide) (by rw [exactValue_two]; norm_num), hnear.nonneg (by positivity)⟩

namespace Mesh.Box

/-- The bit in the number of a corner that tells its side along an axis. -/
def bit : Axis → ℕ
  | .x => 0
  | .y => 1
  | .z => 2

theorem along_side (n : ℕ) (a : Axis) : (side n : Point).along a = if n.testBit (bit a) then 1 else -1 := by
  cases a <;> rfl

theorem vertex_box (width depth height : Float) {n : ℕ} (hn : n < 8) :
    (Mesh.box width depth height).vertex n = side n * (Solid.box width depth height).halfExtents := by
  rw [vertex, box, corners, Array.getD_eq_getD_getElem?, List.getElem?_toArray, List.getElem?_map,
    List.getElem?_range hn]
  rfl

theorem mem_indices_triangles {n : ℕ} : n ∈ triangles.flatMap (·.indices) ↔ n < 8 := by
  constructor
  · exact fun h => (by decide : ∀ n ∈ triangles.flatMap (·.indices), n < 8) n h
  · exact fun h => (by decide : ∀ n < 8, n ∈ triangles.flatMap (·.indices)) n h

end Mesh.Box

namespace Primitive

open Mesh.Box

variable {p : Primitive} {width depth height : Float}

theorem Valid.isFinite_along (h : p.Valid) (a : Axis) : (p.position.along a).isFinite = true := by
  have hplaced := h.placed
  simp only [Point.isFinite, Bool.and_eq_true] at hplaced
  cases a with
  | x => exact hplaced.1.1
  | y => exact hplaced.1.2
  | z => exact hplaced.2

theorem Valid.halfExtents_box (h : p.Valid) (hbox : p.solid = .box width depth height) (a : Axis) :
    (p.solid.halfExtents.along a).isFinite = true ∧ 0 ≤ exactValue (p.solid.halfExtents.along a) := by
  have hsized := Solid.check_eq_ok.mp h.sized
  rw [hbox] at hsized ⊢
  cases a with
  | x => exact Size.half (hsized width (by simp [Solid.measures]))
  | y => exact Size.half (hsized height (by simp [Solid.measures]))
  | z => exact Size.half (hsized depth (by simp [Solid.measures]))

/-- Every corner is as near as a float can be to where it would be without rounding, at the origin and elsewhere. -/
theorem Valid.nearest_vertex_box (h : p.Valid) (hbox : p.solid = .box width depth height) (r : Resolution) {n : ℕ}
    (hn : n < 8) (a : Axis) :
    Nearest (((p.mesh r).vertex n).along a) (exactValue (p.position.along a) +
      if n.testBit (bit a) then exactValue (p.solid.halfExtents.along a)
      else -exactValue (p.solid.halfExtents.along a)) := by
  have hposition := h.isFinite_along a
  obtain ⟨hfinite, hvalue⟩ := exactValue_side (h.halfExtents_box hbox a).1 (n.testBit (bit a))
  have hcorner : ((p.solid.mesh r).vertex n).along a =
      (if n.testBit (bit a) then 1 else -1) * p.solid.halfExtents.along a := by
    rw [hbox, Solid.mesh, vertex_box _ _ _ hn, Vec3.along_mul, along_side]
  rw [mesh, Mesh.vertex_translate p.position (by rw [hbox]; exact hn), ← hvalue, ← hcorner]
  rw [← hcorner] at hfinite
  split
  · next horigin =>
    have hzero : exactValue (p.position.along a) = 0 := by
      rw [(beq_iff_exactValue hposition (by cases a <;> decide)).mp (Vec3.beq_along horigin a)]
      cases a <;> exact exactValue_zero
    rw [hzero, zero_add]
    exact nearest_self hfinite
  · rw [Vec3.along_add, add_comm]
    exact nearest_add hfinite hposition

section

variable (h : p.Valid) (hbox : p.solid = .box width depth height) (a : Axis)

include h hbox

theorem Valid.nearest_low_box : Nearest (p.bounds.low.along a)
    (exactValue (p.position.along a) + -exactValue (p.solid.halfExtents.along a)) := by
  rw [bounds, Vec3.along_sub, ← sub_eq_add_neg]
  exact nearest_sub (h.isFinite_along a) (h.halfExtents_box hbox a).1

theorem Valid.nearest_high_box : Nearest (p.bounds.high.along a)
    (exactValue (p.position.along a) + exactValue (p.solid.halfExtents.along a)) := by
  rw [bounds, Vec3.along_add]
  exact nearest_add (h.isFinite_along a) (h.halfExtents_box hbox a).1

theorem Valid.rank_vertex_box (r : Resolution) {n : ℕ} (hn : n < 8) :
    rank (p.bounds.low.along a) ≤ rank (((p.mesh r).vertex n).along a) ∧
      rank (((p.mesh r).vertex n).along a) ≤ rank (p.bounds.high.along a) := by
  have hhalf := (h.halfExtents_box hbox a).2
  have hnear := h.nearest_vertex_box hbox r hn a
  constructor
  · refine (h.nearest_low_box hbox a).rank_le hnear (add_le_add_right ?_ _)
    split
    · exact (neg_nonpos.mpr hhalf).trans hhalf
    · exact le_rfl
  · refine hnear.rank_le (h.nearest_high_box hbox a) (add_le_add_right ?_ _)
    split
    · exact le_rfl
    · exact (neg_nonpos.mpr hhalf).trans hhalf

theorem Valid.rank_ends_box (r : Resolution) :
    rank (((p.mesh r).vertex 0).along a) = rank (p.bounds.low.along a) ∧
      rank (((p.mesh r).vertex 7).along a) = rank (p.bounds.high.along a) := by
  have hfirst := h.nearest_vertex_box hbox r (show 0 < 8 by decide) a
  have hlast := h.nearest_vertex_box hbox r (show 7 < 8 by decide) a
  rw [if_neg (by cases a <;> decide)] at hfirst
  rw [if_pos (by cases a <;> decide)] at hlast
  exact ⟨hfirst.rank_eq (h.nearest_low_box hbox a), hlast.rank_eq (h.nearest_high_box hbox a)⟩

end

/-- A box has a mesh whose bounds are those that its measures give, without any tolerance: they are equal as numbers,
and the width is along X, the height along Y and the depth along Z in both. -/
theorem bounds_mesh_box (h : p.Valid) (hbox : p.solid = .box width depth height) (r : Resolution) :
    (p.mesh r).InRange ∧ ∃ b, (p.mesh r).bounds? = some b ∧
      (∀ a : Axis, (b.low.along a == p.bounds.low.along a) = true ∧ (b.high.along a == p.bounds.high.along a) = true) ∧
      p.bounds =
        ⟨⟨p.position.x - width / 2, p.position.y - height / 2, p.position.z - depth / 2⟩,
          ⟨p.position.x + width / 2, p.position.y + height / 2, p.position.z + depth / 2⟩⟩ := by
  have hcorners : (p.mesh r).facets.flatMap (·.corners) =
      (Mesh.Box.triangles.flatMap (·.indices)).map (p.mesh r).vertex := by
    rw [Mesh.corners_facets, mesh, Mesh.triangles_translate, hbox]
    rfl
  have hcorner : ∀ n < 8, (p.mesh r).vertex n ∈ (p.mesh r).facets.flatMap (·.corners) := fun n hn =>
    hcorners ▸ List.mem_map_of_mem (mem_indices_triangles.mpr hn)
  have hall : ∀ {P : Point → Prop}, (∀ n < 8, P ((p.mesh r).vertex n)) →
      ∀ q ∈ (p.mesh r).facets.flatMap (·.corners), P q := fun hP => by
    rw [hcorners]
    exact List.forall_mem_map.mpr fun n hn => hP n (mem_indices_triangles.mp hn)
  have hnumbers := hall (P := Point.IsNumber) fun n hn a => (h.nearest_vertex_box hbox r hn a).isNaN_eq_false
  obtain ⟨b, hb⟩ := Option.ne_none_iff_exists'.mp
    (mt Bounds.around?_eq_none.mp (List.ne_nil_of_mem (hcorner 0 (by decide))))
  refine ⟨(p.watertight_mesh r).inRange, b, hb, fun a => ⟨?_, ?_⟩, by rw [bounds, hbox]; rfl⟩
  · exact Bounds.low_beq hnumbers hb (h.nearest_low_box hbox a).isNaN_eq_false
      (hall fun n hn => (h.rank_vertex_box hbox a r hn).1) ⟨_, hcorner 0 (by decide), (h.rank_ends_box hbox a r).1⟩
  · exact Bounds.high_beq hnumbers hb (h.nearest_high_box hbox a).isNaN_eq_false
      (hall fun n hn => (h.rank_vertex_box hbox a r hn).2) ⟨_, hcorner 7 (by decide), (h.rank_ends_box hbox a r).2⟩

/-- At the zero below zero along X, and so far out along Y that the height is lost in rounding. -/
theorem bounds_mesh_box_far :
    ∃ b, (mesh ⟨"box_1", .box 2 0.001 1000000, ⟨-0.0, 1e22, -5⟩⟩ ⟨4, 2, 4⟩).bounds? = some b ∧
      ∀ a : Axis, (b.low.along a == Vec3.along ⟨-1, 1e22, -5.0005⟩ a) = true ∧
        (b.high.along a == Vec3.along ⟨1, 1e22, -4.9995⟩ a) = true := by
  have hvalid : Valid ⟨"box_1", .box 2 0.001 1000000, ⟨-0.0, 1e22, -5⟩⟩ := ⟨by decide, by decide⟩
  obtain ⟨-, b, hb, hends, -⟩ := bounds_mesh_box hvalid rfl ⟨4, 2, 4⟩
  have hbounds : bounds ⟨"box_1", .box 2 0.001 1000000, ⟨-0.0, 1e22, -5⟩⟩ =
      ⟨⟨-1, 1e22, -5.0005⟩, ⟨1, 1e22, -4.9995⟩⟩ := by decide +kernel
  rw [hbounds] at hends
  exact ⟨b, hb, hends⟩

end Primitive

end PromptCad
