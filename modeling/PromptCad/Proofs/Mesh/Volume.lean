import Mathlib.Data.List.Forall2
import PromptCad.Mesh.Box
import PromptCad.Proofs.Bounds

/-! The mesh of a box over exact numbers. Each face is a rectangle that its two triangles tile, both run
counter-clockwise when seen from outside, and all triangles together enclose the volume of the box. The faces are first
read as frames, a corner with two edges, since what is wanted of a triangle is then told by the block that the frame
spans from the centre: all six blocks of a box are equal. -/

namespace PromptCad

attribute [ext] Vec3

structure Patch where
  a : Vec3 ℚ
  b : Vec3 ℚ
  c : Vec3 ℚ

namespace Patch

/-- The cross product of the first two sides: to the outside, and as long as twice the area. -/
def span (t : Patch) : Vec3 ℚ := (t.b - t.a).cross (t.c - t.a)

/-- Seen from the origin the triangle runs clockwise. -/
def IsOutward (t : Patch) : Prop := 0 < t.span.dot (t.a + t.b + t.c)

/-- Lengths are told by their squares, for they need not be rational. -/
def HasArea (t : Patch) (area : ℚ) : Prop := 0 ≤ area ∧ t.span.dot t.span = (2 * area) * (2 * area)

/-- The volume of the pyramid over the triangle whose top is the origin, negative if the triangle is not outward. -/
def volume (t : Patch) : ℚ := t.a.dot (t.b.cross t.c) / 6

def Holds (t : Patch) (p : Vec3 ℚ) : Prop :=
  ∃ u v w : ℚ, 0 ≤ u ∧ 0 ≤ v ∧ 0 ≤ w ∧ u + v + w = 1 ∧
    p = t.a.multiplyBy u + t.b.multiplyBy v + t.c.multiplyBy w

end Patch

/-- A parallelogram as a corner and the two edges that start there. -/
structure Frame where
  corner : Vec3 ℚ
  edge : Vec3 ℚ
  edge' : Vec3 ℚ

namespace Frame

variable (q : Frame) {p : Vec3 ℚ}

/-- A quadrilateral is cut along the diagonal from its first corner. -/
def lower : Patch := ⟨q.corner, q.corner + q.edge, q.corner + q.edge + q.edge'⟩

def upper : Patch := ⟨q.corner, q.corner + q.edge + q.edge', q.corner + q.edge'⟩

def patches : List Patch := [q.lower, q.upper]

def point (r s : ℚ) : Vec3 ℚ := q.corner + q.edge.multiplyBy r + q.edge'.multiplyBy s

def Holds (p : Vec3 ℚ) : Prop := ∃ r s, 0 ≤ r ∧ r ≤ 1 ∧ 0 ≤ s ∧ s ≤ 1 ∧ p = q.point r s

/-- The volume of the block that the edges span together with the way from the origin to the corner. -/
def block : ℚ := q.corner.dot (q.edge.cross q.edge')

variable {q} {t : Patch}

theorem span_of_mem (ht : t ∈ q.patches) : t.span = q.edge.cross q.edge' := by
  obtain rfl | rfl := List.mem_pair.mp ht
  · ext <;> simp only [Patch.span, lower, Vec3.cross, Vec3.add_def, Vec3.sub_def] <;> ring
  · ext <;> simp only [Patch.span, upper, Vec3.cross, Vec3.add_def, Vec3.sub_def] <;> ring

theorem volume_of_mem (ht : t ∈ q.patches) : t.volume = q.block / 6 := by
  obtain rfl | rfl := List.mem_pair.mp ht
  · simp only [Patch.volume, lower, block, Vec3.dot, Vec3.cross, Vec3.add_def]
    ring
  · simp only [Patch.volume, upper, block, Vec3.dot, Vec3.cross, Vec3.add_def]
    ring

theorem isOutward_of_mem (h : 0 < q.block) (ht : t ∈ q.patches) : t.IsOutward := by
  have hblock : t.span.dot (t.a + t.b + t.c) = 3 * q.block := by
    rw [span_of_mem ht]
    obtain rfl | rfl := List.mem_pair.mp ht
    · simp only [lower, block, Vec3.dot, Vec3.cross, Vec3.add_def]
      ring
    · simp only [upper, block, Vec3.dot, Vec3.cross, Vec3.add_def]
      ring
  rw [Patch.IsOutward, hblock]
  positivity

variable (q)

theorem holds_lower : q.lower.Holds p ↔ ∃ r s, 0 ≤ s ∧ s ≤ r ∧ r ≤ 1 ∧ p = q.point r s := by
  constructor
  · rintro ⟨u, v, w, hu, hv, hw, hsum, rfl⟩
    obtain rfl : u = 1 - v - w := by linarith
    refine ⟨v + w, w, hw, by linarith, by linarith, ?_⟩
    ext <;> simp only [lower, point, Vec3.multiplyBy, Vec3.map, Vec3.add_def] <;> ring
  · rintro ⟨r, s, hs, hsr, hr, rfl⟩
    refine ⟨1 - r, r - s, s, by linarith, by linarith, hs, by ring, ?_⟩
    ext <;> simp only [lower, point, Vec3.multiplyBy, Vec3.map, Vec3.add_def] <;> ring

theorem holds_upper : q.upper.Holds p ↔ ∃ r s, 0 ≤ r ∧ r ≤ s ∧ s ≤ 1 ∧ p = q.point r s := by
  constructor
  · rintro ⟨u, v, w, hu, hv, hw, hsum, rfl⟩
    obtain rfl : u = 1 - v - w := by linarith
    refine ⟨v, v + w, hv, by linarith, by linarith, ?_⟩
    ext <;> simp only [upper, point, Vec3.multiplyBy, Vec3.map, Vec3.add_def] <;> ring
  · rintro ⟨r, s, hr, hrs, hs, rfl⟩
    refine ⟨1 - s, r, s - r, by linarith, hr, by linarith, by ring, ?_⟩
    ext <;> simp only [upper, point, Vec3.multiplyBy, Vec3.map, Vec3.add_def] <;> ring

theorem holds_iff : q.Holds p ↔ q.lower.Holds p ∨ q.upper.Holds p := by
  rw [holds_lower, holds_upper]
  constructor
  · rintro ⟨r, s, hr, hr', hs, hs', hp⟩
    rcases le_total s r with h | h
    · exact .inl ⟨r, s, hs, h, hr', hp⟩
    · exact .inr ⟨r, s, hr, h, hs', hp⟩
  · rintro (⟨r, s, hs, hsr, hr, hp⟩ | ⟨r, s, hr, hrs, hs, hp⟩)
    · exact ⟨r, s, hs.trans hsr, hr, hs, hsr.trans hr, hp⟩
    · exact ⟨r, s, hr, hrs.trans hs, hr.trans hrs, hs, hp⟩

theorem point_injective (h : q.block ≠ 0) {r s r' s' : ℚ} (hp : q.point r s = q.point r' s') : r = r' ∧ s = s' := by
  have hr : ∀ r s, q.corner.dot ((q.point r s - q.corner).cross q.edge') = r * q.block := fun r s => by
    simp only [point, block, Vec3.dot, Vec3.cross, Vec3.multiplyBy, Vec3.map, Vec3.add_def, Vec3.sub_def]
    ring
  have hs : ∀ r s, q.corner.dot (q.edge.cross (q.point r s - q.corner)) = s * q.block := fun r s => by
    simp only [point, block, Vec3.dot, Vec3.cross, Vec3.multiplyBy, Vec3.map, Vec3.add_def, Vec3.sub_def]
    ring
  constructor
  · exact mul_right_cancel₀ h (by rw [← hr r s, hp, hr])
  · exact mul_right_cancel₀ h (by rw [← hs r s, hp, hs])

theorem diagonal_of_holds (h : q.block ≠ 0) (hlower : q.lower.Holds p) (hupper : q.upper.Holds p) :
    ∃ r, 0 ≤ r ∧ r ≤ 1 ∧ p = q.point r r := by
  obtain ⟨r, s, hs, hsr, hr, rfl⟩ := q.holds_lower.mp hlower
  obtain ⟨r', s', hr', hrs', -, hp⟩ := q.holds_upper.mp hupper
  obtain ⟨rfl, rfl⟩ := q.point_injective h hp
  obtain rfl := le_antisymm hrs' hsr
  exact ⟨r, hs, hr, rfl⟩

end Frame

namespace Mesh.Box

variable (width depth height : ℚ)

def patch? (t : Triangle) : Option Patch := do
  return ⟨← (corners width depth height)[t.a]?, ← (corners width depth height)[t.b]?,
    ← (corners width depth height)[t.c]?⟩

def sides : List (Axis × Bool) := [(.x, true), (.x, false), (.y, true), (.y, false), (.z, true), (.z, false)]

def frames : List Frame :=
  [⟨⟨width / 2, -(height / 2), -(depth / 2)⟩, ⟨0, height, 0⟩, ⟨0, 0, depth⟩⟩,
    ⟨⟨-(width / 2), -(height / 2), -(depth / 2)⟩, ⟨0, 0, depth⟩, ⟨0, height, 0⟩⟩,
    ⟨⟨-(width / 2), height / 2, -(depth / 2)⟩, ⟨0, 0, depth⟩, ⟨width, 0, 0⟩⟩,
    ⟨⟨-(width / 2), -(height / 2), -(depth / 2)⟩, ⟨width, 0, 0⟩, ⟨0, 0, depth⟩⟩,
    ⟨⟨-(width / 2), -(height / 2), depth / 2⟩, ⟨width, 0, 0⟩, ⟨0, height, 0⟩⟩,
    ⟨⟨-(width / 2), -(height / 2), -(depth / 2)⟩, ⟨0, height, 0⟩, ⟨width, 0, 0⟩⟩]

theorem corners_eq : corners width depth height =
    [⟨-(width / 2), -(height / 2), -(depth / 2)⟩, ⟨width / 2, -(height / 2), -(depth / 2)⟩,
      ⟨-(width / 2), height / 2, -(depth / 2)⟩, ⟨width / 2, height / 2, -(depth / 2)⟩,
      ⟨-(width / 2), -(height / 2), depth / 2⟩, ⟨width / 2, -(height / 2), depth / 2⟩,
      ⟨-(width / 2), height / 2, depth / 2⟩, ⟨width / 2, height / 2, depth / 2⟩] := by
  simp [corners, side, Vec3.mul_def, Vec3.divideBy, Vec3.map, List.range_succ, Nat.testBit]

theorem patches_eq :
    triangles.mapM (patch? width depth height) = some ((frames width depth height).flatMap (·.patches)) := by
  have hside : ∀ x : ℚ, -(x / 2) + x = x / 2 := fun x => by ring
  simp [triangles, faces, Face.triangles, patch?, corners_eq, frames, Frame.patches, Frame.lower, Frame.upper,
    Vec3.add_def, hside]

theorem block_of_mem {q : Frame} (hq : q ∈ frames width depth height) : q.block = width * depth * height / 2 := by
  have hall : ∀ q ∈ frames width depth height, q.block = width * depth * height / 2 := by
    simp only [frames, List.forall_mem_cons, Frame.block, Vec3.dot, Vec3.cross]
    refine ⟨?_, ?_, ?_, ?_, ?_, ?_, List.forall_mem_nil _⟩ <;> ring
  exact hall q hq

def extent : Axis → ℚ
  | .x => width
  | .y => height
  | .z => depth

def faceArea : Axis → ℚ
  | .x => height * depth
  | .y => width * depth
  | .z => width * height

/-- The points of the box that are as far to one side as any. -/
def OnFace (side : Axis × Bool) (p : Vec3 ℚ) : Prop :=
  (p.along side.1 = if side.2 then extent width depth height side.1 / 2 else -(extent width depth height side.1 / 2)) ∧
    ∀ a, |p.along a| ≤ extent width depth height a / 2

/-- The frame is in the plane of a side, and its edges lead from one end of the box to the other along the axes `b` and
`c`. -/
structure Lies (q : Frame) (side : Axis × Bool) (b c : Axis) : Prop where
  axes : ∀ P : Axis → Prop, P side.1 → P b → P c → ∀ a, P a
  point : ∀ r s,
    ((q.point r s).along side.1 =
      if side.2 then extent width depth height side.1 / 2 else -(extent width depth height side.1 / 2)) ∧
      (q.point r s).along b = -(extent width depth height b / 2) + extent width depth height b * r ∧
      (q.point r s).along c = -(extent width depth height c / 2) + extent width depth height c * s
  area : (q.edge.cross q.edge').dot (q.edge.cross q.edge') =
    faceArea width depth height side.1 * faceArea width depth height side.1

/-- Two triangles that tile a face: each has half of its area, together they are the face, and they have just their common
side in common. -/
structure Halves (t u : Patch) (side : Axis × Bool) : Prop where
  area : t.HasArea (faceArea width depth height side.1 / 2)
  area' : u.HasArea (faceArea width depth height side.1 / 2)
  holds : ∀ p, OnFace width depth height side p ↔ t.Holds p ∨ u.Holds p
  common : ∀ p, t.Holds p → u.Holds p → ∃ r, 0 ≤ r ∧ r ≤ 1 ∧ p = t.a + (t.c - t.a).multiplyBy r

theorem abs_le_half_iff {x l : ℚ} (hl : 0 < l) : |x| ≤ l / 2 ↔ ∃ r, 0 ≤ r ∧ r ≤ 1 ∧ x = -(l / 2) + l * r := by
  rw [abs_le]
  constructor
  · rintro ⟨hlow, hhigh⟩
    refine ⟨x / l + 1 / 2, ?_, ?_, by field_simp; ring⟩
    · have := div_le_div_of_nonneg_right hlow hl.le
      have hhalf : -(l / 2) / l = -(1 / 2) := by field_simp
      linarith
    · have := div_le_div_of_nonneg_right hhigh hl.le
      have hhalf : l / 2 / l = 1 / 2 := by field_simp
      linarith
  · rintro ⟨r, hr, hr', rfl⟩
    constructor <;> nlinarith

variable {width depth height} {q : Frame} {side : Axis × Bool} {b c : Axis} {p : Vec3 ℚ}

theorem Lies.onFace_iff (h : Lies width depth height q side b c) (hpos : ∀ a, 0 < extent width depth height a) :
    OnFace width depth height side p ↔ q.Holds p := by
  constructor
  · rintro ⟨hlevel, hwithin⟩
    obtain ⟨r, hr, hr', hb⟩ := (abs_le_half_iff (hpos b)).mp (hwithin b)
    obtain ⟨s, hs, hs', hc⟩ := (abs_le_half_iff (hpos c)).mp (hwithin c)
    obtain ⟨hlevel', hedge, hedge'⟩ := h.point r s
    have halong : ∀ a, p.along a = (q.point r s).along a :=
      h.axes _ (hlevel.trans hlevel'.symm) (hb.trans hedge.symm) (hc.trans hedge'.symm)
    exact ⟨r, s, hr, hr', hs, hs', Vec3.ext (halong .x) (halong .y) (halong .z)⟩
  · rintro ⟨r, s, hr, hr', hs, hs', rfl⟩
    obtain ⟨hlevel, hedge, hedge'⟩ := h.point r s
    refine ⟨hlevel, h.axes _ ?_ ?_ ?_⟩
    · have hhalf : 0 ≤ extent width depth height side.1 / 2 := (half_pos (hpos side.1)).le
      rw [hlevel]
      split
      · rw [abs_of_nonneg hhalf]
      · rw [abs_neg, abs_of_nonneg hhalf]
    · exact (abs_le_half_iff (hpos b)).mpr ⟨r, hr, hr', hedge⟩
    · exact (abs_le_half_iff (hpos c)).mpr ⟨s, hs, hs', hedge'⟩

theorem Lies.halves (h : Lies width depth height q side b c) (hpos : ∀ a, 0 < extent width depth height a)
    (hblock : 0 < q.block) : Halves width depth height q.lower q.upper side := by
  have harea : 0 ≤ faceArea width depth height side.1 / 2 := by
    have hx : 0 < width := hpos .x
    have hy : 0 < height := hpos .y
    have hz : 0 < depth := hpos .z
    cases side.1 <;> simp only [faceArea] <;> positivity
  have hhalf : ∀ t ∈ q.patches, t.HasArea (faceArea width depth height side.1 / 2) := fun t ht => by
    refine ⟨harea, ?_⟩
    rw [Frame.span_of_mem ht, h.area, mul_div_cancel₀ _ two_ne_zero]
  refine ⟨hhalf _ List.mem_cons_self, hhalf _ (List.mem_cons_of_mem _ List.mem_cons_self),
    fun p => (h.onFace_iff hpos).trans q.holds_iff, fun p hlower hupper => ?_⟩
  obtain ⟨r, hr, hr', rfl⟩ := q.diagonal_of_holds hblock.ne' hlower hupper
  refine ⟨r, hr, hr', ?_⟩
  ext <;> simp only [Frame.point, Frame.lower, Vec3.multiplyBy, Vec3.map, Vec3.add_def, Vec3.sub_def] <;> ring

theorem forall₂_frames (width depth height : ℚ) :
    List.Forall₂ (fun q side => ∃ b c, Lies width depth height q side b c) (frames width depth height) sides := by
  have haxes : ∀ P : Axis → Prop, P .x → P .y → P .z → ∀ a, P a := fun P hx hy hz a => by cases a <;> assumption
  unfold frames sides
  refine .cons ⟨.y, .z, haxes, ?_, ?_⟩ <| .cons ⟨.z, .y, fun P hx hz hy => haxes P hx hy hz, ?_, ?_⟩ <|
    .cons ⟨.z, .x, fun P hy hz hx => haxes P hx hy hz, ?_, ?_⟩ <|
    .cons ⟨.x, .z, fun P hy hx hz => haxes P hx hy hz, ?_, ?_⟩ <|
    .cons ⟨.x, .y, fun P hz hx hy => haxes P hx hy hz, ?_, ?_⟩ <|
    .cons ⟨.y, .x, fun P hz hy hx => haxes P hx hy hz, ?_, ?_⟩ .nil
  all_goals simp [Frame.point, Vec3.add_def, Vec3.multiplyBy, Vec3.map, Vec3.along, extent, Vec3.cross, Vec3.dot,
    faceArea]
  all_goals ring

/-- The triangles of a box run counter-clockwise when seen from outside and come in pairs, one pair to a face in the
order of the faces. Each pair tiles its face, and all of them enclose the volume of the box. -/
theorem box_encloses_volume {width depth height : ℚ} (hwidth : 0 < width) (hdepth : 0 < depth) (hheight : 0 < height) :
    ∃ pairs : List (Patch × Patch),
      triangles.mapM (patch? width depth height) = some (pairs.flatMap fun t => [t.1, t.2]) ∧
      (∀ t ∈ pairs.flatMap fun t => [t.1, t.2], t.IsOutward) ∧
      List.Forall₂ (fun t side => Halves width depth height t.1 t.2 side) pairs sides ∧
      ((pairs.flatMap fun t => [t.1, t.2]).map (·.volume)).sum = width * depth * height := by
  have hpos : ∀ a, 0 < extent width depth height a := fun a => by cases a <;> assumption
  have hblock : ∀ q ∈ frames width depth height, 0 < q.block := fun q hq => by
    rw [block_of_mem _ _ _ hq]
    positivity
  have hpairs : ((frames width depth height).map fun q => (q.lower, q.upper)).flatMap (fun t => [t.1, t.2]) =
      (frames width depth height).flatMap (·.patches) := by
    rw [List.flatMap_map]
    rfl
  refine ⟨(frames width depth height).map fun q => (q.lower, q.upper), ?_, ?_, ?_, ?_⟩
  · rw [hpairs, patches_eq]
  · rw [hpairs]
    intro t ht
    obtain ⟨q, hq, ht⟩ := List.mem_flatMap.mp ht
    exact Frame.isOutward_of_mem (hblock q hq) ht
  · rw [List.forall₂_map_left_iff]
    refine List.Forall₂.imp ?_ ((List.forall₂_and_left _ _).mpr ⟨hblock, forall₂_frames width depth height⟩)
    rintro q side ⟨hq, b, c, hlies⟩
    exact hlies.halves hpos hq
  · have hvolume : ∀ v ∈ ((frames width depth height).flatMap (·.patches)).map (·.volume),
        v = width * depth * height / 12 := by
      refine List.forall_mem_map.mpr fun t ht => ?_
      obtain ⟨q, hq, ht⟩ := List.mem_flatMap.mp ht
      rw [Frame.volume_of_mem ht, block_of_mem _ _ _ hq]
      ring
    have hcount : (((frames width depth height).flatMap (·.patches)).map (·.volume)).length = 12 := rfl
    rw [hpairs, List.sum_eq_card_nsmul _ _ hvolume, hcount, nsmul_eq_mul]
    push_cast
    ring

/-- A plate whose three sizes are far apart. -/
theorem box_encloses_volume_plate :
    ((0 : ℚ) < 1 / 3 ∧ (0 : ℚ) < 7 ∧ (0 : ℚ) < 1 / 1000) ∧
      ∃ pairs : List (Patch × Patch),
        triangles.mapM (patch? (1 / 3) 7 (1 / 1000)) = some (pairs.flatMap fun t => [t.1, t.2]) ∧
        (∀ t ∈ pairs.flatMap fun t => [t.1, t.2], t.IsOutward) ∧
        ((pairs.flatMap fun t => [t.1, t.2]).map (·.volume)).sum = 7 / 3000 := by
  obtain ⟨pairs, hmesh, houtward, -, hvolume⟩ := box_encloses_volume
    (by norm_num : (0 : ℚ) < 1 / 3) (by norm_num : (0 : ℚ) < 7) (by norm_num : (0 : ℚ) < 1 / 1000)
  exact ⟨⟨by norm_num, by norm_num, by norm_num⟩, pairs, hmesh, houtward, hvolume.trans (by norm_num)⟩

end Mesh.Box

end PromptCad
