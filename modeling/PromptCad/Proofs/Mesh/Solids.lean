import Mathlib.Order.Basic
import Mathlib.Tactic.Ring
import PromptCad.Mesh.Tessellation
import PromptCad.Proofs.Mesh.Rings
import PromptCad.Proofs.Settings

/-! The meshes of boxes, cylinders and spheres are watertight, for any count of segments that is asked for. -/

namespace PromptCad

namespace Rings

def Spot.Within (last n : ℕ) : Spot → Prop
  | north => True
  | south => True
  | ring k j => k ≤ last ∧ j < n

def Piece.triangle (last n : ℕ) (number : Spot → ℕ) (p : Piece) : Triangle :=
  ⟨number (p.corners last n).1, number (p.corners last n).2.1, number (p.corners last n).2.2⟩

variable {last n : ℕ}

theorem within_corners {p : Piece} (hp : p.Within last n) :
    (p.corners last n).1.Within last n ∧ (p.corners last n).2.1.Within last n ∧
      (p.corners last n).2.2.Within last n := by
  cases p with
  | north j => exact ⟨trivial, ⟨Nat.zero_le _, next_lt hp⟩, ⟨Nat.zero_le _, hp⟩⟩
  | south j => exact ⟨trivial, ⟨Nat.le_refl _, hp⟩, ⟨Nat.le_refl _, next_lt hp⟩⟩
  | upper k j => exact ⟨⟨hp.1, hp.2⟩, ⟨Nat.le_of_lt hp.1, hp.2⟩, ⟨Nat.le_of_lt hp.1, next_lt hp.2⟩⟩
  | lower k j => exact ⟨⟨hp.1, hp.2⟩, ⟨Nat.le_of_lt hp.1, next_lt hp.2⟩, ⟨hp.1, next_lt hp.2⟩⟩

/-- A mesh of all pieces is watertight when its numbering keeps the spots apart and within the vertices. -/
theorem watertight_of_pieces {m : Mesh} (hn : 3 ≤ n) {l : List Piece} (hl : l.Nodup)
    (hmem : ∀ p, p ∈ l ↔ p.Within last n) {number : Spot → ℕ}
    (hinj : ∀ a b : Spot, a.Within last n → b.Within last n → number a = number b → a = b)
    (hrange : ∀ a : Spot, a.Within last n → number a < m.vertices.size)
    (htriangles : m.triangles.toList = l.map (Piece.triangle last n number)) : m.Watertight := by
  have hedges : m.edges = (l.flatMap (Piece.sides last n)).map (Prod.map number number) := by
    rw [Mesh.edges, htriangles, List.flatMap_map, List.map_flatMap]
    rfl
  constructor
  · intro t ht i hi
    rw [htriangles] at ht
    obtain ⟨p, hp, rfl⟩ := List.mem_map.mp ht
    obtain ⟨ha, hb, hc⟩ := within_corners ((hmem p).mp hp)
    simp only [Triangle.indices, Piece.triangle, List.mem_cons, List.not_mem_nil, or_false] at hi
    obtain rfl | rfl | rfl := hi
    · exact hrange _ ha
    · exact hrange _ hb
    · exact hrange _ hc
  · rw [hedges]
    refine (paired_pieces hn hl hmem).map (P := Spot.Within last n) (fun e he => ?_) hinj
    obtain ⟨p, hp, he⟩ := List.mem_flatMap.mp he
    obtain ⟨ha, hb, hc⟩ := within_corners ((hmem p).mp hp)
    obtain rfl | rfl | rfl := mem_around.mp he
    · exact ha
    · exact hb
    · exact hc

end Rings

namespace Mesh

open Rings (Spot Piece next next_lt)

namespace Cylinder

variable {n : ℕ}

/-- The pieces of a cylinder, segment by segment. The top ring is the first, the bottom ring the last. -/
def pieces (n : ℕ) : List Piece := (List.range n).flatMap fun i => [.upper 0 i, .lower 0 i, .north i, .south i]

def number (n : ℕ) : Spot → ℕ
  | .north => 2 * n + 1
  | .south => 2 * n
  | .ring k j => if k = 0 then n + j else j

theorem nodup_pieces (n : ℕ) : (pieces n).Nodup := by
  rw [pieces, List.nodup_flatMap]
  refine ⟨fun i _ => by simp, ?_⟩
  refine List.nodup_range.imp fun {i j} hij p hp hp' => ?_
  simp only [List.mem_cons, List.not_mem_nil, or_false] at hp hp'
  obtain rfl | rfl | rfl | rfl := hp <;> simp [hij] at hp'

theorem mem_pieces (p : Piece) : p ∈ pieces n ↔ p.Within 1 n := by
  cases p <;> simp [pieces, Piece.Within]
  all_goals omega

theorem triangles_eq (n : ℕ) : triangles n = (pieces n).map (Piece.triangle 1 n (number n)) := by
  rw [triangles, pieces, List.map_flatMap]
  rfl

theorem number_injective {a b : Spot} (ha : a.Within 1 n) (hb : b.Within 1 n) (h : number n a = number n b) :
    a = b := by
  cases a with
  | north =>
    cases b with
    | north => rfl
    | south => simp [number] at h
    | ring l j =>
      obtain ⟨-, hj⟩ := hb
      simp only [number] at h
      split_ifs at h <;> omega
  | south =>
    cases b with
    | north => simp [number] at h
    | south => rfl
    | ring l j =>
      obtain ⟨-, hj⟩ := hb
      simp only [number] at h
      split_ifs at h <;> omega
  | ring k i =>
    obtain ⟨hk, hi⟩ := ha
    cases b with
    | north =>
      simp only [number] at h
      split_ifs at h <;> omega
    | south =>
      simp only [number] at h
      split_ifs at h <;> omega
    | ring l j =>
      obtain ⟨hl, hj⟩ := hb
      simp only [number] at h
      obtain ⟨rfl, rfl⟩ : k = l ∧ i = j := by split_ifs at h <;> omega
      rfl

theorem number_lt {a : Spot} (ha : a.Within 1 n) : number n a < 2 * n + 2 := by
  cases a with
  | north => simp [number]
  | south => simp [number]
  | ring k j =>
    obtain ⟨-, hj⟩ := ha
    simp only [number]
    split_ifs <;> omega

end Cylinder

theorem size_vertices_cylinder (radius height : Float) (wanted : ℕ) :
    (Mesh.cylinder radius height wanted).vertices.size = 2 * Cylinder.segments wanted + 2 := by
  rw [cylinder, List.size_toArray, Cylinder.length_vertices]

theorem size_triangles_cylinder (radius height : Float) (wanted : ℕ) :
    (Mesh.cylinder radius height wanted).triangles.size = 4 * Cylinder.segments wanted := by
  rw [cylinder, List.size_toArray, Cylinder.triangles, length_flatMap_const (n := 4) fun _ => rfl, List.length_range,
    Nat.mul_comm]

theorem three_le_segments (wanted : ℕ) : 3 ≤ Cylinder.segments wanted := by
  unfold Cylinder.segments
  omega

theorem watertight_cylinder (radius height : Float) (wanted : ℕ) : (Mesh.cylinder radius height wanted).Watertight := by
  refine Rings.watertight_of_pieces (three_le_segments wanted) (Cylinder.nodup_pieces _) Cylinder.mem_pieces
    (fun _ _ => Cylinder.number_injective) (fun a ha => ?_) (Cylinder.triangles_eq _)
  rw [size_vertices_cylinder]
  exact Cylinder.number_lt ha

namespace Sphere

variable {lat lon : ℕ}

def pieces (lat lon : ℕ) : List Piece :=
  (List.range lon).map .north ++
    (List.range (lat - 2)).flatMap (fun k => (List.range lon).flatMap fun j => [.upper k j, .lower k j]) ++
    (List.range lon).map .south

def number (lat lon : ℕ) : Spot → ℕ
  | .north => 0
  | .south => southPole lat lon
  | .ring k j => 1 + k * lon + j

theorem mem_pieces (p : Piece) : p ∈ pieces lat lon ↔ p.Within (lat - 2) lon := by
  cases p <;> simp [pieces, Piece.Within]

theorem nodup_pieces (lat lon : ℕ) : (pieces lat lon).Nodup := by
  have hquads : ∀ k, ((List.range lon).flatMap fun j => [Piece.upper k j, Piece.lower k j]).Nodup := by
    intro k
    rw [List.nodup_flatMap]
    refine ⟨fun j _ => by simp, List.nodup_range.imp fun {i j} hij p hp hp' => ?_⟩
    simp only [List.mem_cons, List.not_mem_nil, or_false] at hp hp'
    obtain rfl | rfl := hp <;> simp [hij] at hp'
  have hbands : ((List.range (lat - 2)).flatMap fun k =>
      (List.range lon).flatMap fun j => [Piece.upper k j, Piece.lower k j]).Nodup := by
    rw [List.nodup_flatMap]
    refine ⟨fun k _ => hquads k, List.nodup_range.imp fun {k l} hkl p hp hp' => ?_⟩
    simp only [List.mem_flatMap, List.mem_cons, List.not_mem_nil, or_false] at hp hp'
    obtain ⟨i, -, rfl | rfl⟩ := hp <;> simp [hkl] at hp'
  have hnorth : ((List.range lon).map Piece.north).Nodup := List.nodup_range.map fun i j h => Piece.north.inj h
  have hsouth : ((List.range lon).map Piece.south).Nodup := List.nodup_range.map fun i j h => Piece.south.inj h
  rw [pieces, List.nodup_append, List.nodup_append]
  refine ⟨⟨hnorth, hbands, ?_⟩, hsouth, ?_⟩
  · intro p hp q hq
    obtain ⟨i, -, rfl⟩ := List.mem_map.mp hp
    rintro rfl
    simp at hq
  · intro p hp q hq
    obtain ⟨i, -, rfl⟩ := List.mem_map.mp hq
    rintro rfl
    simp at hp

theorem place_eq {k j : ℕ} (hj : j < lon) : place lon k j = 1 + k * lon + j := by
  rw [place, Nat.mod_eq_of_lt hj]

theorem northFan_eq (lat lon : ℕ) :
    northFan lon = ((List.range lon).map .north).map (Piece.triangle (lat - 2) lon (number lat lon)) := by
  rw [northFan, List.map_map]
  apply List.map_congr_left
  intro j hj
  rw [place_eq (List.mem_range.mp hj)]
  rfl

theorem southFan_eq (lat lon : ℕ) :
    southFan lat lon = ((List.range lon).map .south).map (Piece.triangle (lat - 2) lon (number lat lon)) := by
  rw [southFan, List.map_map]
  apply List.map_congr_left
  intro j hj
  rw [place_eq (List.mem_range.mp hj)]
  rfl

theorem triangles_eq (lat lon : ℕ) :
    triangles lat lon = (pieces lat lon).map (Piece.triangle (lat - 2) lon (number lat lon)) := by
  have hband : ∀ k, band lon k = ((List.range lon).flatMap fun j => [.upper k j, .lower k j]).map
      (Piece.triangle (lat - 2) lon (number lat lon)) := by
    intro k
    rw [band, List.map_flatMap]
    apply List.flatMap_congr
    intro j hj
    rw [place_eq (List.mem_range.mp hj), place_eq (List.mem_range.mp hj)]
    rfl
  rw [triangles, pieces, List.map_append, List.map_append, ← northFan_eq, ← southFan_eq, List.map_flatMap]
  congr 2
  exact List.flatMap_congr fun k _ => hband k

/-- Rings follow one another without gaps, so a place number tells its ring and its place. -/
theorem ring_place_injective {k l i j : ℕ} (hi : i < lon) (hj : j < lon) (h : k * lon + i = l * lon + j) :
    k = l ∧ i = j := by
  have hpos : 0 < lon := by omega
  have hmod : ∀ k i, i < lon → (k * lon + i) / lon = k ∧ (k * lon + i) % lon = i := by
    intro k i hi
    rw [Nat.mul_comm, Nat.mul_add_div hpos, Nat.mul_add_mod, Nat.div_eq_of_lt hi, Nat.mod_eq_of_lt hi]
    exact ⟨rfl, rfl⟩
  obtain ⟨hk, hi'⟩ := hmod k i hi
  obtain ⟨hl, hj'⟩ := hmod l j hj
  rw [h] at hk hi'
  exact ⟨hk.symm.trans hl, hi'.symm.trans hj'⟩

theorem ring_place_lt {k j : ℕ} (hlat : 2 ≤ lat) (hk : k ≤ lat - 2) (hj : j < lon) :
    1 + k * lon + j < southPole lat lon := by
  have hrows : (k + 1) * lon ≤ (lat - 1) * lon := Nat.mul_le_mul_right lon (by omega)
  rw [Nat.add_mul] at hrows
  unfold southPole
  omega

theorem number_injective (hlat : 2 ≤ lat) {a b : Spot} (ha : a.Within (lat - 2) lon) (hb : b.Within (lat - 2) lon)
    (h : number lat lon a = number lat lon b) : a = b := by
  have hsouth : 0 < southPole lat lon := Nat.succ_pos _
  cases a with
  | north =>
    cases b with
    | north => rfl
    | south => exact absurd h hsouth.ne
    | ring l j =>
      simp only [number] at h
      omega
  | south =>
    cases b with
    | north => exact absurd h hsouth.ne'
    | south => rfl
    | ring l j => exact absurd h (ring_place_lt hlat hb.1 hb.2).ne'
  | ring k i =>
    cases b with
    | north =>
      simp only [number] at h
      omega
    | south => exact absurd h (ring_place_lt hlat ha.1 ha.2).ne
    | ring l j =>
      simp only [number] at h
      have hplace : k * lon + i = l * lon + j := by omega
      obtain ⟨rfl, rfl⟩ := ring_place_injective ha.2 hb.2 hplace
      rfl

theorem number_le {a : Spot} (hlat : 2 ≤ lat) (ha : a.Within (lat - 2) lon) : number lat lon a ≤ southPole lat lon := by
  cases a with
  | north => exact Nat.zero_le _
  | south => exact Nat.le_refl _
  | ring k j => exact (ring_place_lt hlat ha.1 ha.2).le

end Sphere

theorem Sphere.two_le_bands (wanted : ℕ) : 2 ≤ Sphere.bands wanted := by
  unfold Sphere.bands
  omega

theorem Sphere.three_le_segments (wanted : ℕ) : 3 ≤ Sphere.segments wanted := by
  unfold Sphere.segments
  omega

theorem Sphere.length_triangles {lat : ℕ} (hlat : 2 ≤ lat) (lon : ℕ) :
    (Sphere.triangles lat lon).length = 2 * lon * (lat - 1) := by
  have hband : ∀ k, (Sphere.band lon k).length = lon * 2 := by
    intro k
    rw [Sphere.band, length_flatMap_const (n := 2) fun _ => rfl, List.length_range]
  rw [Sphere.triangles, List.length_append, List.length_append, length_flatMap_const hband, Sphere.northFan,
    Sphere.southFan, List.length_map, List.length_map, List.length_range, List.length_range]
  obtain ⟨n, rfl⟩ := Nat.exists_eq_add_of_le hlat
  have hsub : 2 + n - 1 = n + 1 := by omega
  rw [hsub, Nat.add_sub_cancel_left]
  ring

theorem size_vertices_sphere (radius : Float) (latitude longitude : ℕ) :
    (Mesh.sphere radius latitude longitude).vertices.size =
      (Sphere.bands latitude - 1) * Sphere.segments longitude + 2 := by
  rw [sphere, List.size_toArray, Sphere.length_vertices]

theorem size_triangles_sphere (radius : Float) (latitude longitude : ℕ) :
    (Mesh.sphere radius latitude longitude).triangles.size =
      2 * Sphere.segments longitude * (Sphere.bands latitude - 1) := by
  rw [sphere, List.size_toArray, Sphere.length_triangles (Sphere.two_le_bands latitude)]

theorem watertight_sphere (radius : Float) (latitude longitude : ℕ) :
    (Mesh.sphere radius latitude longitude).Watertight := by
  have hlat := Sphere.two_le_bands latitude
  refine Rings.watertight_of_pieces (Sphere.three_le_segments longitude) (Sphere.nodup_pieces _ _) Sphere.mem_pieces
    (fun _ _ => Sphere.number_injective hlat) (fun a ha => ?_) (Sphere.triangles_eq _ _)
  rw [size_vertices_sphere]
  exact Nat.lt_succ_of_le (Sphere.number_le hlat ha)

theorem watertight_box (width depth height : Float) : (Mesh.box width depth height).Watertight := by
  have hrange : Box.triangles.all (fun t => t.indices.all (· < 8)) = true := by decide
  have hloopless : (Box.triangles.flatMap (·.edges)).all (fun e => e.1 ≠ e.2) = true := by decide
  have hreverse : (Box.triangles.flatMap (·.edges)).all
      (fun e => (Box.triangles.flatMap (·.edges)).contains e.swap) = true := by decide
  simp only [List.all_eq_true, decide_eq_true_eq, List.contains_iff_mem] at hrange hloopless hreverse
  exact ⟨hrange, hloopless, by show (Box.triangles.flatMap (·.edges)).Nodup; decide, hreverse⟩

end Mesh

variable {r : Resolution}

theorem Solid.watertight_mesh (s : Solid) (r : Resolution) : (s.mesh r).Watertight := by
  cases s with
  | box width depth height => exact Mesh.watertight_box width depth height
  | cylinder radius height => exact Mesh.watertight_cylinder radius height r.cylinder
  | sphere radius => exact Mesh.watertight_sphere radius r.latitude r.longitude

def Solid.vertexCount (r : Resolution) : Solid → ℕ
  | box .. => 8
  | cylinder .. => 2 * r.cylinder + 2
  | sphere .. => (r.latitude - 1) * r.longitude + 2

def Solid.triangleCount (r : Resolution) : Solid → ℕ
  | box .. => 12
  | cylinder .. => 4 * r.cylinder
  | sphere .. => 2 * r.longitude * (r.latitude - 1)

namespace Resolution.Valid

/-- The bounds that the meshes put on their counts leave an admitted resolution alone. -/
theorem segments_eq (h : r.Valid) :
    Mesh.Cylinder.segments r.cylinder = r.cylinder ∧ Mesh.Sphere.bands r.latitude = r.latitude ∧
      Mesh.Sphere.segments r.longitude = r.longitude := by
  have hc := h.four_le_cylinder
  have hlat := h.two_le_latitude
  have hlon := h.four_le_longitude
  have hgreatest : SegmentCount.greatest = 512 := rfl
  have hc' := h.cylinder.le_greatest
  have hlat' := h.latitude.le_greatest
  have hlon' := h.longitude.le_greatest
  unfold Mesh.Cylinder.segments Mesh.Sphere.bands Mesh.Sphere.segments
  omega

theorem size_vertices (h : r.Valid) (s : Solid) : (s.mesh r).vertices.size = s.vertexCount r := by
  obtain ⟨hc, hlat, hlon⟩ := h.segments_eq
  cases s with
  | box width depth height => rfl
  | cylinder radius height => rw [Solid.mesh, Mesh.size_vertices_cylinder, hc, Solid.vertexCount]
  | sphere radius => rw [Solid.mesh, Mesh.size_vertices_sphere, hlat, hlon, Solid.vertexCount]

theorem size_triangles (h : r.Valid) (s : Solid) : (s.mesh r).triangles.size = s.triangleCount r := by
  obtain ⟨hc, hlat, hlon⟩ := h.segments_eq
  cases s with
  | box width depth height => rfl
  | cylinder radius height => rw [Solid.mesh, Mesh.size_triangles_cylinder, hc, Solid.triangleCount]
  | sphere radius => rw [Solid.mesh, Mesh.size_triangles_sphere, hlat, hlon, Solid.triangleCount]

end Resolution.Valid

end PromptCad
