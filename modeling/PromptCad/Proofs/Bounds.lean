import PromptCad.Mesh
import PromptCad.Proofs.Float.Rank

/-! The box around points, axis by axis: it ends at the least and at the greatest of their coordinates, which are told
apart as numbers only. -/

namespace PromptCad

open Decimal

inductive Axis where
  | x
  | y
  | z

def Vec3.along {α : Type} (v : Vec3 α) : Axis → α
  | .x => v.x
  | .y => v.y
  | .z => v.z

def Point.IsNumber (p : Point) : Prop := ∀ a : Axis, (p.along a).isNaN = false

namespace Vec3

variable (v w : Point) (a : Axis)

@[simp] theorem along_zipWith (f : Float → Float → Float) : (v.zipWith f w).along a = f (v.along a) (w.along a) := by
  cases a <;> rfl

@[simp] theorem along_add : (v + w).along a = v.along a + w.along a := along_zipWith v w a _

@[simp] theorem along_sub : (v - w).along a = v.along a - w.along a := along_zipWith v w a _

@[simp] theorem along_mul : (v * w).along a = v.along a * w.along a := along_zipWith v w a _

theorem beq_along {v w : Point} (h : (v == w) = true) (a : Axis) : (v.along a == w.along a) = true := by
  obtain ⟨x, y, z⟩ := v
  obtain ⟨x', y', z'⟩ := w
  change (x == x' && (y == y' && z == z')) = true at h
  simp only [Bool.and_eq_true] at h
  cases a with
  | x => exact h.1
  | y => exact h.2.1
  | z => exact h.2.2

end Vec3

namespace Bounds

variable {b : Bounds} {ps : List Point}

theorem low_foldl_including (b : Bounds) (ps : List Point) (a : Axis) :
    (ps.foldl including b).low.along a = (ps.map (·.along a)).foldl lesser (b.low.along a) := by
  induction ps generalizing b with
  | nil => rfl
  | cons p ps ih => rw [List.foldl_cons, ih, including, Vec3.along_zipWith, List.map_cons, List.foldl_cons]

theorem high_foldl_including (b : Bounds) (ps : List Point) (a : Axis) :
    (ps.foldl including b).high.along a = (ps.map (·.along a)).foldl greater (b.high.along a) := by
  induction ps generalizing b with
  | nil => rfl
  | cons p ps ih => rw [List.foldl_cons, ih, including, Vec3.along_zipWith, List.map_cons, List.foldl_cons]

theorem low_around? (hps : ∀ p ∈ ps, Point.IsNumber p) (hb : around? ps = some b) (a : Axis) :
    (b.low.along a).isNaN = false ∧ (ps.map fun p => rank (p.along a)).min? = some (rank (b.low.along a)) := by
  cases ps with
  | nil => cases hb
  | cons p ps =>
    obtain ⟨hp, hps⟩ := List.forall_mem_cons.mp hps
    obtain rfl : ps.foldl including (point p) = b := Option.some_inj.mp hb
    have hpoint : ((point p).low.along a).isNaN = false := hp a
    have hfold := foldl_rank lesser_rank hpoint (List.forall_mem_map.mpr fun q hq => hps q hq a)
    rw [List.map_map] at hfold
    rw [low_foldl_including, hfold.2, List.map_cons, List.min?_cons']
    exact ⟨hfold.1, rfl⟩

theorem high_around? (hps : ∀ p ∈ ps, Point.IsNumber p) (hb : around? ps = some b) (a : Axis) :
    (b.high.along a).isNaN = false ∧ (ps.map fun p => rank (p.along a)).max? = some (rank (b.high.along a)) := by
  cases ps with
  | nil => cases hb
  | cons p ps =>
    obtain ⟨hp, hps⟩ := List.forall_mem_cons.mp hps
    obtain rfl : ps.foldl including (point p) = b := Option.some_inj.mp hb
    have hpoint : ((point p).high.along a).isNaN = false := hp a
    have hfold := foldl_rank greater_rank hpoint (List.forall_mem_map.mpr fun q hq => hps q hq a)
    rw [List.map_map] at hfold
    rw [high_foldl_including, hfold.2, List.map_cons, List.max?_cons']
    exact ⟨hfold.1, rfl⟩

theorem low_beq (hps : ∀ p ∈ ps, Point.IsNumber p) (hb : around? ps = some b) {a : Axis} {x : Float}
    (hx : x.isNaN = false) (hleast : ∀ p ∈ ps, rank x ≤ rank (p.along a)) (hmem : ∃ p ∈ ps, rank (p.along a) = rank x) :
    (b.low.along a == x) = true := by
  obtain ⟨hlow, hmin⟩ := low_around? hps hb a
  have hmin' : (ps.map fun p => rank (p.along a)).min? = some (rank x) :=
    List.min?_eq_some_iff.mpr ⟨List.mem_map.mpr hmem, List.forall_mem_map.mpr hleast⟩
  exact (beq_iff_rank hlow hx).mpr (Option.some_inj.mp (hmin.symm.trans hmin'))

theorem high_beq (hps : ∀ p ∈ ps, Point.IsNumber p) (hb : around? ps = some b) {a : Axis} {x : Float}
    (hx : x.isNaN = false) (hgreatest : ∀ p ∈ ps, rank (p.along a) ≤ rank x)
    (hmem : ∃ p ∈ ps, rank (p.along a) = rank x) : (b.high.along a == x) = true := by
  obtain ⟨hhigh, hmax⟩ := high_around? hps hb a
  have hmax' : (ps.map fun p => rank (p.along a)).max? = some (rank x) :=
    List.max?_eq_some_iff.mpr ⟨List.mem_map.mpr hmem, List.forall_mem_map.mpr hgreatest⟩
  exact (beq_iff_rank hhigh hx).mpr (Option.some_inj.mp (hmax.symm.trans hmax'))

/-- Equal as numbers at both ends of every axis. -/
def Same (b c : Bounds) : Prop :=
  ∀ a : Axis, (b.low.along a == c.low.along a) = true ∧ (b.high.along a == c.high.along a) = true

theorem between_around? (hps : ∀ p ∈ ps, Point.IsNumber p) (hb : around? ps = some b) {p : Point} (hp : p ∈ ps)
    (a : Axis) : b.low.along a ≤ p.along a ∧ p.along a ≤ b.high.along a := by
  obtain ⟨hlow, hmin⟩ := low_around? hps hb a
  obtain ⟨hhigh, hmax⟩ := high_around? hps hb a
  have hmem : rank (p.along a) ∈ ps.map fun p => rank (p.along a) := List.mem_map_of_mem hp
  rw [le_iff_rank hlow (hps p hp a), le_iff_rank (hps p hp a) hhigh]
  exact ⟨(List.min?_eq_some_iff.mp hmin).2 _ hmem, (List.max?_eq_some_iff.mp hmax).2 _ hmem⟩

theorem attained_around? (hps : ∀ p ∈ ps, Point.IsNumber p) (hb : around? ps = some b) (a : Axis) :
    (∃ p ∈ ps, (p.along a == b.low.along a) = true) ∧ ∃ p ∈ ps, (p.along a == b.high.along a) = true := by
  obtain ⟨hlow, hmin⟩ := low_around? hps hb a
  obtain ⟨hhigh, hmax⟩ := high_around? hps hb a
  obtain ⟨p, hp, hleast⟩ := List.mem_map.mp (List.min?_eq_some_iff.mp hmin).1
  obtain ⟨q, hq, hgreatest⟩ := List.mem_map.mp (List.max?_eq_some_iff.mp hmax).1
  exact ⟨⟨p, hp, (beq_iff_rank (hps p hp a) hlow).mpr hleast⟩, q, hq, (beq_iff_rank (hps q hq a) hhigh).mpr hgreatest⟩

/-- Neither the order of the points matters nor how often each of them occurs. -/
theorem around?_congr {qs : List Point} (hps : ∀ p ∈ ps, Point.IsNumber p) (h : ∀ p, p ∈ ps ↔ p ∈ qs) :
    Option.Rel Same (around? ps) (around? qs) := by
  have hqs : ∀ q ∈ qs, Point.IsNumber q := fun q hq => hps q ((h q).mpr hq)
  cases hb : around? ps with
  | none =>
    obtain rfl := around?_eq_none.mp hb
    have hnil : qs = [] := List.eq_nil_iff_forall_not_mem.mpr fun q hq => List.not_mem_nil ((h q).mpr hq)
    rw [around?_eq_none.mpr hnil]
    exact .none
  | some b => cases hc : around? qs with
    | none =>
      obtain rfl := around?_eq_none.mp hc
      have hnil : ps = [] := List.eq_nil_iff_forall_not_mem.mpr fun p hp => List.not_mem_nil ((h p).mp hp)
      rw [around?_eq_none.mpr hnil] at hb
      cases hb
    | some c =>
      refine .some fun a => ?_
      obtain ⟨hlow, hmin⟩ := low_around? hqs hc a
      obtain ⟨hhigh, hmax⟩ := high_around? hqs hc a
      obtain ⟨hlowMem, hleast⟩ := List.min?_eq_some_iff.mp hmin
      obtain ⟨hhighMem, hgreatest⟩ := List.max?_eq_some_iff.mp hmax
      obtain ⟨l, hl, hlrank⟩ := List.mem_map.mp hlowMem
      obtain ⟨g, hg, hgrank⟩ := List.mem_map.mp hhighMem
      have hall : ∀ {p}, p ∈ ps → rank (p.along a) ∈ qs.map fun q => rank (q.along a) := fun {p} hp =>
        List.mem_map_of_mem ((h p).mp hp)
      exact ⟨low_beq hps hb hlow (fun p hp => hleast _ (hall hp)) ⟨l, (h l).mpr hl, hlrank⟩,
        high_beq hps hb hhigh (fun p hp => hgreatest _ (hall hp)) ⟨g, (h g).mpr hg, hgrank⟩⟩

end Bounds

end PromptCad
