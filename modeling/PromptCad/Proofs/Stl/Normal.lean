import Mathlib.Algebra.Order.Archimedean.Basic
import PromptCad.Proofs.Float.Comparison
import PromptCad.Stl.Normal

/-! The normal of a facet. As the edges are scaled to components of at most one, nothing on the way to it is infinite or
not a number, whatever finite corners the facet has. -/

namespace PromptCad

open Decimal

/-- A finite float of which a power of two is no less. -/
structure Small (k : ℤ) (x : Float) : Prop where
  finite : x.isFinite = true
  le : |exactValue x| ≤ 2 ^ k

variable {x y : Float} {v w : ℚ} {k l : ℤ}

theorem small_of_nearest (h : Nearest x v) (hlow : -1074 ≤ k) (hhigh : k ≤ 1023) (hv : |v| ≤ 2 ^ k) : Small k x :=
  ⟨h.isFinite (hv.trans (zpow_le_zpow_right₀ (by norm_num) hhigh)),
    h.abs_exactValue_le (representable_zpow hlow (by omega)) hv⟩

namespace Small

theorem mono (h : Small k x) (hkl : k ≤ l) : Small l x :=
  ⟨h.finite, h.le.trans (zpow_le_zpow_right₀ (by norm_num) hkl)⟩

theorem mul (hx : Small k x) (hy : Small l y) (hlow : -1074 ≤ k + l) (hhigh : k + l ≤ 1023) : Small (k + l) (x * y) := by
  refine small_of_nearest (nearest_mul hx.finite hy.finite) hlow hhigh ?_
  rw [abs_mul, zpow_add₀ (by norm_num)]
  exact mul_le_mul hx.le hy.le (abs_nonneg _) (by positivity)

theorem two_mul_zpow (k : ℤ) : (2 : ℚ) ^ k + 2 ^ k = 2 ^ (k + 1) := by
  rw [zpow_add_one₀ (by norm_num)]
  ring

theorem add (hx : Small k x) (hy : Small k y) (hlow : -1075 ≤ k) (hhigh : k ≤ 1022) : Small (k + 1) (x + y) := by
  refine small_of_nearest (nearest_add hx.finite hy.finite) (by omega) (by omega) ?_
  rw [← two_mul_zpow]
  exact (abs_add_le _ _).trans (add_le_add hx.le hy.le)

theorem sub (hx : Small k x) (hy : Small k y) (hlow : -1075 ≤ k) (hhigh : k ≤ 1022) : Small (k + 1) (x - y) := by
  refine small_of_nearest (nearest_sub hx.finite hy.finite) (by omega) (by omega) ?_
  rw [← two_mul_zpow]
  exact (abs_sub _ _).trans (add_le_add hx.le hy.le)

end Small

theorem Vec3.forall_mem_toList {α : Type} {P : α → Prop} {a b c : α} :
    (∀ x ∈ Vec3.toList ⟨a, b, c⟩, P x) ↔ P a ∧ P b ∧ P c := by
  simp only [Vec3.toList, List.forall_mem_cons, List.not_mem_nil, false_imp_iff, implies_true, and_true]

namespace Point

def IsSmall (k : ℤ) (p : Point) : Prop := ∀ x ∈ p.toList, Small k x

variable {p : Point}

theorem isSmall_mk {a b c : Float} : IsSmall k ⟨a, b, c⟩ ↔ Small k a ∧ Small k b ∧ Small k c :=
  Vec3.forall_mem_toList

theorem IsSmall.squares {a b c : Float} (hp : IsSmall k ⟨a, b, c⟩) (hlow : -537 ≤ k) (hhigh : k ≤ 510) :
    Small (k + k) (a * a) ∧ Small (k + k) (b * b) ∧ Small (k + k) (c * c) ∧ Small (k + k + 1) (a * a + b * b) ∧
      Small (k + k + 1 + 1) (a * a + b * b + c * c) := by
  obtain ⟨ha, hb, hc⟩ := isSmall_mk.mp hp
  have haa := ha.mul ha (by omega) (by omega)
  have hbb := hb.mul hb (by omega) (by omega)
  have hcc := hc.mul hc (by omega) (by omega)
  have hsum := haa.add hbb (by omega) (by omega)
  exact ⟨haa, hbb, hcc, hsum, hsum.add (hcc.mono (by omega)) (by omega) (by omega)⟩

theorem IsSmall.dot (hp : p.IsSmall k) (hlow : -537 ≤ k) (hhigh : k ≤ 510) :
    Small (2 * (k + 1)) (p.dot p) ∧ ∀ x ∈ p.toList, exactValue (x * x) ≤ exactValue (p.dot p) := by
  obtain ⟨x, y, z⟩ := p
  obtain ⟨hx, hy, hz⟩ := isSmall_mk.mp hp
  obtain ⟨hxx, hyy, hzz, hsum, hdot⟩ := hp.squares hlow hhigh
  have hxsum := le_add_left_exactValue hxx.finite hyy.finite (exactValue_mul_self_nonneg hy.finite)
  have hysum := le_add_right_exactValue hxx.finite hyy.finite (exactValue_mul_self_nonneg hx.finite)
  have hsumdot := le_add_left_exactValue hsum.finite hzz.finite (exactValue_mul_self_nonneg hz.finite)
  have hzdot := le_add_right_exactValue hsum.finite hzz.finite ((exactValue_mul_self_nonneg hx.finite).trans hxsum)
  refine ⟨hdot.mono (by omega), fun c hc => ?_⟩
  simp only [Vec3.toList, List.mem_cons, List.not_mem_nil, or_false] at hc
  obtain rfl | rfl | rfl := hc
  · exact hxsum.trans hsumdot
  · exact hysum.trans hsumdot
  · exact hzdot

theorem IsSmall.dot_nonneg (hp : p.IsSmall k) (hlow : -537 ≤ k) (hhigh : k ≤ 510) : 0 ≤ exactValue (p.dot p) :=
  (exactValue_mul_self_nonneg (hp p.x List.mem_cons_self).finite).trans ((hp.dot hlow hhigh).2 p.x List.mem_cons_self)

theorem IsSmall.length (hp : p.IsSmall k) (hlow : -537 ≤ k) (hhigh : k ≤ 510) :
    Small (k + 1) p.length ∧ 0 ≤ exactValue p.length := by
  obtain ⟨hdot, -⟩ := hp.dot hlow hhigh
  obtain ⟨r, hroot, hnearest⟩ := nearest_sqrt hdot.finite (hp.dot_nonneg hlow hhigh)
  refine ⟨small_of_nearest hnearest (by omega) (by omega) ?_, hnearest.nonneg hroot.nonneg⟩
  rw [abs_of_nonneg hroot.nonneg, hroot.le_zpow]
  exact (le_abs_self _).trans hdot.le

/-- The length is no less than a power of two that a component is no less than, unless its square is too small. -/
theorem IsSmall.zpow_le_length (hp : p.IsSmall k) (hlow : -537 ≤ k) (hhigh : k ≤ 510) (hx : x ∈ p.toList) {j : ℤ}
    (hj : -537 ≤ j) (hle : 2 ^ j ≤ |exactValue x|) : 2 ^ j ≤ exactValue p.length := by
  obtain ⟨hdot, hsquares⟩ := hp.dot hlow hhigh
  obtain ⟨r, hroot, hnearest⟩ := nearest_sqrt hdot.finite (hp.dot_nonneg hlow hhigh)
  have hjk : j ≤ k := (zpow_le_zpow_iff_right₀ one_lt_two).mp (hle.trans (hp x hx).le)
  have hsquare : (2 : ℚ) ^ (2 * j) ≤ exactValue (x * x) := by
    refine (nearest_mul (hp x hx).finite (hp x hx).finite).ge (representable_zpow (by omega) (by omega)) ?_
    rw [← abs_mul_abs_self, two_mul, zpow_add₀ (by norm_num)]
    exact mul_le_mul hle hle (by positivity) (abs_nonneg _)
  exact hnearest.ge (representable_zpow (by omega) (by omega)) ((hroot.zpow_le j).mpr (hsquare.trans (hsquares x hx)))

/-- A length is never less than the root of the least float, unless it is zero. -/
theorem IsSmall.least_le_dot (hp : p.IsSmall k) (hlow : -537 ≤ k) (hhigh : k ≤ 510) (hpos : 0 < exactValue p.length) :
    2 ^ (-1074 : ℤ) ≤ exactValue (p.dot p) := by
  have hnonneg := hp.dot_nonneg hlow hhigh
  obtain ⟨r, hroot, hnearest⟩ := nearest_sqrt (hp.dot hlow hhigh).1.finite hnonneg
  have hne : exactValue (p.dot p) ≠ 0 := by
    intro hzero
    have hsquare := hroot.square
    rw [hzero, sub_zero, zero_div, abs_nonpos_iff, mul_self_eq_zero] at hsquare
    exact absurd (hnearest.nonpos hsquare.le) (not_le.mpr hpos)
  rw [← abs_of_nonneg hnonneg]
  exact least_le_abs hne

/-- A component is at most twice the length, also where the squares are too small for all of their bits. -/
theorem IsSmall.le_length (hp : p.IsSmall k) (hlow : -537 ≤ k) (hhigh : k ≤ 510) (hpos : 0 < exactValue p.length)
    (hx : x ∈ p.toList) : |exactValue x| ≤ 2 * exactValue p.length := by
  by_cases hzero : exactValue x = 0
  · rw [hzero, abs_zero]
    linarith
  obtain ⟨j, hle, hlt⟩ := exists_mem_Ico_zpow (abs_pos.mpr hzero) (one_lt_two : (1 : ℚ) < 2)
  by_cases hj : -537 ≤ j
  · have hlength := hp.zpow_le_length hlow hhigh hx hj hle
    rw [zpow_add_one₀ (by norm_num)] at hlt
    linarith
  · -- below all of the squares, but the length is not
    obtain ⟨r, hroot, hnearest⟩ := nearest_sqrt (hp.dot hlow hhigh).1.finite (hp.dot_nonneg hlow hhigh)
    have hlength : (2 : ℚ) ^ (-537 : ℤ) ≤ exactValue p.length :=
      hnearest.ge (representable_zpow (by norm_num) (by norm_num))
        ((hroot.zpow_le (-537)).mpr (hp.least_le_dot hlow hhigh hpos))
    have hpower : (2 : ℚ) ^ (j + 1) ≤ 2 ^ (-537 : ℤ) := zpow_le_zpow_right₀ (by norm_num) (by omega)
    linarith

theorem IsSmall.cross {q : Point} (hp : p.IsSmall k) (hq : q.IsSmall k) (hlow : -537 ≤ k) (hhigh : k ≤ 510) :
    IsSmall (2 * k + 1) (p.cross q) := by
  obtain ⟨x, y, z⟩ := p
  obtain ⟨x', y', z'⟩ := q
  obtain ⟨hx, hy, hz⟩ := isSmall_mk.mp hp
  obtain ⟨hx', hy', hz'⟩ := isSmall_mk.mp hq
  have hminor : ∀ {a b c d : Float}, Small k a → Small k b → Small k c → Small k d →
      Small (2 * k + 1) (a * b - c * d) := fun ha hb hc hd =>
    ((ha.mul hb (by omega) (by omega)).sub (hc.mul hd (by omega) (by omega)) (by omega) (by omega)).mono (by omega)
  exact isSmall_mk.mpr ⟨hminor hy hz' hy' hz, hminor hz hx' hz' hx, hminor hx hy' hx' hy⟩

theorem isSmall_origin (k : ℤ) : origin.IsSmall k := by
  have hzero : Small k 0 := ⟨by decide, by rw [exactValue_zero, abs_zero]; positivity⟩
  exact isSmall_mk.mpr ⟨hzero, hzero, hzero⟩

theorem IsSmall.divideBy {d : Float} (hd : d.isFinite = true) (hpos : 0 < exactValue d) (hlow : -1074 ≤ k)
    (hhigh : k ≤ 1023) (hp : ∀ x ∈ p.toList, x.isFinite = true ∧ |exactValue x| ≤ 2 ^ k * exactValue d) :
    IsSmall k (p.divideBy d) := by
  have hquotient : ∀ x ∈ p.toList, Small k (x / d) := by
    intro x hx
    obtain ⟨hfinite, hle⟩ := hp x hx
    refine small_of_nearest (nearest_div hfinite hd hpos.ne') hlow hhigh ?_
    rwa [abs_div, abs_of_pos hpos, div_le_iff₀ hpos]
  intro y hy
  have hmap : (p.divideBy d).toList = p.toList.map (· / d) := rfl
  rw [hmap] at hy
  obtain ⟨x, hx, rfl⟩ := List.mem_map.mp hy
  exact hquotient x hx

end Point

theorem small_parallelBound : Small 0 parallelBound ∧ 2 ^ (-40 : ℤ) ≤ exactValue parallelBound := by
  refine ⟨⟨by decide, abs_exactValue_le_of_magnitude (j := 1022) (by decide)⟩, ?_⟩
  rw [exactValue_eq_value (by decide), ← abs_exactValue]
  exact le_abs_exactValue_of_magnitude (j := 982) (by decide)

section Edges

variable {ab ac : Point}

/-- What the length of the cross product has to exceed. -/
theorem small_limit (hab : ab.IsSmall 0) (hac : ac.IsSmall 0) :
    Small 2 (parallelBound * ab.length * ac.length) ∧ 0 ≤ exactValue (parallelBound * ab.length * ac.length) := by
  obtain ⟨hab, hab'⟩ := hab.length (by norm_num) (by norm_num)
  obtain ⟨hac, hac'⟩ := hac.length (by norm_num) (by norm_num)
  obtain ⟨hbound, hbound'⟩ := small_parallelBound
  have hproduct := hbound.mul hab (by norm_num) (by norm_num)
  have hproduct' := (nearest_mul hbound.finite hab.finite).nonneg
    (mul_nonneg ((by positivity : (0 : ℚ) ≤ 2 ^ (-40 : ℤ)).trans hbound') hab')
  exact ⟨hproduct.mul hac (by norm_num) (by norm_num),
    (nearest_mul hproduct.finite hac.finite).nonneg (mul_nonneg hproduct' hac')⟩

theorem unitNormal_cases (hab : ab.IsSmall 0) (hac : ac.IsSmall 0) :
    unitNormal ab ac = .origin ∨
      exactValue (parallelBound * ab.length * ac.length) < exactValue (Point.length (ab.cross ac)) ∧
        unitNormal ab ac = (ab.cross ac).divideBy (Point.length (ab.cross ac)) := by
  obtain ⟨hlength, -⟩ := (hab.cross hac (by norm_num) (by norm_num)).length (by norm_num) (by norm_num)
  unfold unitNormal
  dsimp only
  split
  · exact .inl rfl
  · next hnot =>
    rw [le_iff_exactValue hlength.finite (small_limit hab hac).1.finite, not_le] at hnot
    exact .inr ⟨hnot, rfl⟩

theorem isSmall_unitNormal (hab : ab.IsSmall 0) (hac : ac.IsSmall 0) : (unitNormal ab ac).IsSmall 1 := by
  rcases unitNormal_cases hab hac with hnormal | ⟨hlt, hnormal⟩ <;> rw [hnormal]
  · exact Point.isSmall_origin 1
  · have hcross := hab.cross hac (by norm_num) (by norm_num)
    have hpos := (small_limit hab hac).2.trans_lt hlt
    refine Point.IsSmall.divideBy (hcross.length (by norm_num) (by norm_num)).1.finite hpos (by norm_num) (by norm_num)
      fun x hx => ⟨(hcross x hx).finite, ?_⟩
    rw [zpow_one]
    exact hcross.le_length (by norm_num) (by norm_num) hpos hx

end Edges

def Vec3.extent (v : Vec3 ℚ) : ℚ := max |v.x| (max |v.y| |v.z|)

theorem Vec3.extent_nonneg (v : Vec3 ℚ) : 0 ≤ v.extent := le_max_of_le_left (abs_nonneg _)

namespace Point

def exact (p : Point) : Vec3 ℚ := p.map exactValue

variable {p q : Point}

theorem le_extent (hx : x ∈ p.toList) : |exactValue x| ≤ p.exact.extent := by
  have hall : ∀ x ∈ p.toList, |exactValue x| ≤ p.exact.extent :=
    Vec3.forall_mem_toList.mpr ⟨le_max_left _ _, (le_max_left _ _).trans (le_max_right _ _),
      (le_max_right _ _).trans (le_max_right _ _)⟩
  exact hall x hx

theorem exists_eq_extent (p : Point) : ∃ x ∈ p.toList, |exactValue x| = p.exact.extent := by
  simp only [Vec3.toList, List.exists_mem_cons_iff, List.not_mem_nil, false_and, exists_false, or_false]
  rcases max_choice |exactValue p.x| (max |exactValue p.y| |exactValue p.z|) with h | h
  · exact .inl h.symm
  · rcases max_choice |exactValue p.y| |exactValue p.z| with h' | h'
    · exact .inr (.inl (h.trans h').symm)
    · exact .inr (.inr (h.trans h').symm)

theorem exactValue_largest (hp : ∀ x ∈ p.toList, IsExtent x) (hfinite : p.largest.isFinite = true) :
    (∀ x ∈ p.toList, x.isFinite = true) ∧
      exactValue p.largest = max (exactValue p.x) (max (exactValue p.y) (exactValue p.z)) := by
  obtain ⟨hx, hy, hz⟩ := Vec3.forall_mem_toList.mp hp
  obtain ⟨hyz, hyz'⟩ := greater_extent hy hz
  obtain ⟨hxfinite, hyzfinite, hmax⟩ := (greater_extent hx hyz).2 hfinite
  obtain ⟨hyfinite, hzfinite, hmax'⟩ := hyz' hyzfinite
  exact ⟨Vec3.forall_mem_toList.mpr ⟨hxfinite, hyfinite, hzfinite⟩, hmax.trans (congrArg _ hmax')⟩

/-- The scale of two edges, when it is finite, is the larger of their largest components. -/
theorem exactValue_scale (hp : ∀ x ∈ p.toList, x.isNaN = false) (hq : ∀ x ∈ q.toList, x.isNaN = false)
    (hfinite : (Point.largest (p.abs.zipWith greater q.abs)).isFinite = true) :
    (∀ x ∈ p.toList, x.isFinite = true) ∧ (∀ x ∈ q.toList, x.isFinite = true) ∧
      exactValue (Point.largest (p.abs.zipWith greater q.abs)) = max p.exact.extent q.exact.extent := by
  have hextent : ∀ {a b : Float}, a.isNaN = false → b.isNaN = false → IsExtent (greater a.abs b.abs) :=
    fun ha hb => (greater_extent (isExtent_abs ha).1 (isExtent_abs hb).1).1
  have hpair : ∀ {a b : Float}, a.isNaN = false → b.isNaN = false → (greater a.abs b.abs).isFinite = true →
      a.isFinite = true ∧ b.isFinite = true ∧ exactValue (greater a.abs b.abs) = max |exactValue a| |exactValue b| := by
    intro a b ha hb hfinite
    obtain ⟨ha, ha'⟩ := isExtent_abs ha
    obtain ⟨hb, hb'⟩ := isExtent_abs hb
    obtain ⟨hafinite, hbfinite, hmax⟩ := (greater_extent ha hb).2 hfinite
    rw [← (exactValue_abs (ha' hafinite)).2, ← (exactValue_abs (hb' hbfinite)).2]
    exact ⟨ha' hafinite, hb' hbfinite, hmax⟩
  obtain ⟨hx, hy, hz⟩ := Vec3.forall_mem_toList.mp hp
  obtain ⟨hx', hy', hz'⟩ := Vec3.forall_mem_toList.mp hq
  obtain ⟨hlargest, hmax⟩ := exactValue_largest (p := p.abs.zipWith greater q.abs)
    (Vec3.forall_mem_toList.mpr ⟨hextent hx hx', hextent hy hy', hextent hz hz'⟩) hfinite
  obtain ⟨hxs, hys, hzs⟩ := Vec3.forall_mem_toList.mp hlargest
  obtain ⟨hx, hx', hxmax⟩ := hpair hx hx' hxs
  obtain ⟨hy, hy', hymax⟩ := hpair hy hy' hys
  obtain ⟨hz, hz', hzmax⟩ := hpair hz hz' hzs
  refine ⟨Vec3.forall_mem_toList.mpr ⟨hx, hy, hz⟩, Vec3.forall_mem_toList.mpr ⟨hx', hy', hz'⟩, ?_⟩
  calc exactValue (Point.largest (p.abs.zipWith greater q.abs))
      = max (max |exactValue p.x| |exactValue q.x|)
          (max (max |exactValue p.y| |exactValue q.y|) (max |exactValue p.z| |exactValue q.z|)) := by
        rw [← hxmax, ← hymax, ← hzmax]
        exact hmax
    _ = max p.exact.extent q.exact.extent := by
        rw [max_max_max_comm |exactValue p.y|, max_max_max_comm |exactValue p.x|]
        rfl

theorem isNaN_sub (hp : ∀ x ∈ p.toList, x.isFinite = true) (hq : ∀ x ∈ q.toList, x.isFinite = true) :
    ∀ x ∈ Vec3.toList (p - q), x.isNaN = false := by
  obtain ⟨hx, hy, hz⟩ := Vec3.forall_mem_toList.mp hp
  obtain ⟨hx', hy', hz'⟩ := Vec3.forall_mem_toList.mp hq
  exact Vec3.forall_mem_toList.mpr ⟨(nearest_sub hx hx').isNaN_eq_false, (nearest_sub hy hy').isNaN_eq_false,
    (nearest_sub hz hz').isNaN_eq_false⟩

end Point

namespace Facet

/-- The number by which the edges of a facet are divided before its normal is taken. -/
structure Scaled (f : Facet) (scale : Float) : Prop where
  finite : scale.isFinite = true
  pos : 0 < exactValue scale
  eq : exactValue scale = max (Point.exact (f.b - f.a)).extent (Point.exact (f.c - f.a)).extent
  finite_ab : ∀ x ∈ Vec3.toList (f.b - f.a), x.isFinite = true
  finite_ac : ∀ x ∈ Vec3.toList (f.c - f.a), x.isFinite = true
  normal : f.normal = unitNormal ((f.b - f.a).divideBy scale) ((f.c - f.a).divideBy scale)

variable {f : Facet}

theorem forall_mem_corners {P : Point → Prop} : (∀ p ∈ f.corners, P p) ↔ P f.a ∧ P f.b ∧ P f.c := by
  simp only [corners, List.forall_mem_cons, List.not_mem_nil, false_imp_iff, implies_true, and_true]

theorem normal_cases (hf : ∀ p ∈ f.corners, ∀ x ∈ p.toList, x.isFinite = true) :
    f.normal = .origin ∨ ∃ scale, f.Scaled scale := by
  obtain ⟨ha, hb, hc⟩ := forall_mem_corners.mp hf
  have hab := Point.isNaN_sub hb ha
  have hac := Point.isNaN_sub hc ha
  by_cases hnot : (!(Point.largest ((f.b - f.a).abs.zipWith greater (f.c - f.a).abs)).isFinite ||
      Point.largest ((f.b - f.a).abs.zipWith greater (f.c - f.a).abs) == 0) = true
  · exact .inl (if_pos hnot)
  · obtain ⟨hfinite, hne⟩ := not_or.mp (mt (Bool.or_eq_true _ _).mpr hnot)
    rw [Bool.not_eq_true', Bool.not_eq_false] at hfinite
    obtain ⟨hfiniteab, hfiniteac, hscale⟩ := Point.exactValue_scale hab hac hfinite
    refine .inr ⟨_, hfinite, ?_, hscale, hfiniteab, hfiniteac, if_neg hnot⟩
    have hnonneg : 0 ≤ exactValue (Point.largest ((f.b - f.a).abs.zipWith greater (f.c - f.a).abs)) := by
      rw [hscale]
      exact le_max_of_le_left (Vec3.extent_nonneg _)
    refine hnonneg.lt_of_ne' fun heq => hne ?_
    exact (beq_iff_exactValue hfinite (by decide)).mpr (heq.trans exactValue_zero.symm)

theorem Scaled.isSmall {scale : Float} (h : f.Scaled scale) :
    Point.IsSmall 0 ((f.b - f.a).divideBy scale) ∧ Point.IsSmall 0 ((f.c - f.a).divideBy scale) := by
  have hdivide : ∀ p : Point, (∀ x ∈ p.toList, x.isFinite = true) → p.exact.extent ≤ exactValue scale →
      Point.IsSmall 0 (p.divideBy scale) := fun p hfinite hle =>
    Point.IsSmall.divideBy h.finite h.pos (by norm_num) (by norm_num) fun x hx => by
      rw [zpow_zero, one_mul]
      exact ⟨hfinite x hx, (Point.le_extent hx).trans hle⟩
  exact ⟨hdivide _ h.finite_ab (h.eq ▸ le_max_left _ _), hdivide _ h.finite_ac (h.eq ▸ le_max_right _ _)⟩

/-- A facet with finite corners has a normal with components of at most two. -/
theorem isSmall_normal (hf : ∀ p ∈ f.corners, ∀ x ∈ p.toList, x.isFinite = true) : f.normal.IsSmall 1 := by
  rcases normal_cases hf with hnormal | ⟨scale, hscale⟩
  · exact hnormal ▸ Point.isSmall_origin 1
  · obtain ⟨hab, hac⟩ := hscale.isSmall
    exact hscale.normal ▸ isSmall_unitNormal hab hac

end Facet

end PromptCad
