import PromptCad.Proofs.Float.Neighbours
import PromptCad.Proofs.Stl.Normal

/-! How long normals are. The components of a normal are those of a cross product, divided by its length, and the length
is the root of a sum of squares. When an edge of the facet is so much shorter than the other that these squares lose
bits, what they are divided by is no longer their length. Otherwise the normal has length one up to rounding. -/

namespace PromptCad

open Decimal

/-- A square changes by a small part when what is squared is rounded, and by a few of the least floats. -/
theorem abs_mul_self_sub_le {v w l : ℚ} (hle : |w| ≤ 2) (hl : 0 ≤ l) (hl' : l ≤ 1)
    (h : |v - w| ≤ |w| / 2 ^ 53 + l / 2) : |v * v - w * w| ≤ w * w / 2 ^ 51 + 3 * l := by
  have hsquare : v * v - w * w = (v - w) * (v - w + 2 * w) := by ring
  have hsum : |v - w + 2 * w| ≤ |w| / 2 ^ 53 + l / 2 + 2 * |w| := by
    refine (abs_add_le _ _).trans (add_le_add h ?_)
    rw [abs_mul, abs_two]
  have hproduct : |w| * l ≤ 2 * l := mul_le_mul_of_nonneg_right hle hl
  have hleast : l * l ≤ l := mul_le_of_le_one_left hl hl'
  calc |v * v - w * w|
      ≤ (|w| / 2 ^ 53 + l / 2) * (|w| / 2 ^ 53 + l / 2 + 2 * |w|) := by
        rw [hsquare, abs_mul]
        exact mul_le_mul h hsum (abs_nonneg _) (by positivity)
    _ = (w * w) * (1 / 2 ^ 106 + 1 / 2 ^ 52) + |w| * l * (1 + 1 / 2 ^ 53) + l * l / 4 := by
        rw [← abs_mul_abs_self w]
        ring
    _ ≤ w * w / 2 ^ 51 + 3 * l := by
        have hnonneg := mul_self_nonneg w
        linarith

theorem abs_div_sub_one_le {s d q l : ℚ} (hq : 0 < q) (hl : 0 ≤ l) (hsum : |d - s| ≤ s / 2 ^ 51 + 3 * l)
    (hroot : |q - d| ≤ d / 2 ^ 49) : |s / q - 1| ≤ s / q / 2 ^ 48 + 4 * (l / q) := by
  obtain ⟨hlow, hhigh⟩ := abs_le.mp hsum
  obtain ⟨hlow', hhigh'⟩ := abs_le.mp hroot
  have hdiff : |s - q| ≤ s / 2 ^ 48 + 4 * l := by
    rw [abs_le]
    constructor <;> linarith
  rw [div_sub_one hq.ne', abs_div, abs_of_pos hq, div_right_comm, ← mul_div_assoc, ← add_div]
  exact div_le_div_of_nonneg_right hdiff hq.le

namespace Point

variable {p : Point} {x : Float} {k : ℤ}

theorem dot_exact_nonneg (p : Point) : 0 ≤ p.exact.dot p.exact :=
  add_nonneg (add_nonneg (mul_self_nonneg _) (mul_self_nonneg _)) (mul_self_nonneg _)

theorem IsSmall.dot_exact_le (hp : p.IsSmall 1) : p.exact.dot p.exact ≤ 12 := by
  have hsquare : ∀ {x : Float}, Small 1 x → exactValue x * exactValue x ≤ 4 := fun hx => by
    have hle := hx.le
    rw [zpow_one] at hle
    rw [← abs_mul_abs_self]
    exact (mul_le_mul hle hle (abs_nonneg _) (by norm_num)).trans_eq (by norm_num)
  obtain ⟨x, y, z⟩ := p
  obtain ⟨hx, hy, hz⟩ := isSmall_mk.mp hp
  exact (add_le_add (add_le_add (hsquare hx) (hsquare hy)) (hsquare hz)).trans_eq (by norm_num)

theorem IsSmall.abs_dot_sub_le (hp : p.IsSmall k) (hlow : -537 ≤ k) (hhigh : k ≤ 510) :
    |exactValue (p.dot p) - p.exact.dot p.exact| ≤ p.exact.dot p.exact / 2 ^ 51 + 3 * 2 ^ (-1074 : ℤ) := by
  obtain ⟨x, y, z⟩ := p
  obtain ⟨hx, hy, hz⟩ := isSmall_mk.mp hp
  obtain ⟨hxx, hyy, hzz, hsum, hdot⟩ := hp.squares hlow hhigh
  have hsquare : ∀ {x : Float}, x.isFinite = true → (x * x).isFinite = true → 0 ≤ exactValue (x * x) ∧
      |exactValue (x * x) - exactValue x * exactValue x| ≤
        exactValue x * exactValue x / 2 ^ 53 + 2 ^ (-1074 : ℤ) / 2 := fun hx hxx => by
    refine ⟨exactValue_mul_self_nonneg hx, ?_⟩
    have herror := (nearest_mul hx hx).error_le hxx
    rwa [abs_mul_self] at herror
  obtain ⟨hxnonneg, hxerror⟩ := hsquare hx.finite hxx.finite
  obtain ⟨hynonneg, hyerror⟩ := hsquare hy.finite hyy.finite
  obtain ⟨hznonneg, hzerror⟩ := hsquare hz.finite hzz.finite
  have hsumerror := (nearest_add hxx.finite hyy.finite).error_le hsum.finite
  have hsumnonneg := (nearest_add hxx.finite hyy.finite).nonneg (add_nonneg hxnonneg hynonneg)
  have hdoterror := (nearest_add hsum.finite hzz.finite).error_le hdot.finite
  rw [abs_of_nonneg (add_nonneg hxnonneg hynonneg)] at hsumerror
  rw [abs_of_nonneg (add_nonneg hsumnonneg hznonneg)] at hdoterror
  show |exactValue (x * x + y * y + z * z) -
      (exactValue x * exactValue x + exactValue y * exactValue y + exactValue z * exactValue z)| ≤
    (exactValue x * exactValue x + exactValue y * exactValue y + exactValue z * exactValue z) / 2 ^ 51 +
      3 * 2 ^ (-1074 : ℤ)
  have hx2 := mul_self_nonneg (exactValue x)
  have hy2 := mul_self_nonneg (exactValue y)
  have hz2 := mul_self_nonneg (exactValue z)
  have hleast : (0 : ℚ) < 2 ^ (-1074 : ℤ) := by positivity
  rw [abs_le] at hxerror hyerror hzerror hsumerror hdoterror ⊢
  constructor <;> linarith

/-- The square of a length is the sum of the squares up to rounding. -/
theorem IsSmall.abs_length_sub_le (hp : p.IsSmall k) (hlow : -537 ≤ k) (hhigh : k ≤ 510)
    (hpos : 0 < exactValue p.length) :
    |exactValue p.length * exactValue p.length - exactValue (p.dot p)| ≤ exactValue (p.dot p) / 2 ^ 49 := by
  obtain ⟨r, hroot, hnearest⟩ := nearest_sqrt (hp.dot hlow hhigh).1.finite (hp.dot_nonneg hlow hhigh)
  have hleast : (2 : ℚ) ^ (-1022 : ℤ) ≤ r := by
    refine le_trans (zpow_le_zpow_right₀ (by norm_num) (by norm_num)) ((hroot.zpow_le (-537)).mpr ?_)
    exact hp.least_le_dot hlow hhigh hpos
  have hmost := hnearest.abs_lt (hp.length hlow hhigh).1.finite
  rw [abs_of_nonneg hroot.nonneg] at hmost
  have hclose : Close r (exactValue p.length) := hnearest.relative hleast hmost.le
  obtain ⟨hbelow, habove⟩ := abs_le.mp hclose
  have hhighSquare : exactValue p.length * exactValue p.length ≤ r * r * (1 + 1 / 2 ^ 53) ^ 2 := by
    refine (mul_self_le_mul_self hpos.le (sub_le_iff_le_add'.mp habove)).trans_eq ?_
    ring
  have hlowSquare : r * r * (1 - 1 / 2 ^ 53) ^ 2 ≤ exactValue p.length * exactValue p.length := by
    have hpart : r / 2 ^ 53 ≤ r := div_le_self hroot.nonneg (by norm_num)
    have hbelow' : r - r / 2 ^ 53 ≤ exactValue p.length := by linarith
    refine le_of_eq_of_le ?_ (mul_self_le_mul_self (sub_nonneg.mpr hpart) hbelow')
    ring
  obtain ⟨hlow, hhigh⟩ := abs_le.mp hroot.square
  rw [abs_le]
  constructor <;> linarith

theorem least_le_part : (2 : ℚ) ^ (-1074 : ℤ) ≤ 1 / 2 ^ 60 :=
  (zpow_le_zpow_right₀ (by norm_num) (by norm_num : (-1074 : ℤ) ≤ -60)).trans_eq (by norm_num)

theorem IsSmall.abs_quotient_sub_le (hp : p.IsSmall 1) (hpos : 0 < exactValue p.length) (hx : x ∈ p.toList) :
    |exactValue (x / p.length) * exactValue (x / p.length) -
        exactValue x * exactValue x / (exactValue p.length * exactValue p.length)| ≤
      exactValue x * exactValue x / (exactValue p.length * exactValue p.length) / 2 ^ 51 + 3 * 2 ^ (-1074 : ℤ) := by
  have hlength := (hp.length (by norm_num) (by norm_num)).1.finite
  have hnearest := nearest_div (hp x hx).finite hlength hpos.ne'
  have hle : |exactValue x / exactValue p.length| ≤ 2 := by
    rw [abs_div, abs_of_pos hpos, div_le_iff₀ hpos]
    exact hp.le_length (by norm_num) (by norm_num) hpos hx
  have hsmall := small_of_nearest (k := 1) hnearest (by norm_num) (by norm_num) (by rwa [zpow_one])
  rw [← div_mul_div_comm]
  exact abs_mul_self_sub_le hle (by positivity) (least_le_part.trans (by norm_num)) (hnearest.error_le hsmall.finite)

/-- What is divided by its length has length one, unless the length is very small. -/
theorem IsSmall.abs_unit_sub_le (hp : p.IsSmall 1) (hpos : 0 < exactValue p.length) {n : Point}
    (hn : n = p.divideBy p.length) :
    |n.exact.dot n.exact - 1| ≤
      1 / 2 ^ 46 + 8 * (2 ^ (-1074 : ℤ) / (exactValue p.length * exactValue p.length)) := by
  obtain ⟨hx, hy, hz⟩ := Vec3.forall_mem_toList.mp fun x hx => hp.abs_quotient_sub_le hpos (x := x) hx
  have hsum : n.exact.dot n.exact = exactValue (p.x / p.length) * exactValue (p.x / p.length) +
      exactValue (p.y / p.length) * exactValue (p.y / p.length) +
      exactValue (p.z / p.length) * exactValue (p.z / p.length) := by
    rw [hn]
    rfl
  have hquotient : p.exact.dot p.exact / (exactValue p.length * exactValue p.length) =
      exactValue p.x * exactValue p.x / (exactValue p.length * exactValue p.length) +
      exactValue p.y * exactValue p.y / (exactValue p.length * exactValue p.length) +
      exactValue p.z * exactValue p.z / (exactValue p.length * exactValue p.length) := by
    rw [← add_div, ← add_div]
    rfl
  have hleast : (0 : ℚ) < 2 ^ (-1074 : ℤ) := by positivity
  have hpart := least_le_part
  have hdivided := abs_div_sub_one_le (mul_pos hpos hpos) hleast.le
    (hp.abs_dot_sub_le (by norm_num) (by norm_num)) (hp.abs_length_sub_le (by norm_num) (by norm_num) hpos)
  have hshare : 0 ≤ 2 ^ (-1074 : ℤ) / (exactValue p.length * exactValue p.length) :=
    div_nonneg hleast.le (mul_pos hpos hpos).le
  rw [hquotient, abs_le] at hdivided
  rw [abs_le] at hx hy hz
  rw [hsum, abs_le]
  constructor <;> linarith

theorem zpow_le_extent_sub {q : Point} (hp : ∀ x ∈ p.toList, x.isFinite = true) (hq : ∀ x ∈ q.toList, x.isFinite = true)
    (hfinite : ∀ x ∈ Vec3.toList (p - q), x.isFinite = true) {i : ℤ} (h : 2 ^ i ≤ (p.exact - q.exact).extent) :
    2 ^ i ≤ (Point.exact (p - q)).extent := by
  have hcomponent : ∀ {x y : Float}, x.isFinite = true → y.isFinite = true → (x - y).isFinite = true →
      2 ^ i ≤ |exactValue x - exactValue y| → 2 ^ i ≤ |exactValue (x - y)| := by
    intro x y hx hy hxy hle
    rcases le_or_gt (-1074) i with hi | hi
    · exact (nearest_sub hx hy).zpow_le hxy hi hle
    · -- floats do not differ by less than the least
      have hne : exactValue x ≠ exactValue y := by
        intro heq
        rw [heq, sub_self, abs_zero] at hle
        exact absurd hle (not_le.mpr (by positivity))
      exact (zpow_le_zpow_right₀ (by norm_num) hi.le).trans
        ((nearest_sub hx hy).zpow_le hxy le_rfl (least_le_abs_sub hne))
  obtain ⟨hx, hy, hz⟩ := Vec3.forall_mem_toList.mp hp
  obtain ⟨hx', hy', hz'⟩ := Vec3.forall_mem_toList.mp hq
  obtain ⟨hxx, hyy, hzz⟩ := Vec3.forall_mem_toList.mp hfinite
  simp only [Vec3.extent, le_max_iff] at h ⊢
  exact h.imp (hcomponent hx hx' hxx) (Or.imp (hcomponent hy hy' hyy) (hcomponent hz hz' hzz))

theorem extent_sub_le_zpow {q : Point} (hp : ∀ x ∈ p.toList, x.isFinite = true) (hq : ∀ x ∈ q.toList, x.isFinite = true)
    (hfinite : ∀ x ∈ Vec3.toList (p - q), x.isFinite = true) {i : ℤ} (hi : -1074 ≤ i)
    (h : (p.exact - q.exact).extent ≤ 2 ^ i) : (Point.exact (p - q)).extent ≤ 2 ^ i := by
  obtain ⟨hx, hy, hz⟩ := Vec3.forall_mem_toList.mp hp
  obtain ⟨hx', hy', hz'⟩ := Vec3.forall_mem_toList.mp hq
  obtain ⟨hxx, hyy, hzz⟩ := Vec3.forall_mem_toList.mp hfinite
  simp only [Vec3.extent, max_le_iff] at h ⊢
  exact ⟨(nearest_sub hx hx').le_zpow hxx hi h.1, (nearest_sub hy hy').le_zpow hyy hi h.2.1,
    (nearest_sub hz hz').le_zpow hzz hi h.2.2⟩

theorem least_le_extent_sub {q : Point} (h : 0 < (p.exact - q.exact).extent) :
    2 ^ (-1074 : ℤ) ≤ (p.exact - q.exact).extent := by
  have hcomponent : ∀ {x y : Float}, 0 < |exactValue x - exactValue y| →
      2 ^ (-1074 : ℤ) ≤ |exactValue x - exactValue y| := fun hpos =>
    least_le_abs_sub (sub_ne_zero.mp (abs_pos.mp hpos))
  simp only [Vec3.extent, lt_max_iff, le_max_iff] at h ⊢
  exact h.imp hcomponent (Or.imp hcomponent hcomponent)

/-- A vector of zeros, whatever their signs. -/
def IsZero (p : Point) : Prop := ∀ x ∈ p.toList, exactValue x = 0

section Zero

variable {q : Point} (hp : ∀ x ∈ p.toList, x.isFinite = true) (hq : ∀ x ∈ q.toList, x.isFinite = true)

include hp hq

theorem isZero_sub (h : (p.exact - q.exact).extent ≤ 0) : IsZero (p - q) := by
  have hcomponent : ∀ {x y : Float}, x.isFinite = true → y.isFinite = true → |exactValue x - exactValue y| ≤ 0 →
      exactValue (x - y) = 0 := fun hx hy hzero => (abs_nonpos_iff.mp hzero ▸ nearest_sub hx hy).eq_zero
  obtain ⟨hx, hy, hz⟩ := Vec3.forall_mem_toList.mp hp
  obtain ⟨hx', hy', hz'⟩ := Vec3.forall_mem_toList.mp hq
  simp only [Vec3.extent, max_le_iff] at h
  exact Vec3.forall_mem_toList.mpr ⟨hcomponent hx hx' h.1, hcomponent hy hy' h.2.1, hcomponent hz hz' h.2.2⟩

theorem isZero_cross (h : p.IsZero ∨ q.IsZero) : IsZero (p.cross q) := by
  have hboth : ∀ x ∈ p.toList, ∀ y ∈ q.toList, exactValue (x * y) = 0 ∧ exactValue (y * x) = 0 := by
    intro x hx y hy
    have hzero : exactValue x * exactValue y = 0 := mul_eq_zero.mpr (h.imp (fun h => h x hx) fun h => h y hy)
    exact ⟨exactValue_mul_eq_zero (hp x hx) (hq y hy) hzero,
      exactValue_mul_eq_zero (hq y hy) (hp x hx) (by rwa [mul_comm])⟩
  obtain ⟨hx, hy, hz⟩ := Vec3.forall_mem_toList.mp hboth
  obtain ⟨-, hxy, hxz⟩ := Vec3.forall_mem_toList.mp hx
  obtain ⟨hyx, -, hyz⟩ := Vec3.forall_mem_toList.mp hy
  obtain ⟨hzx, hzy, -⟩ := Vec3.forall_mem_toList.mp hz
  exact Vec3.forall_mem_toList.mpr ⟨exactValue_sub_eq_zero hyz.1 hzy.2, exactValue_sub_eq_zero hzx.1 hxz.2,
    exactValue_sub_eq_zero hxy.1 hyx.2⟩

end Zero

theorem IsZero.divideBy {d : Float} (hp : ∀ x ∈ p.toList, x.isFinite = true) (hd : d.isFinite = true)
    (hpos : 0 < exactValue d) (h : p.IsZero) : IsZero (p.divideBy d) := by
  have hmap : Vec3.toList (p.divideBy d) = p.toList.map (· / d) := rfl
  unfold IsZero
  rw [hmap]
  refine List.forall_mem_map.mpr fun x hx => ?_
  have hnearest := nearest_div (hp x hx) hd hpos.ne'
  rw [h x hx, zero_div] at hnearest
  exact hnearest.eq_zero

theorem IsZero.length (hp : p.IsSmall k) (hlow : -537 ≤ k) (hhigh : k ≤ 510) (h : p.IsZero) :
    exactValue p.length = 0 := by
  have hdot : exactValue (p.dot p) = 0 := by
    have hsquare : ∀ x ∈ p.toList, exactValue (x * x) = 0 := fun x hx =>
      exactValue_mul_eq_zero (hp x hx).finite (hp x hx).finite (mul_eq_zero_of_left (h x hx) _)
    obtain ⟨hx, hy, hz⟩ := Vec3.forall_mem_toList.mp hsquare
    exact exactValue_add_eq_zero (exactValue_add_eq_zero hx hy) hz
  refine le_antisymm (not_lt.mp fun hpos => ?_) (hp.length hlow hhigh).2
  exact absurd (hp.least_le_dot hlow hhigh hpos) (not_le.mpr (hdot ▸ by positivity))

end Point

theorem zpow_le_limit {ab ac : Point} (hab : ab.IsSmall 0) (hac : ac.IsSmall 0) {i j : ℤ} (hi : -517 ≤ i) (hi' : i ≤ 0)
    (hj : -517 ≤ j) (hj' : j ≤ 0) (hlab : 2 ^ i ≤ exactValue ab.length) (hlac : 2 ^ j ≤ exactValue ac.length) :
    2 ^ (-40 + i + j) ≤ exactValue (parallelBound * ab.length * ac.length) := by
  obtain ⟨hbound, hbound'⟩ := small_parallelBound
  have hab := (hab.length (by norm_num) (by norm_num)).1
  have hac := (hac.length (by norm_num) (by norm_num)).1
  have hproduct := hbound.mul hab (by norm_num) (by norm_num)
  have hfirst : 2 ^ (-40 + i) ≤ exactValue (parallelBound * ab.length) := by
    refine (nearest_mul hbound.finite hab.finite).ge (representable_zpow (by omega) (by omega)) ?_
    rw [zpow_add₀ (by norm_num)]
    exact mul_le_mul hbound' hlab (by positivity) ((by positivity : (0 : ℚ) ≤ 2 ^ (-40 : ℤ)).trans hbound')
  refine (nearest_mul hproduct.finite hac.finite).ge (representable_zpow (by omega) (by omega)) ?_
  rw [zpow_add₀ (by norm_num)]
  exact mul_le_mul hfirst hlac (by positivity) ((by positivity : (0 : ℚ) ≤ 2 ^ (-40 + i)).trans hfirst)

namespace Facet

/-- How long the shorter of the edges at the first corner is in comparison to the longer, both told by their largest
components. -/
def aspect (f : Facet) : ℚ :=
  min (f.b.exact - f.a.exact).extent (f.c.exact - f.a.exact).extent /
    max (f.b.exact - f.a.exact).extent (f.c.exact - f.a.exact).extent

variable {f : Facet} {scale : Float} {k : ℕ}

theorem exists_zpow_extent (hk : 1 / 2 ^ k ≤ f.aspect) :
    ∃ j : ℤ, -1074 ≤ j + 1 ∧
      (2 ^ (j - k) ≤ (f.b.exact - f.a.exact).extent ∧ (f.b.exact - f.a.exact).extent ≤ 2 ^ (j + 1)) ∧
      2 ^ (j - k) ≤ (f.c.exact - f.a.exact).extent ∧ (f.c.exact - f.a.exact).extent ≤ 2 ^ (j + 1) := by
  have hleast : 0 < max (f.b.exact - f.a.exact).extent (f.c.exact - f.a.exact).extent →
      2 ^ (-1074 : ℤ) ≤ max (f.b.exact - f.a.exact).extent (f.c.exact - f.a.exact).extent := fun hpos =>
    le_max_iff.mpr ((lt_max_iff.mp hpos).imp Point.least_le_extent_sub Point.least_le_extent_sub)
  have hpos : 0 < max (f.b.exact - f.a.exact).extent (f.c.exact - f.a.exact).extent := by
    refine (le_max_of_le_left (Vec3.extent_nonneg _)).lt_of_ne' fun hzero => ?_
    rw [aspect, hzero, div_zero] at hk
    exact absurd hk (not_le.mpr (by positivity))
  obtain ⟨j, hlt, hle⟩ := exists_mem_Ioc_zpow hpos (one_lt_two : (1 : ℚ) < 2)
  have hshort : 2 ^ (j - k) ≤ min (f.b.exact - f.a.exact).extent (f.c.exact - f.a.exact).extent := by
    rw [aspect, le_div_iff₀ hpos] at hk
    refine le_trans ?_ hk
    rw [zpow_sub₀ (by norm_num), zpow_natCast, div_eq_mul_one_div, mul_comm]
    exact mul_le_mul_of_nonneg_left hlt.le (by positivity)
  obtain ⟨hab, hac⟩ := le_min_iff.mp hshort
  obtain ⟨hab', hac'⟩ := max_le_iff.mp hle
  exact ⟨j, (zpow_le_zpow_iff_right₀ one_lt_two).mp ((hleast hpos).trans hle), ⟨hab, hab'⟩, hac, hac'⟩

theorem Scaled.mul_scale_le (h : f.Scaled scale) (hf : ∀ p ∈ f.corners, ∀ x ∈ p.toList, x.isFinite = true)
    (hk : 1 / 2 ^ k ≤ f.aspect) :
    2 ^ (-(k : ℤ) - 1) * exactValue scale ≤ (Point.exact (f.b - f.a)).extent ∧
      2 ^ (-(k : ℤ) - 1) * exactValue scale ≤ (Point.exact (f.c - f.a)).extent := by
  obtain ⟨ha, hb, hc⟩ := forall_mem_corners.mp hf
  obtain ⟨j, hj, ⟨hshort, hlong⟩, hshort', hlong'⟩ := exists_zpow_extent hk
  have hscale : exactValue scale ≤ 2 ^ (j + 1) :=
    h.eq ▸ max_le (Point.extent_sub_le_zpow hb ha h.finite_ab hj hlong)
      (Point.extent_sub_le_zpow hc ha h.finite_ac hj hlong')
  have hproduct : 2 ^ (-(k : ℤ) - 1) * exactValue scale ≤ 2 ^ (j - k) := by
    refine (mul_le_mul_of_nonneg_left hscale (by positivity)).trans_eq ?_
    rw [← zpow_add₀ (by norm_num)]
    congr 1
    ring
  exact ⟨hproduct.trans (Point.zpow_le_extent_sub hb ha h.finite_ab hshort),
    hproduct.trans (Point.zpow_le_extent_sub hc ha h.finite_ac hshort')⟩

theorem Scaled.zpow_le_length (h : f.Scaled scale) {p : Point} (hp : Point.IsSmall 0 (p.divideBy scale))
    (hfinite : ∀ x ∈ p.toList, x.isFinite = true) {i : ℤ} (hi : -537 ≤ i)
    (hle : 2 ^ i * exactValue scale ≤ p.exact.extent) : 2 ^ i ≤ exactValue (Point.length (p.divideBy scale)) := by
  obtain ⟨x, hx, hextent⟩ := p.exists_eq_extent
  have hmem : x / scale ∈ Vec3.toList (p.divideBy scale) := List.mem_map_of_mem (f := (· / scale)) hx
  have hquotient : (2 : ℚ) ^ i ≤ |exactValue x / exactValue scale| := by
    rwa [abs_div, abs_of_pos h.pos, le_div_iff₀ h.pos, hextent]
  exact hp.zpow_le_length (by norm_num) (by norm_num) hmem hi
    ((nearest_div (hfinite x hx) h.finite h.pos.ne').zpow_le (hp _ hmem).finite (by omega) hquotient)

/-- What the length of the cross product exceeds is not much less than the shorter of the scaled edges. -/
theorem Scaled.zpow_le_limit (h : f.Scaled scale) (hf : ∀ p ∈ f.corners, ∀ x ∈ p.toList, x.isFinite = true)
    (hk : 1 / 2 ^ k ≤ f.aspect) (hmost : k ≤ 496) :
    2 ^ (-(k : ℤ) - 41) ≤ exactValue (parallelBound * Point.length ((f.b - f.a).divideBy scale) *
      Point.length ((f.c - f.a).divideBy scale)) := by
  obtain ⟨hab, hac⟩ := h.isSmall
  obtain ⟨hshort, hshort'⟩ := h.mul_scale_le hf hk
  have hlab := fun i hi => h.zpow_le_length hab h.finite_ab (i := i) hi
  have hlac := fun i hi => h.zpow_le_length hac h.finite_ac (i := i) hi
  have hone : ∀ {m : ℚ}, exactValue scale = m → 2 ^ (0 : ℤ) * exactValue scale ≤ m := fun heq => by
    rw [zpow_zero, one_mul, heq]
  -- one of the edges has the scale for its largest component
  rcases max_choice (Point.exact (f.b - f.a)).extent (Point.exact (f.c - f.a)).extent with hmax | hmax
  · have hle := PromptCad.zpow_le_limit hab hac (i := 0) (j := -(k : ℤ) - 1) (by omega) le_rfl (by omega) (by omega)
      (hlab 0 (by omega) (hone (h.eq.trans hmax))) (hlac _ (by omega) hshort')
    exact le_of_eq_of_le (by congr 1; ring) hle
  · have hle := PromptCad.zpow_le_limit hab hac (i := -(k : ℤ) - 1) (j := 0) (by omega) (by omega) (by omega) le_rfl
      (hlab _ (by omega) hshort) (hlac 0 (by omega) (hone (h.eq.trans hmax)))
    exact le_of_eq_of_le (by congr 1; ring) hle

/-- Only a facet with two edges at its first corner has a normal other than zero. -/
theorem aspect_pos (hf : ∀ p ∈ f.corners, ∀ x ∈ p.toList, x.isFinite = true) (hne : f.normal ≠ .origin) :
    0 < f.aspect := by
  obtain ⟨ha, hb, hc⟩ := forall_mem_corners.mp hf
  obtain ⟨scale, hscale⟩ := (normal_cases hf).resolve_left hne
  obtain ⟨hab, hac⟩ := hscale.isSmall
  obtain ⟨hlt, -⟩ := (unitNormal_cases hab hac).resolve_left (hscale.normal ▸ hne)
  have hshort : 0 < min (f.b.exact - f.a.exact).extent (f.c.exact - f.a.exact).extent := by
    by_contra hzero
    have hedge : Point.IsZero ((f.b - f.a).divideBy scale) ∨ Point.IsZero ((f.c - f.a).divideBy scale) := by
      refine (min_le_iff.mp (not_lt.mp hzero)).imp (fun h => ?_) fun h => ?_
      · exact (Point.isZero_sub hb ha h).divideBy hscale.finite_ab hscale.finite hscale.pos
      · exact (Point.isZero_sub hc ha h).divideBy hscale.finite_ac hscale.finite hscale.pos
    have hcross := Point.isZero_cross (fun x hx => (hab x hx).finite) (fun x hx => (hac x hx).finite) hedge
    rw [hcross.length (hab.cross hac (by norm_num) (by norm_num)) (by norm_num) (by norm_num)] at hlt
    exact absurd (small_limit hab hac).2 (not_le.mpr hlt)
  exact div_pos hshort (hshort.trans_le min_le_max)

/-- The square of the length of a normal is off by no more than `1 / 2 ^ 46`, and by what the squares lose when an edge
is very short. -/
theorem abs_normal_sub_le (hf : ∀ p ∈ f.corners, ∀ x ∈ p.toList, x.isFinite = true) (hk : 1 / 2 ^ k ≤ f.aspect) :
    f.normal = .origin ∨ |f.normal.exact.dot f.normal.exact - 1| ≤ 1 / 2 ^ 46 + 2 ^ (2 * (k : ℤ) - 989) := by
  rcases normal_cases hf with hnormal | ⟨scale, hscale⟩
  · exact .inl hnormal
  obtain ⟨hab, hac⟩ := hscale.isSmall
  rcases unitNormal_cases hab hac with hnormal | ⟨hlt, hnormal⟩
  · exact .inl (hscale.normal.trans hnormal)
  right
  rcases Nat.lt_or_ge 496 k with hshort | hmost
  · -- the bound says nothing of components of at most two
    have hpower : (2 : ℚ) ^ (5 : ℤ) ≤ 2 ^ (2 * (k : ℤ) - 989) := zpow_le_zpow_right₀ (by norm_num) (by omega)
    have hnonneg := f.normal.dot_exact_nonneg
    have hle := (isSmall_normal hf).dot_exact_le
    rw [abs_le]
    constructor <;> linarith
  · have hlength := (hscale.zpow_le_limit hf hk hmost).trans hlt.le
    have hpos := (small_limit hab hac).2.trans_lt hlt
    have hunit := (hab.cross hac (by norm_num) (by norm_num)).abs_unit_sub_le hpos (hscale.normal.trans hnormal)
    refine hunit.trans (add_le_add_right ?_ _)
    have hsquare := mul_le_mul hlength hlength (by positivity) hpos.le
    rw [← mul_div_assoc]
    refine (div_le_div_of_nonneg_left (by positivity) (by positivity) hsquare).trans_eq ?_
    rw [show (8 : ℚ) = 2 ^ (3 : ℤ) by norm_num, ← zpow_add₀ (by norm_num), ← zpow_add₀ (by norm_num),
      ← zpow_sub₀ (by norm_num)]
    congr 1
    ring

theorem exists_two_pow_aspect (h : 0 < f.aspect) : ∃ k : ℕ, 1 / 2 ^ k ≤ f.aspect ∧ f.aspect < 2 ^ (1 - (k : ℤ)) := by
  obtain ⟨i, hle, hlt⟩ := exists_mem_Ico_zpow h (one_lt_two : (1 : ℚ) < 2)
  have hone : f.aspect ≤ 2 ^ (0 : ℤ) := by
    rw [zpow_zero]
    exact div_le_one_of_le₀ min_le_max (le_max_of_le_left (Vec3.extent_nonneg _))
  have hi : i ≤ 0 := (zpow_le_zpow_iff_right₀ one_lt_two).mp (hle.trans hone)
  obtain ⟨k, hk⟩ := Int.eq_ofNat_of_zero_le (neg_nonneg.mpr hi)
  obtain rfl : i = -(k : ℤ) := by omega
  refine ⟨k, ?_, by rwa [sub_eq_neg_add]⟩
  rwa [one_div, ← zpow_natCast, ← zpow_neg]

/-- A normal is finite, and it is zero or a vector of length one, unless one edge at the first corner is more than
`2 ^ 479` times as long as the other. The shorter an edge is beyond that, the more the length may be off. -/
theorem normal_unit_or_zero (hf : ∀ p ∈ f.corners, ∀ x ∈ p.toList, x.isFinite = true) :
    (∀ x ∈ f.normal.toList, x.isFinite = true) ∧
      (1 / 2 ^ 479 ≤ f.aspect → f.normal = .origin ∨ |f.normal.exact.dot f.normal.exact - 1| ≤ 1 / 10 ^ 9) ∧
      (f.normal = .origin ∨
        0 < f.aspect ∧ |f.normal.exact.dot f.normal.exact - 1| ≤ 1 / 2 ^ 46 + (2 ^ (-493 : ℤ) / f.aspect) ^ 2) := by
  refine ⟨fun x hx => (isSmall_normal hf x hx).finite, fun haspect => ?_, or_iff_not_imp_left.mpr fun hne => ?_⟩
  · refine (abs_normal_sub_le hf haspect).imp_right fun hle => hle.trans ?_
    norm_num
  · have hpos := aspect_pos hf hne
    obtain ⟨k, hle, hlt⟩ := exists_two_pow_aspect hpos
    refine ⟨hpos, ((abs_normal_sub_le hf hle).resolve_left hne).trans (add_le_add_right ?_ _)⟩
    have hquotient : (2 : ℚ) ^ ((k : ℤ) - 494) ≤ 2 ^ (-493 : ℤ) / f.aspect := by
      rw [le_div_iff₀ hpos]
      refine (mul_le_mul_of_nonneg_left hlt.le (by positivity)).trans_eq ?_
      rw [← zpow_add₀ (by norm_num)]
      congr 1
      ring
    calc (2 : ℚ) ^ (2 * (k : ℤ) - 989) ≤ 2 ^ (((k : ℤ) - 494) * (2 : ℕ)) :=
          zpow_le_zpow_right₀ (by norm_num) (by push_cast; omega)
      _ = (2 ^ ((k : ℤ) - 494)) ^ 2 := by rw [zpow_mul, zpow_natCast]
      _ ≤ (2 ^ (-493 : ℤ) / f.aspect) ^ 2 := pow_le_pow_left₀ (by positivity) hquotient 2

/-- The longest edge is nearly `2 ^ 479` times as long as the shortest. -/
def needle : Facet := ⟨⟨0, 0, 0⟩, ⟨1, 0, 0⟩, ⟨0, 1e-144, 0⟩⟩

theorem normal_unit_or_zero_needle :
    (∀ p ∈ needle.corners, ∀ x ∈ p.toList, x.isFinite = true) ∧ 1 / 2 ^ 479 ≤ needle.aspect ∧
      needle.normal ≠ .origin ∧ |needle.normal.exact.dot needle.normal.exact - 1| ≤ 1 / 10 ^ 9 := by
  have hfinite : ∀ p ∈ needle.corners, ∀ x ∈ p.toList, x.isFinite = true := by decide +kernel
  have haspect : 1 / 2 ^ 479 ≤ needle.aspect := by
    have hlow : (2 : ℚ) ^ (-479 : ℤ) ≤ |exactValue 1e-144| :=
      le_abs_exactValue_of_magnitude (j := 543) (by decide +kernel)
    have hhigh : |exactValue 1e-144| ≤ (2 : ℚ) ^ (0 : ℤ) :=
      abs_exactValue_le_of_magnitude (j := 1022) (by decide +kernel)
    have hab : (needle.b.exact - needle.a.exact).extent = 1 := by
      simp [needle, Point.exact, Vec3.map, Vec3.sub_def, Vec3.extent, exactValue_zero, exactValue_one]
    have hac : (needle.c.exact - needle.a.exact).extent = |exactValue 1e-144| := by
      simp [needle, Point.exact, Vec3.map, Vec3.sub_def, Vec3.extent, exactValue_zero]
    rw [zpow_zero] at hhigh
    rw [aspect, hab, hac, min_eq_right hhigh, max_eq_left hhigh, div_one]
    exact hlow.trans' (by norm_num)
  have hne : magnitude needle.normal.z ≠ magnitude Point.origin.z := by decide +kernel
  have horigin : needle.normal ≠ .origin := fun h => hne (by rw [h])
  exact ⟨hfinite, haspect, horigin, ((normal_unit_or_zero hfinite).2.1 haspect).resolve_left horigin⟩

/-- The squares of its cross product are less than the least normal float. -/
def hair : Facet := ⟨⟨0, 0, 0⟩, ⟨1, 0, 0⟩, ⟨0, 2.6e-162, 0⟩⟩

theorem normal_too_long :
    ¬ ∀ f : Facet, (∀ p ∈ f.corners, ∀ x ∈ p.toList, x.isFinite = true) →
      (∀ x ∈ f.normal.toList, x.isFinite = true) ∧
        (f.normal = .origin ∨ |f.normal.exact.dot f.normal.exact - 1| ≤ 1 / 10 ^ 9) := by
  intro hclaim
  have hmagnitude : 1022 * 2 ^ 52 + (2 ^ 52 + 2 ^ 49) ≤ magnitude hair.normal.z := by decide +kernel
  have hlong : (9 : ℚ) / 8 ≤ |exactValue hair.normal.z| := by
    rw [abs_exactValue]
    refine le_trans ?_ (binary64.value_strictMono.monotone hmagnitude)
    rw [binary64_value (by norm_num) (.inr (by norm_num))]
    norm_num
  rcases (hclaim hair (by decide +kernel)).2 with horigin | hunit
  · rw [horigin, show Point.origin.z = 0 from rfl, exactValue_zero, abs_zero] at hlong
    norm_num at hlong
  · have hsquare : 9 / 8 * (9 / 8) ≤ exactValue hair.normal.z * exactValue hair.normal.z := by
      rw [← abs_mul_abs_self (exactValue hair.normal.z)]
      exact mul_self_le_mul_self (by norm_num) hlong
    have hdot : ∀ n : Point, exactValue n.z * exactValue n.z ≤ n.exact.dot n.exact := fun n =>
      le_add_of_nonneg_left (add_nonneg (mul_self_nonneg _) (mul_self_nonneg _))
    linarith [(abs_le.mp hunit).2, hdot hair.normal]

end Facet

end PromptCad
