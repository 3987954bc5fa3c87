import Mathlib.Algebra.Order.Field.Power
import Mathlib.Tactic.FieldSimp
import Mathlib.Tactic.Linarith
import Mathlib.Tactic.NormNum
import Mathlib.Tactic.Positivity
import Mathlib.Tactic.Ring
import PromptCad.Decimal.Shortest

/-! Rounding to the nearest float. Around every positive float lies the interval of the numbers that are nearer to it
than to any other, whose ends belong to it when the mantissa is even; each fraction of the interval is rounded to that
float. -/

namespace PromptCad.Decimal

theorem pow_toNat_div (b : ℚ) (i : ℤ) : b ^ i.toNat / b ^ (-i).toNat = b ^ i := by
  obtain ⟨n, rfl | rfl⟩ := i.eq_nat_or_neg
  · simp
  · simp

section Halves

variable {n d m : ℕ}

theorem sub_half_le_div_iff (hd : 0 < d) : (m : ℚ) - 1 / 2 ≤ n / d ↔ 2 * (m * d) ≤ 2 * n + d := by
  have hdq : (0 : ℚ) < d := by exact_mod_cast hd
  have hcast : 2 * (m * d) ≤ 2 * n + d ↔ (2 * (m * d) : ℚ) ≤ 2 * n + d := by exact_mod_cast Iff.rfl
  rw [le_div_iff₀ hdq, hcast]
  constructor <;> intro h <;> linarith

theorem div_le_add_half_iff (hd : 0 < d) : (n : ℚ) / d ≤ m + 1 / 2 ↔ 2 * n ≤ 2 * (m * d) + d := by
  have hdq : (0 : ℚ) < d := by exact_mod_cast hd
  have hcast : 2 * n ≤ 2 * (m * d) + d ↔ (2 * n : ℚ) ≤ 2 * (m * d) + d := by exact_mod_cast Iff.rfl
  rw [div_le_iff₀ hdq, hcast]
  constructor <;> intro h <;> linarith

theorem div_eq_sub_half_iff (hd : 0 < d) : (n : ℚ) / d = m - 1 / 2 ↔ 2 * n + d = 2 * (m * d) := by
  have hdq : (0 : ℚ) < d := by exact_mod_cast hd
  have hcast : 2 * n + d = 2 * (m * d) ↔ (2 * n + d : ℚ) = 2 * (m * d) := by exact_mod_cast Iff.rfl
  rw [div_eq_iff hdq.ne', hcast]
  constructor <;> intro h <;> linarith

theorem div_eq_add_half_iff (hd : 0 < d) : (n : ℚ) / d = m + 1 / 2 ↔ 2 * n = 2 * (m * d) + d := by
  have hdq : (0 : ℚ) < d := by exact_mod_cast hd
  have hcast : 2 * n = 2 * (m * d) + d ↔ (2 * n : ℚ) = 2 * (m * d) + d := by exact_mod_cast Iff.rfl
  rw [div_eq_iff hdq.ne', hcast]
  constructor <;> intro h <;> linarith

theorem eq_div_or_eq_div_add_one (hd : 0 < d) (hlow : 2 * (m * d) ≤ 2 * n + d) (hhigh : 2 * n ≤ 2 * (m * d) + d) :
    m = n / d ∨ m = n / d + 1 := by
  have hmod := Nat.mod_lt n hd
  have hsum := Nat.div_add_mod n d
  rw [Nat.mul_comm] at hsum
  have hle : n / d < m + 1 := by
    by_contra hc
    have hmul := Nat.mul_le_mul_right d (Nat.not_lt.mp hc)
    rw [Nat.add_mul] at hmul
    omega
  have hge : m < n / d + 2 := by
    by_contra hc
    have hmul := Nat.mul_le_mul_right d (Nat.not_lt.mp hc)
    rw [Nat.add_mul] at hmul
    omega
  omega

theorem roundDiv_eq_of_within (hd : 0 < d) (hlow : 2 * (m * d) ≤ 2 * n + d) (hhigh : 2 * n ≤ 2 * (m * d) + d)
    (heven : 2 * n + d = 2 * (m * d) ∨ 2 * n = 2 * (m * d) + d → m % 2 = 0) : roundDiv n d = m := by
  have hnear := eq_div_or_eq_div_add_one hd hlow hhigh
  have hmod := Nat.mod_lt n hd
  have hsum := Nat.div_add_mod n d
  rw [Nat.mul_comm] at hsum
  rw [roundDiv, roundBy]
  generalize n / d = q at *
  generalize n % d = r at *
  rcases hnear with rfl | rfl
  · split
    · rfl
    · rw [if_neg (by omega)]
      have := heven (by omega)
      omega
  · rw [Nat.add_mul] at *
    rw [if_neg (by omega)]
    split
    · rfl
    · have := heven (by omega)
      omega

/-- A quotient with a half to spare on both sides rounds to the number in the middle; with none to spare the number
has to be even. -/
theorem roundDiv_eq_of_near (hd : 0 < d) (hlow : (m : ℚ) - 1 / 2 ≤ n / d) (hhigh : (n : ℚ) / d ≤ m + 1 / 2)
    (heven : (n : ℚ) / d = m - 1 / 2 ∨ (n : ℚ) / d = m + 1 / 2 → m % 2 = 0) : roundDiv n d = m := by
  rw [div_eq_sub_half_iff hd, div_eq_add_half_iff hd] at heven
  exact roundDiv_eq_of_within hd ((sub_half_le_div_iff hd).mp hlow) ((div_le_add_half_iff hd).mp hhigh) heven

theorem abs_roundDiv_sub_le (h : 0 < d) : |(roundDiv n d : ℚ) - n / d| ≤ 1 / 2 := by
  obtain ⟨hhigh, hlow⟩ := roundDiv_within n d h
  exact abs_sub_le_iff.mpr ⟨sub_le_comm.mp ((sub_half_le_div_iff h).mpr hhigh),
    sub_le_iff_le_add'.mpr ((div_le_add_half_iff h).mpr hlow)⟩

theorem roundDiv_even (h : 0 < d) (htie : |(roundDiv n d : ℚ) - n / d| = 1 / 2) : roundDiv n d % 2 = 0 := by
  have htie' : 2 * n + d = 2 * (roundDiv n d * d) ∨ 2 * n = 2 * (roundDiv n d * d) + d := by
    rw [← div_eq_sub_half_iff h, ← div_eq_add_half_iff h]
    rcases eq_or_eq_neg_of_abs_eq htie with heq | heq
    · left
      linarith
    · right
      linarith
  have hmod := Nat.mod_lt n h
  have hsum := Nat.div_add_mod n d
  rw [Nat.mul_comm] at hsum
  rw [roundDiv, roundBy] at *
  generalize n / d = q at *
  generalize n % d = r at *
  -- away from the half in the middle neither equation holds
  split_ifs at * with hlow hhigh
  · omega
  · rw [Nat.add_mul] at htie'
    omega
  · omega

end Halves

/-- Powers of two from the binary lengths of the parts of a fraction lie on both sides of it. -/
theorem zpow_log2_bounds {num den : ℕ} (hnum : 0 < num) (hden : 0 < den) :
    (2 : ℚ) ^ ((num.log2 : ℤ) - den.log2 - 1) ≤ num / den ∧
      (num : ℚ) / den < 2 ^ ((num.log2 : ℤ) - den.log2 + 1) := by
  have hden' : (0 : ℚ) < den := by exact_mod_cast hden
  have hnl : (2 : ℚ) ^ num.log2 ≤ num := by exact_mod_cast Nat.log2_self_le hnum.ne'
  have hnh : (num : ℚ) < 2 ^ (num.log2 + 1) := by exact_mod_cast Nat.lt_log2_self
  have hdl : (2 : ℚ) ^ den.log2 ≤ den := by exact_mod_cast Nat.log2_self_le hden.ne'
  have hdh : (den : ℚ) < 2 ^ (den.log2 + 1) := by exact_mod_cast Nat.lt_log2_self
  constructor
  · rw [le_div_iff₀ hden']
    calc (2 : ℚ) ^ ((num.log2 : ℤ) - den.log2 - 1) * den
        ≤ 2 ^ ((num.log2 : ℤ) - den.log2 - 1) * 2 ^ (den.log2 + 1) := by gcongr
      _ = 2 ^ num.log2 := by
          rw [← zpow_natCast, ← zpow_natCast, ← zpow_add₀ (by norm_num)]
          congr 1
          push_cast
          ring
      _ ≤ num := hnl
  · rw [div_lt_iff₀ hden']
    calc (num : ℚ) < 2 ^ (num.log2 + 1) := hnh
      _ = 2 ^ ((num.log2 : ℤ) - den.log2 + 1) * 2 ^ den.log2 := by
          rw [← zpow_natCast, ← zpow_natCast, ← zpow_add₀ (by norm_num)]
          congr 1
          push_cast
          ring
      _ ≤ 2 ^ ((num.log2 : ℤ) - den.log2 + 1) * den := by gcongr

theorem mul_pow_lt_mul_pow_iff {num den : ℕ} (hden : 0 < den) (e : ℤ) :
    num * 2 ^ (-e).toNat < den * 2 ^ e.toNat ↔ (num : ℚ) / den < 2 ^ e := by
  have hden' : (0 : ℚ) < den := by exact_mod_cast hden
  have hpow : (0 : ℚ) < 2 ^ (-e).toNat := by positivity
  rw [← pow_toNat_div 2 e, div_lt_div_iff₀ hden' hpow, mul_comm ((2 : ℚ) ^ e.toNat)]
  exact_mod_cast Iff.rfl

theorem floorLog2_bounds {num den : ℕ} (hnum : 0 < num) (hden : 0 < den) :
    (2 : ℚ) ^ floorLog2 num den ≤ num / den ∧ (num : ℚ) / den < 2 ^ (floorLog2 num den + 1) := by
  obtain ⟨hlow, hhigh⟩ := zpow_log2_bounds hnum hden
  simp only [floorLog2, mul_pow_lt_mul_pow_iff hden]
  split
  · next hlt => exact ⟨hlow, by rwa [sub_add_cancel]⟩
  · next hge => exact ⟨not_lt.mp hge, hhigh⟩

theorem floorLog2_lt {num den : ℕ} (hnum : 0 < num) (hden : 0 < den) {e : ℤ} (h : (num : ℚ) / den < 2 ^ e) :
    floorLog2 num den < e :=
  (zpow_lt_zpow_iff_right₀ one_lt_two).mp ((floorLog2_bounds hnum hden).1.trans_lt h)

theorem floorLog2_eq {num den : ℕ} (hnum : 0 < num) (hden : 0 < den) {e : ℤ} (hlow : (2 : ℚ) ^ e ≤ num / den)
    (hhigh : (num : ℚ) / den < 2 ^ (e + 1)) : floorLog2 num den = e := by
  have hlt := floorLog2_lt hnum hden hhigh
  have hge : e < floorLog2 num den + 1 :=
    (zpow_lt_zpow_iff_right₀ one_lt_two).mp (hlow.trans_lt (floorLog2_bounds hnum hden).2)
  omega

namespace Dyadic

/-- The positive numbers of 64 bits: only the least exponent has mantissas without the leading bit. -/
structure IsFloat (x : Dyadic) : Prop where
  pos : 0 < x.mantissa
  lt : x.mantissa < 2 ^ 53
  least : -1074 ≤ x.exponent
  greatest : x.exponent ≤ 971
  full : x.exponent = -1074 ∨ 2 ^ 52 ≤ x.mantissa

/-- How far the interval of a number reaches down, in units of its last place. -/
def reachBelow (x : Dyadic) : ℚ := if x.narrowBelow then 1 / 4 else 1 / 2

/-- The number lies in the interval of a float; at an end of it the mantissa has to be even. -/
structure Near (x : Dyadic) (v : ℚ) : Prop where
  low : (x.mantissa - x.reachBelow) * 2 ^ x.exponent ≤ v
  high : v ≤ (x.mantissa + 1 / 2) * 2 ^ x.exponent
  even : v = (x.mantissa - x.reachBelow) * 2 ^ x.exponent ∨ v = (x.mantissa + 1 / 2) * 2 ^ x.exponent →
    x.mantissa % 2 = 0

theorem reachBelow_le (x : Dyadic) : x.reachBelow ≤ 1 / 2 := by
  unfold reachBelow
  split <;> norm_num

theorem reachBelow_pos (x : Dyadic) : 0 < x.reachBelow := by
  unfold reachBelow
  split <;> norm_num

variable {x : Dyadic} {num den : ℕ}

theorem Near.scaled {v : ℚ} (h : x.Near v) :
    (x.mantissa : ℚ) - 1 / 2 ≤ v / 2 ^ x.exponent ∧ v / 2 ^ x.exponent ≤ x.mantissa + 1 / 2 ∧
      (v / 2 ^ x.exponent = x.mantissa - 1 / 2 ∨ v / 2 ^ x.exponent = x.mantissa + 1 / 2 → x.mantissa % 2 = 0) := by
  have hp : (0 : ℚ) < 2 ^ x.exponent := by positivity
  have hr := x.reachBelow_le
  have hlow := (le_div_iff₀ hp).mpr h.low
  refine ⟨by linarith, (div_le_iff₀ hp).mpr h.high, ?_⟩
  rintro (he | he)
  · have hreach : x.reachBelow = 1 / 2 := by linarith
    exact h.even (.inl (by rw [hreach, ← he, div_mul_cancel₀ _ hp.ne']))
  · exact h.even (.inr (by rw [← he, div_mul_cancel₀ _ hp.ne']))

theorem ratio_scaled (hden : 0 < den) (q : ℤ) :
    ((num * 2 ^ (-q).toNat : ℕ) : ℚ) / (den * 2 ^ q.toNat : ℕ) = num / den / 2 ^ q := by
  have hden' : (den : ℚ) ≠ 0 := by exact_mod_cast hden.ne'
  push_cast
  rw [← pow_toNat_div 2 q]
  field_simp

theorem roundDiv_of_near (h : x.Near (num / den)) (hden : 0 < den) :
    roundDiv (num * 2 ^ (-x.exponent).toNat) (den * 2 ^ x.exponent.toNat) = x.mantissa := by
  obtain ⟨hlow, hhigh, heven⟩ := h.scaled
  rw [← ratio_scaled hden] at hlow hhigh heven
  exact roundDiv_eq_of_near (by positivity) hlow hhigh heven

theorem nearest_eq (hnum : 0 < num) {q : ℤ} {m : ℕ} (hq : max (floorLog2 num den - 52) (-1074) = q)
    (hm : roundDiv (num * 2 ^ (-q).toNat) (den * 2 ^ q.toNat) = m)
    (hinf : (q + 1074).toNat * 2 ^ 52 + m ≤ binary64.infinity) :
    binary64.nearest num den = (q + 1074).toNat * 2 ^ 52 + m := by
  have hq' : max (floorLog2 num den - (binary64.fractionBits : ℤ)) binary64.minExponent = q := hq
  simp only [BinaryFormat.nearest, if_neg hnum.ne', hq', hm]
  have hsub : q - binary64.minExponent = q + 1074 := by
    show q - (-1074) = q + 1074
    ring
  rw [hsub]
  exact Nat.min_eq_left hinf

/-- Below its float a fraction may have a smaller exponent, but only by one, and only below a power of two. -/
theorem IsFloat.narrow (hx : x.IsFloat) {v : ℚ} (h : x.Near v) (hlt : v < 2 ^ (x.exponent + 52))
    (hexp : x.exponent ≠ -1074) : x.mantissa = 2 ^ 52 ∧ x.reachBelow = 1 / 4 := by
  have hp : (0 : ℚ) < 2 ^ x.exponent := by positivity
  have hfull := hx.full.resolve_left hexp
  rw [zpow_add₀ (by norm_num)] at hlt
  have hlow : ((x.mantissa : ℚ) - x.reachBelow) < 2 ^ (52 : ℤ) := by
    have := h.low.trans_lt hlt
    rw [mul_comm ((2 : ℚ) ^ x.exponent)] at this
    exact lt_of_mul_lt_mul_right this hp.le
  have hm : x.mantissa = 2 ^ 52 := by
    by_contra hne
    have hge : (4503599627370497 : ℚ) ≤ x.mantissa := by exact_mod_cast (by omega : 4503599627370497 ≤ x.mantissa)
    have hr := x.reachBelow_le
    norm_num at hlow
    linarith
  refine ⟨hm, ?_⟩
  have hnarrow : x.narrowBelow = true := by
    have := hx.least
    simp only [narrowBelow, Bool.and_eq_true, decide_eq_true_eq]
    exact ⟨hm, by show (-1074 : ℤ) < _; omega⟩
  rw [reachBelow, if_pos hnarrow]

/-- In the next smaller unit a fraction just below a power of two is rounded up to it. -/
theorem roundDiv_of_narrow (hden : 0 < den) (hm : x.mantissa = 2 ^ 52) (hr : x.reachBelow = 1 / 4)
    (h : x.Near (num / den)) (hlt : (num : ℚ) / den < 2 ^ (x.exponent + 52)) :
    roundDiv (num * 2 ^ (-(x.exponent - 1)).toNat) (den * 2 ^ (x.exponent - 1).toNat) = 2 ^ 53 := by
  have hp : (0 : ℚ) < 2 ^ x.exponent := by positivity
  have hscale : ((num * 2 ^ (-(x.exponent - 1)).toNat : ℕ) : ℚ) / (den * 2 ^ (x.exponent - 1).toNat : ℕ) =
      2 * (num / den / 2 ^ x.exponent) := by
    rw [ratio_scaled hden, zpow_sub_one₀ (by norm_num)]
    field_simp
  have hge := (le_div_iff₀ hp).mpr h.low
  rw [hm, hr] at hge
  push_cast at hge
  have hle : (num : ℚ) / den / 2 ^ x.exponent < 2 ^ 52 := by
    rw [div_lt_iff₀ hp, mul_comm]
    rwa [zpow_add₀ (by norm_num)] at hlt
  refine roundDiv_eq_of_near (by positivity) ?_ ?_ fun _ => by norm_num
  · rw [hscale]
    push_cast
    linarith
  · rw [hscale]
    push_cast
    linarith

/-- Every fraction of the interval of a float is rounded to its bit pattern. -/
theorem nearest_of_near (hx : x.IsFloat) (hnum : 0 < num) (hden : 0 < den) (h : x.Near (num / den)) :
    binary64.nearest num den = (x.exponent + 1074).toNat * 2 ^ 52 + x.mantissa := by
  have hp : (0 : ℚ) < 2 ^ x.exponent := by positivity
  have hlt := hx.lt
  have hleast := hx.least
  have hgreatest := hx.greatest
  have hinf : (x.exponent + 1074).toNat * 2 ^ 52 + x.mantissa ≤ binary64.infinity := by
    show _ ≤ 0x7FF0000000000000
    omega
  have hmq : (x.mantissa : ℚ) + 1 ≤ 2 ^ 53 := by exact_mod_cast hlt
  have hhigh : (num : ℚ) / den < 2 ^ (x.exponent + 52 + 1) := by
    rw [add_assoc, zpow_add₀ (by norm_num), mul_comm]
    refine h.high.trans_lt (mul_lt_mul_of_pos_right ?_ hp)
    norm_num at hmq ⊢
    linarith
  by_cases hbin : (2 : ℚ) ^ (x.exponent + 52) ≤ num / den
  · -- the fraction has the exponent of the float
    refine nearest_eq hnum ?_ (roundDiv_of_near h hden) hinf
    rw [floorLog2_eq hnum hden hbin hhigh]
    omega
  · have hbelow := not_le.mp hbin
    by_cases hexp : x.exponent = -1074
    · -- no exponent is smaller
      refine nearest_eq hnum ?_ (roundDiv_of_near h hden) hinf
      have := floorLog2_lt hnum hden hbelow
      omega
    · -- the float is a power of two, and the fraction is rounded up to it
      obtain ⟨hm, hr⟩ := hx.narrow h hbelow hexp
      have hcarry : (x.exponent - 1 + 1074).toNat * 2 ^ 52 + 2 ^ 53 =
          (x.exponent + 1074).toNat * 2 ^ 52 + x.mantissa := by omega
      have hlow := h.low
      rw [hr, hm] at hlow
      have hlog : floorLog2 num den = x.exponent + 51 := by
        refine floorLog2_eq hnum hden (le_trans ?_ hlow) (by rwa [add_assoc])
        rw [zpow_add₀ (by norm_num), mul_comm]
        refine mul_le_mul_of_nonneg_right ?_ hp.le
        norm_num
      have hround := roundDiv_of_narrow hden hm hr h hbelow
      rw [nearest_eq hnum (by rw [hlog]; omega) hround (hcarry.le.trans hinf), hcarry]

end Dyadic

end PromptCad.Decimal
