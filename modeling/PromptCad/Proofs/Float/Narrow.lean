import PromptCad.Proofs.Float.Exact

/-! Rounding to a narrower format. No pattern of the format has a value nearer to the rounded number than that of the
result, and of two nearest patterns the even one is taken. -/

namespace PromptCad.Decimal

/-- A pattern of a format whose value is nearest to a number; of two nearest it is the even one. Infinity counts as
the power of two that comes after all finite values. -/
structure BinaryFormat.Rounds (f : BinaryFormat) (v : ℚ) (p : ℕ) : Prop where
  le : p ≤ f.infinity
  nearest : ∀ k ≤ f.infinity, |f.value p - v| ≤ |f.value k - v|
  even : ∀ k ≤ f.infinity, k ≠ p → |f.value k - v| = |f.value p - v| → p % 2 = 0

section Multiples

variable {u v : ℚ} {m a : ℕ}

theorem half_le_abs_sub (hnear : |m - v / u| ≤ 1 / 2) (ha : a ≠ m) : 1 / 2 ≤ |a - v / u| := by
  rw [abs_le] at hnear
  rcases Nat.lt_or_gt_of_ne ha with hlt | hlt
  · have hle : (a : ℚ) + 1 ≤ m := by exact_mod_cast hlt
    exact le_abs.mpr (.inr (by linarith))
  · have hle : (m : ℚ) + 1 ≤ a := by exact_mod_cast hlt
    exact le_abs.mpr (.inl (by linarith))

theorem abs_mul_sub (hu : 0 < u) (a : ℕ) : |a * u - v| = |a - v / u| * u := by
  rw [← abs_of_pos hu, ← abs_mul, abs_of_pos hu, sub_mul, div_mul_cancel₀ v hu.ne']

theorem abs_mul_sub_le (hu : 0 < u) (hnear : |m - v / u| ≤ 1 / 2) (a : ℕ) : |m * u - v| ≤ |a * u - v| := by
  rw [abs_mul_sub hu, abs_mul_sub hu]
  refine mul_le_mul_of_nonneg_right ?_ hu.le
  rcases eq_or_ne a m with rfl | ha
  · exact le_rfl
  · exact hnear.trans (half_le_abs_sub hnear ha)

theorem half_of_abs_mul_sub_eq (hu : 0 < u) (hnear : |m - v / u| ≤ 1 / 2) (ha : a ≠ m)
    (htie : |a * u - v| = |m * u - v|) : |m - v / u| = 1 / 2 := by
  rw [abs_mul_sub hu, abs_mul_sub hu, mul_left_inj' hu.ne'] at htie
  exact le_antisymm hnear (htie ▸ half_le_abs_sub hnear ha)

theorem le_of_near {n : ℕ} (hv : v < n) (hnear : |m - v| ≤ 1 / 2) : m ≤ n := by
  have hlt : (m : ℚ) < n + 1 := by linarith [(abs_le.mp hnear).2]
  exact Nat.lt_succ_iff.mp (by exact_mod_cast hlt)

end Multiples

namespace BinaryFormat

variable {f : BinaryFormat} {v : ℚ}

theorem value_lt_of_lt {k k' m : ℕ} (hm : m < 2 * 2 ^ f.fractionBits) (hk' : k' = 0 ∨ 2 ^ f.fractionBits ≤ m)
    (h : k' < k) : f.value (k' * 2 ^ f.fractionBits + m) < (2 ^ f.fractionBits : ℕ) * 2 ^ (f.minExponent + k) := by
  have hlt : (m : ℚ) < 2 * 2 ^ f.fractionBits := by exact_mod_cast hm
  have hle : (2 : ℚ) ^ (f.minExponent + k' + 1) ≤ 2 ^ (f.minExponent + k) :=
    zpow_le_zpow_right₀ (by norm_num) (by omega)
  calc f.value (k' * 2 ^ f.fractionBits + m) = m * 2 ^ (f.minExponent + k') := f.value_pattern hm.le hk'
    _ < 2 * 2 ^ f.fractionBits * 2 ^ (f.minExponent + k') := mul_lt_mul_of_pos_right hlt (by positivity)
    _ = (2 ^ f.fractionBits : ℕ) * 2 ^ (f.minExponent + k' + 1) := by
      rw [zpow_add_one₀ (by norm_num)]
      push_cast
      ring
    _ ≤ (2 ^ f.fractionBits : ℕ) * 2 ^ (f.minExponent + k) := mul_le_mul_of_nonneg_left hle (by positivity)

/-- In larger units a pattern has a multiple of the smaller ones as its value. -/
theorem value_add {k d m : ℕ} (hm : m < 2 * 2 ^ f.fractionBits) (hk : k + d = 0 ∨ 2 ^ f.fractionBits ≤ m) :
    f.value ((k + d) * 2 ^ f.fractionBits + m) = (m * 2 ^ d : ℕ) * 2 ^ (f.minExponent + k) := by
  rw [f.value_pattern hm.le hk, Nat.cast_add, ← add_assoc, zpow_add₀ (by norm_num), zpow_natCast]
  push_cast
  ring

/-- A mantissa rounded to the nearest in units that are small enough makes the nearest pattern of all. -/
theorem nearest_of_mantissa (hbits : 0 < f.fractionBits) {m k : ℕ} (hm : m ≤ 2 * 2 ^ f.fractionBits)
    (hk : k = 0 ∨ 2 ^ f.fractionBits ≤ v / 2 ^ (f.minExponent + k))
    (hnear : |m - v / 2 ^ (f.minExponent + k)| ≤ 1 / 2)
    (heven : |m - v / 2 ^ (f.minExponent + k)| = 1 / 2 → m % 2 = 0) (j : ℕ) :
    |f.value (k * 2 ^ f.fractionBits + m) - v| ≤ |f.value j - v| ∧
      (j ≠ k * 2 ^ f.fractionBits + m → |f.value j - v| = |f.value (k * 2 ^ f.fractionBits + m) - v| →
        (k * 2 ^ f.fractionBits + m) % 2 = 0) := by
  have hunit : (0 : ℚ) < 2 ^ (f.minExponent + k) := by positivity
  have hfull : k = 0 ∨ 2 ^ f.fractionBits ≤ m := by
    refine hk.imp_right fun h => ?_
    have hlt : (2 : ℚ) ^ f.fractionBits < m + 1 := by linarith [(abs_le.mp hnear).1]
    exact Nat.lt_succ_iff.mp (by exact_mod_cast hlt)
  have hvalue : f.value (k * 2 ^ f.fractionBits + m) = m * 2 ^ (f.minExponent + k) := f.value_pattern hm hfull
  have hbest := abs_mul_sub_le hunit hnear
  obtain ⟨k', m', rfl, hm', hk'⟩ := f.exists_pattern j
  rcases Nat.lt_or_ge k' k with hlt | hge
  · have hbelow := value_lt_of_lt hm' hk' hlt
    have hv : ((2 ^ f.fractionBits : ℕ) : ℚ) * 2 ^ (f.minExponent + k) ≤ v := by
      push_cast
      exact (le_div_iff₀ hunit).mp (hk.resolve_left (by omega))
    have hfar : |m * 2 ^ (f.minExponent + k) - v| < |f.value (k' * 2 ^ f.fractionBits + m') - v| := by
      refine (hbest (2 ^ f.fractionBits)).trans_lt ?_
      rw [abs_of_nonpos (by linarith), abs_of_nonpos (by linarith)]
      linarith
    rw [hvalue]
    exact ⟨hfar.le, fun _ htie => absurd htie hfar.ne'⟩
  · obtain ⟨d, rfl⟩ := Nat.exists_eq_add_of_le hge
    have hscaled := value_add hm' hk'
    rw [hvalue, hscaled]
    refine ⟨hbest _, fun hne htie => ?_⟩
    have ha : m' * 2 ^ d ≠ m := by
      intro ha
      exact hne (f.value_strictMono.injective (by rw [hvalue, hscaled, ha]))
    have hm2 := heven (half_of_abs_mul_sub_eq hunit hnear ha htie)
    have hp2 : k * 2 ^ f.fractionBits % 2 = 0 := by
      obtain ⟨n, hn⟩ := Nat.exists_eq_add_of_lt hbits
      rw [hn, Nat.zero_add, Nat.pow_succ, ← Nat.mul_assoc, Nat.mul_mod_left]
    omega

/-- What is nearest among all patterns is so among those up to infinity when it is cut off there. -/
theorem rounds_min {p : ℕ} (hinfinity : f.infinity % 2 = 0) (hnearest : ∀ k, |f.value p - v| ≤ |f.value k - v|)
    (heven : ∀ k, k ≠ p → |f.value k - v| = |f.value p - v| → p % 2 = 0) : f.Rounds v (min p f.infinity) := by
  rcases le_or_gt p f.infinity with hle | hgt
  · rw [Nat.min_eq_left hle]
    exact ⟨hle, fun k _ => hnearest k, fun k _ => heven k⟩
  · rw [Nat.min_eq_right hgt.le]
    have hpast : f.value f.infinity ≤ v := by
      have hlt := f.value_strictMono hgt
      have hle := hnearest f.infinity
      by_contra hc
      rw [abs_of_pos (by linarith), abs_of_pos (by linarith)] at hle
      linarith
    refine ⟨le_rfl, fun k hk => ?_, fun _ _ _ _ => hinfinity⟩
    have hmono := f.value_strictMono.monotone hk
    rw [abs_of_nonpos (by linarith), abs_of_nonpos (by linarith)]
    linarith

/-- A number rounded to whole units of its last place, or of the least place if that is larger. -/
theorem rounds_of_mantissa (hbits : 0 < f.fractionBits) (hinfinity : f.infinity % 2 = 0) {m k : ℕ}
    (hlong : v / 2 ^ (f.minExponent + k) < 2 * 2 ^ f.fractionBits)
    (hfull : k = 0 ∨ 2 ^ f.fractionBits ≤ v / 2 ^ (f.minExponent + k))
    (hnear : |m - v / 2 ^ (f.minExponent + k)| ≤ 1 / 2)
    (heven : |m - v / 2 ^ (f.minExponent + k)| = 1 / 2 → m % 2 = 0) :
    f.Rounds v (min (k * 2 ^ f.fractionBits + m) f.infinity) := by
  have hlength : m ≤ 2 * 2 ^ f.fractionBits := le_of_near (by exact_mod_cast hlong) hnear
  have hnearest := nearest_of_mantissa hbits hlength hfull hnear heven
  exact rounds_min hinfinity (fun j => (hnearest j).1) (fun j => (hnearest j).2)

/-- The mantissa in units of `2 ^ q`, rounded if these are larger than its own. -/
theorem mantissa_near (x : Dyadic) (q : ℤ) {m : ℕ}
    (hm : (if q ≤ x.exponent then x.mantissa * powerOfTwo (x.exponent - q).toNat
      else roundDiv x.mantissa (powerOfTwo (q - x.exponent).toNat)) = m) :
    |m - x.value / 2 ^ q| ≤ 1 / 2 ∧ (|m - x.value / 2 ^ q| = 1 / 2 → m % 2 = 0) := by
  have hunits : x.value / 2 ^ q = x.mantissa * 2 ^ (x.exponent - q) := by
    rw [Dyadic.value, mul_div_assoc, zpow_sub₀ (by norm_num)]
  rw [hunits, ← hm]
  split
  · next hle =>
    obtain ⟨d, hd⟩ := Int.eq_ofNat_of_zero_le (Int.sub_nonneg.mpr hle)
    have hexact : ((x.mantissa * powerOfTwo d : ℕ) : ℚ) - x.mantissa * 2 ^ (d : ℤ) = 0 := by
      rw [powerOfTwo_eq, zpow_natCast]
      push_cast
      ring
    rw [hd, Int.toNat_natCast, hexact]
    norm_num
  · next hgt =>
    obtain ⟨d, hd⟩ := Int.eq_ofNat_of_zero_le (a := q - x.exponent) (by omega)
    have hratio : x.mantissa * (2 : ℚ) ^ (x.exponent - q) = x.mantissa / (2 ^ d : ℕ) := by
      rw [← neg_sub, hd, zpow_neg, zpow_natCast, div_eq_mul_inv]
      push_cast
      rfl
    rw [hd, Int.toNat_natCast, powerOfTwo_eq, hratio]
    exact ⟨abs_roundDiv_sub_le (Nat.two_pow_pos d), roundDiv_even (Nat.two_pow_pos d)⟩

theorem rounds_zero : f.Rounds 0 0 := by
  have hleast : f.value 0 = 0 := by rw [f.value_subnormal (Nat.two_pow_pos _), Nat.cast_zero, zero_mul]
  refine ⟨Nat.zero_le _, fun k _ => ?_, fun _ _ _ _ => rfl⟩
  rw [hleast, sub_zero, abs_zero]
  exact abs_nonneg _

theorem nearestDyadic_rounds (hbits : 0 < f.fractionBits) (hinfinity : f.infinity % 2 = 0) (x : Dyadic) :
    f.Rounds x.value (f.nearestDyadic x) := by
  unfold nearestDyadic
  split
  · next hzero =>
    rw [Dyadic.value, hzero, Nat.cast_zero, zero_mul]
    exact rounds_zero
  · next hne =>
    dsimp only
    generalize hq : max ((x.mantissa.log2 : ℤ) + x.exponent - f.fractionBits) f.minExponent = q
    generalize hm : (if q ≤ x.exponent then _ else _ : ℕ) = m
    obtain ⟨hnear, heven⟩ := mantissa_near x q hm
    obtain ⟨k, hk⟩ := Int.eq_ofNat_of_zero_le (a := q - f.minExponent) (by omega)
    obtain rfl : q = f.minExponent + k := by omega
    have hlow : (2 : ℚ) ^ ((x.mantissa.log2 : ℤ) + x.exponent) ≤ x.value := by
      have hle : (2 : ℚ) ^ x.mantissa.log2 ≤ x.mantissa := by exact_mod_cast Nat.log2_self_le hne
      rw [zpow_add₀ (by norm_num), zpow_natCast]
      exact mul_le_mul_of_nonneg_right hle (by positivity)
    have hhigh : x.value / 2 ^ (f.minExponent + k) < 2 * 2 ^ f.fractionBits := by
      have hlt : (x.mantissa : ℚ) < 2 ^ (x.mantissa.log2 + 1) := by exact_mod_cast Nat.lt_log2_self
      rw [div_lt_iff₀ (by positivity)]
      calc x.value < 2 ^ (x.mantissa.log2 + 1) * 2 ^ x.exponent := mul_lt_mul_of_pos_right hlt (by positivity)
        _ = 2 ^ ((x.mantissa.log2 + 1 : ℕ) + x.exponent : ℤ) := by rw [zpow_add₀ (by norm_num), zpow_natCast]
        _ ≤ 2 ^ ((f.fractionBits + 1 : ℕ) + (f.minExponent + k) : ℤ) :=
          zpow_le_zpow_right₀ (by norm_num) (by push_cast; omega)
        _ = 2 * 2 ^ f.fractionBits * 2 ^ (f.minExponent + k) := by
          rw [zpow_add₀ (by norm_num), zpow_natCast, pow_succ']
    have hfull : k = 0 ∨ 2 ^ f.fractionBits ≤ x.value / 2 ^ (f.minExponent + k) := by
      rcases Nat.eq_zero_or_pos k with hzero | hpos
      · exact .inl hzero
      · right
        rw [le_div_iff₀ (by positivity), ← zpow_natCast, ← zpow_add₀ (by norm_num)]
        exact le_trans (zpow_le_zpow_right₀ (by norm_num) (by omega)) hlow
    rw [hk, Int.toNat_natCast]
    exact rounds_of_mantissa hbits hinfinity hhigh hfull hnear heven

/-- The power of two below a fraction, or the least unit, makes units that are small enough. -/
theorem nearest_rounds (hbits : 0 < f.fractionBits) (hinfinity : f.infinity % 2 = 0) (num : ℕ) {den : ℕ}
    (hden : 0 < den) : f.Rounds (num / den) (f.nearest num den) := by
  unfold nearest
  split
  · next hzero =>
    rw [hzero, Nat.cast_zero, zero_div]
    exact rounds_zero
  · next hne =>
    dsimp only
    obtain ⟨hlow, hhigh⟩ := floorLog2_bounds (Nat.pos_of_ne_zero hne) hden
    generalize hq : max (floorLog2 num den - f.fractionBits) f.minExponent = q
    obtain ⟨k, hk⟩ := Int.eq_ofNat_of_zero_le (a := q - f.minExponent) (by omega)
    obtain rfl : q = f.minExponent + k := by omega
    have hpos : 0 < den * 2 ^ (f.minExponent + (k : ℤ)).toNat := by positivity
    have hnear := @abs_roundDiv_sub_le (num * 2 ^ (-(f.minExponent + (k : ℤ))).toNat) _ hpos
    have heven := @roundDiv_even (num * 2 ^ (-(f.minExponent + (k : ℤ))).toNat) _ hpos
    rw [Dyadic.ratio_scaled hden] at hnear heven
    rw [hk, Int.toNat_natCast]
    refine rounds_of_mantissa hbits hinfinity ?_ ?_ hnear heven
    · rw [div_lt_iff₀ (by positivity), ← pow_succ', ← zpow_natCast, ← zpow_add₀ (by norm_num)]
      exact hhigh.trans_le (zpow_le_zpow_right₀ (by norm_num) (by push_cast; omega))
    · refine (Nat.eq_zero_or_pos k).imp_right fun hk => ?_
      rw [le_div_iff₀ (by positivity), ← zpow_natCast, ← zpow_add₀ (by norm_num)]
      exact le_trans (zpow_le_zpow_right₀ (by norm_num) (by omega)) hlow

end BinaryFormat

/-- A 32-bit pattern that stands for a float as well as such a pattern can: one that is not a number for what is not a
number, and else a pattern of the same sign, infinity for an infinity and the nearest magnitude for a finite float. -/
structure Narrows (x : Float) (w : UInt32) : Prop where
  notANumber : x.isNaN = true → binary32.infinity < w.toNat % 2 ^ 31
  sign : x.isNaN = false → (2 ^ 31 ≤ w.toNat ↔ isNegative x = true)
  infinite : x.isNaN = false → x.isFinite = false → w.toNat % 2 ^ 31 = binary32.infinity
  finite : x.isFinite = true → binary32.Rounds (binary64.value (magnitude x)) (w.toNat % 2 ^ 31)

theorem isNaN_eq_false_of_isFinite {x : Float} (h : x.isFinite = true) : x.isNaN = false := by
  change x.toModel.unpack.isFinite = true at h
  show x.toModel.unpack.isNaN = false
  cases hunpack : x.toModel.unpack with
  | notANumber => rw [hunpack] at h; exact absurd h (by decide)
  | infinity s => rfl
  | zero s => rfl
  | finite s m e hpos => rfl

theorem isInf_eq_false_of_isFinite {x : Float} (h : x.isFinite = true) : x.isInf = false := by
  change x.toModel.unpack.isFinite = true at h
  show x.toModel.unpack.isInf = false
  cases hunpack : x.toModel.unpack with
  | notANumber => rfl
  | infinity s => rw [hunpack] at h; exact absurd h Bool.false_ne_true
  | zero s => rfl
  | finite s m e hpos => rfl

theorem toNat_signed (negative : Bool) {n : ℕ} (h : n < 2 ^ 31) :
    (2 ^ 31 ≤ (UInt32.ofNat ((if negative then 2 ^ 31 else 0) + n)).toNat ↔ negative = true) ∧
      (UInt32.ofNat ((if negative then 2 ^ 31 else 0) + n)).toNat % 2 ^ 31 = n := by
  have hlt : (if negative then 2 ^ 31 else 0) + n < UInt32.size := by
    show _ < 2 ^ 32
    split <;> omega
  rw [UInt32.toNat_ofNat_of_lt' hlt]
  cases negative with
  | true => exact ⟨iff_of_true (Nat.le_add_right _ _) rfl, by rw [if_pos rfl]; omega⟩
  | false =>
    rw [if_neg Bool.false_ne_true, Nat.zero_add]
    exact ⟨iff_of_false (by omega) nofun, Nat.mod_eq_of_lt h⟩

theorem narrows_narrow (x : Float) : Narrows x (narrow x) := by
  unfold narrow
  dsimp only
  split
  · next hnan =>
    obtain ⟨-, hmagnitude⟩ := toNat_signed (isNegative x) (show 0x7FC00000 < 2 ^ 31 by decide)
    refine ⟨fun _ => ?_, fun h => ?_, fun h => ?_, fun h => ?_⟩
    · rw [hmagnitude]
      decide
    · exact absurd hnan (by rw [h]; decide)
    · exact absurd hnan (by rw [h]; decide)
    · exact absurd hnan (by rw [isNaN_eq_false_of_isFinite h]; decide)
  · next hnan =>
    split
    · next hfinite =>
      have hrounds := binary32.nearestDyadic_rounds (by decide) (by decide) (binary64.dyadic (magnitude x))
      obtain ⟨hsign, hmagnitude⟩ := toNat_signed (isNegative x) (Nat.lt_of_le_of_lt hrounds.le (by decide))
      refine ⟨fun h => absurd h hnan, fun _ => hsign, fun _ h => ?_, fun _ => ?_⟩
      · exact absurd hfinite (by rw [h]; decide)
      · rwa [hmagnitude]
    · next hfinite =>
      obtain ⟨hsign, hmagnitude⟩ := toNat_signed (isNegative x) (show binary32.infinity < 2 ^ 31 by decide)
      exact ⟨fun h => absurd h hnan, fun _ => hsign, fun _ _ => hmagnitude, fun h => absurd h hfinite⟩

end PromptCad.Decimal
