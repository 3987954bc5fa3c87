import PromptCad.Proofs.Float.Narrow

/-! Sums, products, quotients and square roots of floats are rounded from a mantissa with two more bits, which tell where
the exact number lies above the mantissa. Whatever is rounded so is the nearest float. -/

namespace PromptCad.Decimal

open Float.Model Float.Model.UnpackedFloat

/-- What a mantissa and its two further bits say of a number: that it is the mantissa, the middle between the mantissa
and the next, or in the half below or above the middle. -/
def Tells (em : ExtendedMantissa) (v : ℚ) : Prop :=
  if em.roundBit then
    if em.stickyBit then em.mantissa + 1 / 2 < v ∧ v < em.mantissa + 1 else v = em.mantissa + 1 / 2
  else if em.stickyBit then em.mantissa < v ∧ v < em.mantissa + 1 / 2 else v = em.mantissa

namespace Tells

variable {em : ExtendedMantissa} {v : ℚ}

theorem bounds (h : Tells em v) : em.mantissa ≤ v ∧ v < em.mantissa + 1 := by
  obtain ⟨m, round, sticky⟩ := em
  cases round <;> cases sticky <;> simp only [Tells, Bool.false_eq_true, if_false, if_true] at h
  · constructor <;> linarith
  · constructor <;> linarith [h.1, h.2]
  · constructor <;> linarith
  · constructor <;> linarith [h.1, h.2]

/-- A bit that is shifted out goes into the bits that are kept. -/
theorem shiftRightOne (h : Tells em v) : Tells em.shiftRightOne (v / 2) := by
  obtain ⟨m, round, sticky⟩ := em
  have hsum : (2 : ℚ) * (m / 2 : ℕ) + (m % 2 : ℕ) = m := by exact_mod_cast Nat.div_add_mod m 2
  rcases Nat.mod_two_eq_zero_or_one m with hbit | hbit <;> rw [hbit] at hsum <;> push_cast at hsum <;>
    cases round <;> cases sticky <;>
    simp only [Tells, ExtendedMantissa.shiftRightOne, hbit, Bool.false_eq_true, if_false, if_true, bne_self_eq_false,
      Bool.or_false, Bool.or_true, Nat.one_ne_zero, bne_iff_ne, ne_eq, not_false_eq_true] at h ⊢
  all_goals first | linarith | constructor <;> linarith

theorem shiftRight (h : Tells em v) (n : ℕ) : Tells (em >>> n) (v / 2 ^ n) := by
  show Tells (n.repeat ExtendedMantissa.shiftRightOne em) (v / 2 ^ n)
  induction n with
  | zero => simpa [Nat.repeat] using h
  | succ n ih =>
    rw [Nat.repeat, pow_succ, ← div_div]
    exact ih.shiftRightOne

/-- The bits suffice for rounding to the nearest, and of two nearest to the even one. -/
theorem near_roundedMantissa (h : Tells em v) :
    |em.roundedMantissa - v| ≤ 1 / 2 ∧ (|em.roundedMantissa - v| = 1 / 2 → em.roundedMantissa % 2 = 0) := by
  obtain ⟨m, round, sticky⟩ := em
  cases round <;> cases sticky <;> simp only [Tells, Bool.false_eq_true, if_false, if_true] at h
  · show |(m : ℚ) - v| ≤ 1 / 2 ∧ (|(m : ℚ) - v| = 1 / 2 → m % 2 = 0)
    rw [h, sub_self, abs_zero]
    norm_num
  · show |(m : ℚ) - v| ≤ 1 / 2 ∧ (|(m : ℚ) - v| = 1 / 2 → m % 2 = 0)
    rw [abs_of_neg (by linarith [h.1])]
    exact ⟨by linarith [h.2], fun htie => absurd htie (by linarith [h.2])⟩
  · show |((m + m % 2 : ℕ) : ℚ) - v| ≤ 1 / 2 ∧ (|((m + m % 2 : ℕ) : ℚ) - v| = 1 / 2 → (m + m % 2) % 2 = 0)
    refine ⟨?_, fun _ => by omega⟩
    rw [h]
    rcases Nat.mod_two_eq_zero_or_one m with hbit | hbit <;> rw [hbit] <;> push_cast <;> ring_nf <;> norm_num
  · show |((m + 1 : ℕ) : ℚ) - v| ≤ 1 / 2 ∧ (|((m + 1 : ℕ) : ℚ) - v| = 1 / 2 → (m + 1) % 2 = 0)
    push_cast
    rw [abs_of_pos (by linarith [h.2])]
    exact ⟨by linarith [h.1], fun htie => absurd htie (by linarith [h.1])⟩

end Tells

theorem targetExponent_binary64 (t : ℤ) : Format.binary64.targetExponent t = max (t - 53) (-1074) := rfl

theorem toNat_packedInfinity (s : Sign) :
    (packedInfinity Format.binary64 s).toNat = s.toBitVec.toNat * 2 ^ 63 + binary64.infinity := by
  rw [packedInfinity, toNat_packComponents]
  show s.toBitVec.toNat * 2 ^ 63 + (-1#11).toNat * 2 ^ 52 + (0#52).toNat = s.toBitVec.toNat * 2 ^ 63 + 0x7FF0000000000000
  simp

theorem toNat_packedZero (s : Sign) : (packedZero Format.binary64 s).toNat = s.toBitVec.toNat * 2 ^ 63 := by
  rw [packedZero, toNat_packComponents]
  show s.toBitVec.toNat * 2 ^ 63 + (0#11).toNat * 2 ^ 52 + (0#52).toNat = _
  simp

/-- A mantissa in units of some power of two is packed into its pattern, or into infinity past the last finite one. -/
theorem toNat_pack_finite (s : Sign) {k m : ℕ} (hpos : 0 < m) (hm : m < 2 ^ 53) (hk : k = 0 ∨ 2 ^ 52 ≤ m) :
    (UnpackedFloat.pack Format.binary64 (.finite s m (-1074 + k) hpos)).toNat =
      s.toBitVec.toNat * 2 ^ 63 + min (k * 2 ^ 52 + m) binary64.infinity := by
  have hinfinity : binary64.infinity = 2047 * 2 ^ 52 := by decide
  have hbiased : (-1074 + (k : ℤ) + 1023 + 52).toNat = k + 1 := by omega
  change BitVec.toNat (if 2 ^ 11 ≤ (-1074 + (k : ℤ) + 1023 + 52).toNat + 1 then packedInfinity Format.binary64 s
    else if m.log2 + 1 = 53 then packComponents Format.binary64 s (BitVec.ofNat 11 (-1074 + (k : ℤ) + 1023 + 52).toNat)
      (BitVec.ofNat 52 m)
    else packComponents Format.binary64 s 0#11 (BitVec.ofNat 52 m)) = _
  rw [hbiased]
  split
  · rw [toNat_packedInfinity, Nat.min_eq_right (by omega)]
  · rw [Nat.min_eq_left (by omega)]
    split
    · next hlog =>
      have hfull : 2 ^ 52 ≤ m := (Nat.le_log2 hpos.ne').mp (by omega)
      rw [toNat_packComponents, BitVec.toNat_ofNat, BitVec.toNat_ofNat]
      omega
    · next hlog =>
      have hlt : m < 2 ^ 52 := by
        by_contra hc
        have := (Nat.le_log2 hpos.ne').mpr (Nat.not_lt.mp hc)
        have := (Nat.log2_lt hpos.ne').mpr hm
        omega
      obtain rfl : k = 0 := hk.resolve_right (by omega)
      rw [toNat_packComponents, BitVec.toNat_ofNat, BitVec.toNat_ofNat]
      omega

def assemble (s : Sign) (shifted : ExtendedMantissa × ℤ) : UnpackedFloat :=
  if h : shifted.1.mantissa = 0 then .zero s else .finite s shifted.1.mantissa shifted.2 (Nat.pos_of_ne_zero h)

/-- What follows once a mantissa is rounded: if it has become a bit too long, its last bit is dropped. -/
def settle (s : Sign) (m : ℕ) (e : ℤ) : UnpackedFloat :=
  assemble s (shiftToTargetExponent Format.binary64 m e .exact)

theorem settle_of_lt (s : Sign) {m k : ℕ} (hpos : 0 < m) (hm : m < 2 ^ 53) :
    settle s m (-1074 + k) = .finite s m (-1074 + k) hpos := by
  have hlog := (Nat.log2_lt hpos.ne').mpr hm
  have hamount : (max (totalExponent m (-1074 + k) - 53) (-1074) - (-1074 + k)).toNat = 0 := by
    unfold totalExponent
    omega
  have hshift : shiftToTargetExponent Format.binary64 m (-1074 + k) .exact =
      (⟨m, false, false⟩, -1074 + (k : ℤ) + (0 : ℕ)) := by
    rw [shiftToTargetExponent, targetExponent_binary64, shiftToExponent]
    simp only [hamount]
    rfl
  rw [settle, hshift, assemble, dif_neg hpos.ne', UnpackedFloat.finite.injEq]
  exact ⟨rfl, rfl, by simp⟩

theorem settle_carry (s : Sign) (k : ℕ) :
    settle s (2 ^ 53) (-1074 + k) = .finite s (2 ^ 52) (-1074 + (k + 1 : ℕ)) (Nat.two_pow_pos 52) := by
  have hamount : (max (totalExponent (2 ^ 53) (-1074 + k) - 53) (-1074) - (-1074 + k)).toNat = 1 := by
    rw [totalExponent, Nat.log2_two_pow]
    omega
  have hshift : shiftToTargetExponent Format.binary64 (2 ^ 53) (-1074 + k) .exact =
      (⟨2 ^ 52, false, false⟩, -1074 + (k : ℤ) + (1 : ℕ)) := by
    rw [shiftToTargetExponent, targetExponent_binary64, shiftToExponent]
    simp only [hamount]
    rfl
  rw [settle, hshift, assemble, dif_neg (by norm_num), UnpackedFloat.finite.injEq]
  exact ⟨rfl, rfl, by push_cast; ring⟩

theorem toNat_pack_settle (s : Sign) {k m : ℕ} (hm : m ≤ 2 ^ 53) (hk : k = 0 ∨ 2 ^ 52 ≤ m) :
    (UnpackedFloat.pack Format.binary64 (settle s m (-1074 + k))).toNat =
      s.toBitVec.toNat * 2 ^ 63 + min (k * 2 ^ 52 + m) binary64.infinity := by
  rcases Nat.eq_zero_or_pos m with rfl | hpos
  · obtain rfl : k = 0 := hk.resolve_right (by norm_num)
    rw [Nat.zero_mul, Nat.zero_add, Nat.zero_min, Nat.add_zero, ← toNat_packedZero]
    rfl
  · rcases Nat.lt_or_eq_of_le hm with hlt | rfl
    · rw [settle_of_lt s hpos hlt, toNat_pack_finite s hpos hlt hk]
    · have hcarry : (k + 1) * 2 ^ 52 + 2 ^ 52 = k * 2 ^ 52 + 2 ^ 53 := by omega
      rw [settle_carry, toNat_pack_finite s _ (by norm_num) (.inr le_rfl), hcarry]

theorem binary64_value {k m : ℕ} (hm : m ≤ 2 ^ 53) (hk : k = 0 ∨ 2 ^ 52 ≤ m) :
    binary64.value (k * 2 ^ 52 + m) = m * 2 ^ (-1074 + (k : ℤ)) := binary64.value_pattern hm hk

/-- A float that is nearest to a number, and of two nearest the even one. The sign of a zero comes from elsewhere. -/
structure Nearest (z : Float) (v : ℚ) : Prop where
  rounds : binary64.Rounds |v| (magnitude z)
  negative : v < 0 → isNegative z = true
  positive : 0 < v → isNegative z = false

def ofStored (u : UnpackedFloat) : Float := Float.ofModel (.pack u)

def withSign : Sign → ℚ → ℚ
  | .positive, v => v
  | .negative, v => -v

theorem nearest_of_toNat {u : UnpackedFloat} {s : Sign} {v : ℚ} {p : ℕ}
    (hbits : (UnpackedFloat.pack Format.binary64 u).toNat = s.toBitVec.toNat * 2 ^ 63 + p) (hv : 0 ≤ v)
    (hrounds : binary64.Rounds v p) : Nearest (ofStored u) (withSign s v) := by
  have hle : p ≤ 0x7FF0000000000000 := hrounds.le
  have htoNat : (ofStored u).toBits.toNat = s.toBitVec.toNat * 2 ^ 63 + p := hbits
  have hmagnitude : magnitude (ofStored u) = p := by
    rw [magnitude, htoNat]
    omega
  cases s with
  | positive =>
    have hnegative : isNegative (ofStored u) = false := by
      rw [isNegative, htoNat]
      exact decide_eq_false (by show ¬ 2 ^ 63 ≤ 0 * 2 ^ 63 + p; omega)
    refine ⟨?_, fun h => absurd h (not_lt.mpr hv), fun _ => hnegative⟩
    rwa [hmagnitude, withSign, abs_of_nonneg hv]
  | negative =>
    have hnegative : isNegative (ofStored u) = true := by
      rw [isNegative, htoNat]
      exact decide_eq_true (by show 2 ^ 63 ≤ 1 * 2 ^ 63 + p; omega)
    refine ⟨?_, fun _ => hnegative, fun h => absurd h (not_lt.mpr (neg_nonpos.mpr hv))⟩
    rwa [hmagnitude, withSign, abs_neg, abs_of_nonneg hv]

theorem mantissa_ofMantissaAndAccuracy (m : ℕ) (accuracy : Accuracy) :
    (ExtendedMantissa.ofMantissaAndAccuracy m accuracy).mantissa = m := by
  cases accuracy with
  | exact => rfl
  | inexact o => cases o <;> rfl

/-- Rounding drops the bits below the unit of the format and settles what remains. -/
theorem roundWithAccuracy_eq (s : Sign) {m : ℕ} {e : ℤ} (accuracy : Accuracy) {k d : ℕ}
    (ht : max (totalExponent m e - 53) (-1074) = -1074 + (k : ℤ)) (hd : -1074 + (k : ℤ) - e = d) :
    roundWithAccuracy Format.binary64 s m e accuracy =
      settle s (ExtendedMantissa.ofMantissaAndAccuracy m accuracy >>> d).roundedMantissa (-1074 + k) := by
  have hshift : shiftToTargetExponent Format.binary64 m e accuracy =
      (ExtendedMantissa.ofMantissaAndAccuracy m accuracy >>> d, -1074 + (k : ℤ)) := by
    rw [shiftToTargetExponent, targetExponent_binary64, ht, shiftToExponent, hd, Int.toNat_natCast, ← hd]
    congr 1
    ring
  show settle s (shiftToTargetExponent Format.binary64 m e accuracy).1.roundedMantissa
    (shiftToTargetExponent Format.binary64 m e accuracy).2 = _
  rw [hshift]

section Shifted

variable {m k d : ℕ} {e : ℤ} {v : ℚ}

theorem shifted_lt (ht : max (totalExponent m e - 53) (-1074) = -1074 + (k : ℤ)) (hd : -1074 + (k : ℤ) - e = d)
    (hv : v < m + 1) : v / 2 ^ d < 2 * 2 ^ 52 := by
  have hlt : (m : ℚ) + 1 ≤ 2 ^ (m.log2 + 1) := by exact_mod_cast Nat.lt_log2_self
  rw [div_lt_iff₀ (by positivity)]
  calc v < 2 ^ (m.log2 + 1) := hv.trans_le hlt
    _ ≤ 2 ^ (53 + d) := pow_le_pow_right₀ (by norm_num) (by unfold totalExponent at ht; omega)
    _ = 2 * 2 ^ 52 * 2 ^ d := by ring

theorem le_shifted (ht : max (totalExponent m e - 53) (-1074) = -1074 + (k : ℤ)) (hd : -1074 + (k : ℤ) - e = d)
    (hv : m ≤ v) : k = 0 ∨ 2 ^ 52 ≤ v / 2 ^ d := by
  refine (Nat.eq_zero_or_pos k).imp_right fun hpos => ?_
  have hne : m ≠ 0 := by
    rintro rfl
    simp only [totalExponent, Nat.log2_zero] at ht
    omega
  have hle : (2 : ℚ) ^ m.log2 ≤ m := by exact_mod_cast Nat.log2_self_le hne
  rw [le_div_iff₀ (by positivity), ← pow_add]
  refine le_trans ?_ (hle.trans hv)
  exact pow_le_pow_right₀ (by norm_num) (by unfold totalExponent at ht; omega)

end Shifted

/-- A mantissa of the format that is nearest to a number settles into the nearest float. -/
theorem nearest_settle (s : Sign) {n k : ℕ} {v : ℚ} (hv : 0 ≤ v) (hlong : v / 2 ^ (-1074 + (k : ℤ)) < 2 * 2 ^ 52)
    (hfull : k = 0 ∨ 2 ^ 52 ≤ v / 2 ^ (-1074 + (k : ℤ))) (hnear : |(n : ℚ) - v / 2 ^ (-1074 + (k : ℤ))| ≤ 1 / 2)
    (heven : |(n : ℚ) - v / 2 ^ (-1074 + (k : ℤ))| = 1 / 2 → n % 2 = 0) :
    Nearest (ofStored (settle s n (-1074 + k))) (withSign s v) := by
  have hlength : n ≤ 2 * 2 ^ 52 := le_of_near (by exact_mod_cast hlong) hnear
  have hn : k = 0 ∨ 2 ^ 52 ≤ n := by
    refine hfull.imp_right fun h => ?_
    have hlt : (2 : ℚ) ^ 52 < n + 1 := by linarith [(abs_le.mp hnear).1]
    exact Nat.lt_succ_iff.mp (by exact_mod_cast hlt)
  have hrounds := BinaryFormat.rounds_of_mantissa (f := binary64) (by decide) (by decide) hlong hfull hnear heven
  exact nearest_of_toNat (toNat_pack_settle s (by omega) hn) hv hrounds

/-- Rounding with bits of which none is missing gives the nearest float. -/
theorem nearest_roundWithAccuracy {m : ℕ} {e : ℤ} {accuracy : Accuracy} {v : ℚ} (s : Sign)
    (he : e ≤ Format.binary64.targetExponent (totalExponent m e))
    (hv : Tells (.ofMantissaAndAccuracy m accuracy) v) :
    Nearest (ofStored (roundWithAccuracy Format.binary64 s m e accuracy)) (withSign s (v * 2 ^ e)) := by
  rw [targetExponent_binary64] at he
  obtain ⟨k, ht⟩ : ∃ k : ℕ, max (totalExponent m e - 53) (-1074) = -1074 + (k : ℤ) :=
    ⟨(max (totalExponent m e - 53) (-1074) + 1074).toNat, by omega⟩
  obtain ⟨d, hd⟩ : ∃ d : ℕ, -1074 + (k : ℤ) - e = d := Int.eq_ofNat_of_zero_le (by omega)
  obtain ⟨hlow, hhigh⟩ := hv.bounds
  rw [mantissa_ofMantissaAndAccuracy] at hlow hhigh
  have hunits : v * 2 ^ e / 2 ^ (-1074 + (k : ℤ)) = v / 2 ^ d := by
    have hsum : -1074 + (k : ℤ) = e + d := by omega
    rw [hsum, zpow_add₀ (by norm_num), zpow_natCast]
    field_simp
  have hnonneg : 0 ≤ v * 2 ^ e := mul_nonneg ((Nat.cast_nonneg m).trans hlow) (by positivity)
  obtain ⟨hnear, heven⟩ := (hv.shiftRight d).near_roundedMantissa
  rw [roundWithAccuracy_eq s accuracy ht hd]
  rw [← hunits] at hnear heven
  exact nearest_settle s hnonneg (hunits ▸ shifted_lt ht hd hhigh) (hunits ▸ le_shifted ht hd hlow) hnear heven

end PromptCad.Decimal
