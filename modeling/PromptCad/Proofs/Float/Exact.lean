import Mathlib.Algebra.Order.Field.Power
import Mathlib.Order.Monotone.Basic
import PromptCad.Proofs.Float.Text

/-! The exact value of a float as a rational number. The patterns of a format are numbered in the order of their values,
and finite floats compare as their values do. -/

namespace PromptCad.Decimal

def Dyadic.value (x : Dyadic) : ℚ := x.mantissa * 2 ^ x.exponent

theorem Dyadic.den_pos (x : Dyadic) : 0 < x.den := by
  rw [den, powerOfTwo_eq]
  exact Nat.two_pow_pos _

theorem Dyadic.value_eq_div (x : Dyadic) : x.value = x.num / x.den := by
  rw [value, num, den, powerOfTwo_eq, powerOfTwo_eq, ← pow_toNat_div 2 x.exponent]
  push_cast
  ring

namespace BinaryFormat

variable (f : BinaryFormat)

/-- The value of a pattern. That of infinity is the power of two that comes after all finite values. -/
def value (p : ℕ) : ℚ := (f.dyadic p).value

theorem dyadic_eq (p : ℕ) :
    f.dyadic p = if p / 2 ^ f.fractionBits = 0 then ⟨p % 2 ^ f.fractionBits, f.minExponent⟩
      else ⟨p % 2 ^ f.fractionBits + 2 ^ f.fractionBits, f.minExponent + (p / 2 ^ f.fractionBits : ℕ) - 1⟩ := rfl

theorem value_subnormal {m : ℕ} (hm : m < 2 ^ f.fractionBits) : f.value m = m * 2 ^ f.minExponent := by
  rw [value, dyadic_eq, if_pos (Nat.div_eq_of_lt hm), Nat.mod_eq_of_lt hm, Dyadic.value]

theorem value_normal {k r : ℕ} (hr : r < 2 ^ f.fractionBits) :
    f.value ((k + 1) * 2 ^ f.fractionBits + r) = (2 ^ f.fractionBits + r : ℕ) * 2 ^ (f.minExponent + k) := by
  have hdiv : ((k + 1) * 2 ^ f.fractionBits + r) / 2 ^ f.fractionBits = k + 1 := by
    rw [Nat.add_comm, Nat.add_mul_div_right _ _ (Nat.two_pow_pos _), Nat.div_eq_of_lt hr, Nat.zero_add]
  have hmod : ((k + 1) * 2 ^ f.fractionBits + r) % 2 ^ f.fractionBits = r := by
    rw [Nat.add_comm, Nat.add_mul_mod_self_right, Nat.mod_eq_of_lt hr]
  have hexponent : f.minExponent + ((k + 1 : ℕ) : ℤ) - 1 = f.minExponent + k := by
    push_cast
    ring
  rw [value, dyadic_eq, hdiv, hmod, if_neg (Nat.succ_ne_zero k), Dyadic.value, hexponent, Nat.add_comm r]

/-- A mantissa in units of some power of two; one that is a bit too long carries into the exponent. -/
theorem value_pattern {k m : ℕ} (hm : m ≤ 2 * 2 ^ f.fractionBits) (hk : k = 0 ∨ 2 ^ f.fractionBits ≤ m) :
    f.value (k * 2 ^ f.fractionBits + m) = m * 2 ^ (f.minExponent + k) := by
  rcases Nat.lt_or_ge m (2 ^ f.fractionBits) with hlt | hge
  · obtain rfl : k = 0 := hk.resolve_right (Nat.not_le.mpr hlt)
    rw [Nat.zero_mul, Nat.zero_add, f.value_subnormal hlt, Nat.cast_zero, add_zero]
  · obtain ⟨r, rfl⟩ := Nat.exists_eq_add_of_le hge
    rcases Nat.lt_or_ge r (2 ^ f.fractionBits) with hlt | hge'
    · rw [← f.value_normal hlt]
      congr 1
      ring
    · obtain rfl : r = 2 ^ f.fractionBits := by omega
      have hcarry : k * 2 ^ f.fractionBits + (2 ^ f.fractionBits + 2 ^ f.fractionBits) =
          (k + 1 + 1) * 2 ^ f.fractionBits + 0 := by ring
      rw [hcarry, f.value_normal (Nat.two_pow_pos _), Nat.cast_add k, ← add_assoc, Nat.cast_one,
        zpow_add_one₀ (by norm_num)]
      push_cast
      ring

theorem exists_pattern (p : ℕ) :
    ∃ k m, p = k * 2 ^ f.fractionBits + m ∧ m < 2 * 2 ^ f.fractionBits ∧ (k = 0 ∨ 2 ^ f.fractionBits ≤ m) := by
  have hmod := Nat.mod_lt p (Nat.two_pow_pos f.fractionBits)
  have hsum := Nat.div_add_mod p (2 ^ f.fractionBits)
  rw [Nat.mul_comm] at hsum
  cases hdiv : p / 2 ^ f.fractionBits with
  | zero => exact ⟨0, p % 2 ^ f.fractionBits, by rw [← hsum, hdiv]; simp, by omega, .inl rfl⟩
  | succ k =>
    refine ⟨k, 2 ^ f.fractionBits + p % 2 ^ f.fractionBits, ?_, by omega, .inr (by omega)⟩
    rw [← hsum, hdiv]
    simp
    ring

theorem value_strictMono : StrictMono f.value := by
  refine strictMono_nat_of_lt_succ fun p => ?_
  obtain ⟨k, m, rfl, hm, hk⟩ := f.exists_pattern p
  rw [Nat.add_assoc, f.value_pattern hm.le hk, f.value_pattern hm (hk.imp_right fun h => h.trans (Nat.le_succ m))]
  exact mul_lt_mul_of_pos_right (by exact_mod_cast Nat.lt_succ_self m) (by positivity)

end BinaryFormat

open Float.Model Float.Model.UnpackedFloat

def exactValue (x : Float) : ℚ := if isNegative x then -binary64.value (magnitude x) else binary64.value (magnitude x)

def sign (x : Float) : Sign := if isNegative x then .negative else .positive

variable {x y : Float} {n : ℕ}

theorem ofBitVec_unpackSign (x : Float) :
    Sign.ofBitVec (@unpackSign Format.binary64 x.toBits.toBitVec) = sign x := by
  have hsign : (@unpackSign Format.binary64 x.toBits.toBitVec).toNat = x.toBits.toNat / 2 ^ 63 := toNat_unpackSign _
  have hlt := x.toBits.toNat_lt
  have hzero : @unpackSign Format.binary64 x.toBits.toBitVec = 0#1 ↔ ¬ 2 ^ 63 ≤ x.toBits.toNat := by
    rw [← BitVec.toNat_inj, hsign, BitVec.toNat_ofNat]
    omega
  unfold sign isNegative Sign.ofBitVec
  by_cases h : 2 ^ 63 ≤ x.toBits.toNat
  · rw [if_neg (by simpa [hzero] using h), decide_eq_true h, if_pos rfl]
  · rw [if_pos (hzero.mpr h), decide_eq_false h, if_neg Bool.false_ne_true]

theorem toNat_unpackExponent_toBits (x : Float) :
    (@unpackExponent Format.binary64 x.toBits.toBitVec).toNat = magnitude x / 2 ^ 52 := by
  rw [toNat_unpackExponent]
  show x.toBits.toNat / 2 ^ 52 % 2 ^ 11 = x.toBits.toNat % 2 ^ 63 / 2 ^ 52
  omega

theorem toNat_unpackMantissa_toBits (x : Float) :
    (@unpackMantissa Format.binary64 x.toBits.toBitVec).toNat = magnitude x % 2 ^ 52 := by
  rw [toNat_unpackMantissa]
  show x.toBits.toNat % 2 ^ 52 = x.toBits.toNat % 2 ^ 63 % 2 ^ 52
  omega

/-- What is stored of a finite float: its sign alone if it is a zero, and else the mantissa and the exponent too. -/
theorem unpack_cases (h : x.isFinite = true) :
    (magnitude x = 0 ∧ x.toModel.unpack = .zero (sign x)) ∨
      ∃ hpos, x.toModel.unpack =
        .finite (sign x) (binary64.dyadic (magnitude x)).mantissa (binary64.dyadic (magnitude x)).exponent hpos := by
  have hfinite := (isFinite_iff x).mp h
  have hexponent := toNat_unpackExponent_toBits x
  have hmantissa := toNat_unpackMantissa_toBits x
  have hsign := ofBitVec_unpackSign x
  have hne : @unpackExponent Format.binary64 x.toBits.toBitVec ≠ -1#11 := by
    intro he
    rw [he] at hexponent
    change magnitude x < 0x7FF0000000000000 at hfinite
    change 2047 = _ at hexponent
    omega
  show (_ ∧ UnpackedFloat.unpack Format.binary64 x.toBits.toBitVec = _) ∨
    ∃ hpos, UnpackedFloat.unpack Format.binary64 x.toBits.toBitVec = _
  unfold UnpackedFloat.unpack
  dsimp only
  rw [if_neg hne, hsign, dyadic_binary64, ← hexponent, ← hmantissa]
  by_cases hzero : @unpackExponent Format.binary64 x.toBits.toBitVec = 0#11
  · rw [if_pos hzero, if_pos (by rw [hzero]; rfl)]
    by_cases hm : @unpackMantissa Format.binary64 x.toBits.toBitVec = 0#52
    · left
      rw [hm] at hmantissa
      rw [hzero] at hexponent
      change 0 = _ at hmantissa hexponent
      exact ⟨by omega, by rw [dif_pos hm]⟩
    · right
      rw [dif_neg hm, hzero]
      exact ⟨Nat.pos_of_ne_zero fun he => hm (BitVec.eq_of_toNat_eq he), rfl⟩
  · right
    have hpos : (@unpackExponent Format.binary64 x.toBits.toBitVec).toNat ≠ 0 := by
      intro he
      exact hzero (BitVec.eq_of_toNat_eq he)
    have hleading := toNat_implicit (@unpackMantissa Format.binary64 x.toBits.toBitVec)
    rw [if_neg hzero, if_neg hpos]
    refine ⟨by simp only; omega, ?_⟩
    rw [UnpackedFloat.finite.injEq]
    refine ⟨rfl, ?_, ?_⟩
    · exact hleading.trans (Nat.add_comm _ _)
    · show ((@unpackExponent Format.binary64 x.toBits.toBitVec).toNat : ℤ) - (1023 + 52) =
        -1074 + ((@unpackExponent Format.binary64 x.toBits.toBitVec).toNat : ℤ) - 1
      ring

/-- Of two mantissas and exponents that belong to floats the exponents are compared first. -/
theorem Dyadic.IsFloat.compare_eq_lt {a b : Dyadic} (ha : a.IsFloat) (hb : b.IsFloat) :
    (compare a.exponent b.exponent).then (compare a.mantissa b.mantissa) = .lt ↔ a.value < b.value := by
  -- a float with a greater exponent has a full mantissa
  have hexponent : ∀ {a b : Dyadic}, a.IsFloat → b.IsFloat → a.exponent < b.exponent → a.value < b.value := by
    intro a b ha hb h
    have hfull : (2 : ℚ) ^ 52 ≤ b.mantissa := by
      exact_mod_cast hb.full.resolve_left (by have := ha.least; omega)
    have hlt : (a.mantissa : ℚ) < 2 ^ 53 := by exact_mod_cast ha.lt
    calc a.value < 2 ^ 53 * 2 ^ a.exponent := mul_lt_mul_of_pos_right hlt (by positivity)
      _ = 2 ^ 52 * 2 ^ (a.exponent + 1) := by
        rw [zpow_add_one₀ (by norm_num)]
        ring
      _ ≤ 2 ^ 52 * 2 ^ b.exponent := by
        gcongr
        · norm_num
        · exact h
      _ ≤ b.value := mul_le_mul_of_nonneg_right hfull (by positivity)
  rw [Ordering.then_eq_lt, Int.compare_eq_lt, Nat.compare_eq_lt, Int.compare_eq_eq]
  rcases lt_trichotomy a.exponent b.exponent with h | h | h
  · simp only [h, true_or, true_iff]
    exact hexponent ha hb h
  · have hp : (0 : ℚ) < 2 ^ b.exponent := by positivity
    simp only [h, lt_irrefl, true_and, false_or, Dyadic.value, mul_lt_mul_iff_left₀ hp, Nat.cast_lt]
  · simp only [h.not_gt, h.ne', false_and, or_false, false_iff, not_lt]
    exact (hexponent hb ha h).le

def storedValue : UnpackedFloat → ℚ
  | .finite .positive m e _ => Dyadic.value ⟨m, e⟩
  | .finite .negative m e _ => -Dyadic.value ⟨m, e⟩
  | _ => 0

def IsStored : UnpackedFloat → Prop
  | .finite _ m e _ => (⟨m, e⟩ : Dyadic).IsFloat
  | .zero _ => True
  | _ => False

theorem Dyadic.IsFloat.value_pos {a : Dyadic} (ha : a.IsFloat) : 0 < a.value := by
  have hpos : (0 : ℚ) < a.mantissa := by exact_mod_cast ha.pos
  exact mul_pos hpos (by positivity)

theorem compare_eq_lt {u v : UnpackedFloat} (hu : IsStored u) (hv : IsStored v) :
    u.compare v = some .lt ↔ storedValue u < storedValue v := by
  cases u with
  | notANumber => exact hu.elim
  | infinity s => exact hu.elim
  | zero s => cases v with
    | notANumber => exact hv.elim
    | infinity t => exact hv.elim
    | zero t => exact iff_of_false nofun (lt_irrefl _)
    | finite t m e h => cases t with
      | negative => exact iff_of_false nofun (neg_neg_of_pos hv.value_pos).not_gt
      | positive => exact iff_of_true rfl hv.value_pos
  | finite s m e h => cases v with
    | notANumber => exact hv.elim
    | infinity t => exact hv.elim
    | zero t => cases s with
      | negative => exact iff_of_true rfl (neg_neg_of_pos hu.value_pos)
      | positive => exact iff_of_false nofun hu.value_pos.not_gt
    | finite t m' e' h' => cases s with
      | negative => cases t with
        | negative =>
          show some ((compare e e').then (compare m m')).swap = some .lt ↔ -Dyadic.value ⟨m, e⟩ < -Dyadic.value ⟨m', e'⟩
          rw [neg_lt_neg_iff, ← hv.compare_eq_lt hu, Option.some_inj, Ordering.swap_then, Int.compare_swap,
            Nat.compare_swap]
        | positive => exact iff_of_true rfl ((neg_neg_of_pos hu.value_pos).trans hv.value_pos)
      | positive => cases t with
        | negative => exact iff_of_false nofun ((neg_neg_of_pos hv.value_pos).trans hu.value_pos).not_gt
        | positive =>
          show some ((compare e e').then (compare m m')) = some .lt ↔ _
          rw [Option.some_inj]
          exact hu.compare_eq_lt hv

theorem binary64_value_zero : binary64.value 0 = 0 := by
  rw [BinaryFormat.value_subnormal _ (Nat.two_pow_pos _), Nat.cast_zero, zero_mul]

theorem stored_unpack (h : x.isFinite = true) :
    IsStored x.toModel.unpack ∧ storedValue x.toModel.unpack = exactValue x := by
  rcases unpack_cases h with ⟨hzero, hunpack⟩ | ⟨hpos, hunpack⟩
  · rw [hunpack, exactValue, hzero, binary64_value_zero, neg_zero, ite_self]
    exact ⟨trivial, rfl⟩
  · rw [hunpack, exactValue, sign]
    have hfloat : (binary64.dyadic (magnitude x)).IsFloat := by
      refine isFloat_dyadic (Nat.pos_of_ne_zero fun hzero => ?_) ((isFinite_iff x).mp h)
      rw [hzero] at hpos
      exact absurd hpos (by decide)
    refine ⟨hfloat, ?_⟩
    cases isNegative x with
    | true => rfl
    | false => rfl

theorem lt_iff_exactValue (hx : x.isFinite = true) (hy : y.isFinite = true) :
    x < y ↔ exactValue x < exactValue y := by
  obtain ⟨hsx, hvx⟩ := stored_unpack hx
  obtain ⟨hsy, hvy⟩ := stored_unpack hy
  rw [← hvx, ← hvy, ← compare_eq_lt hsx hsy]
  show decide ((x.toModel.unpack.compare y.toModel.unpack == some .lt) = true) = true ↔ _
  rw [decide_eq_true_iff, beq_iff_eq]

theorem toNat_toBits_ofMagnitude (negative : Bool) (h : n < binary64.infinity) :
    (ofMagnitude negative n).toBits.toNat = if negative then n + 2 ^ 63 else n := by
  have hn : n < 0x7FF0000000000000 := h
  have hb : (UInt64.ofNat (if negative then n + 2 ^ 63 else n)).toNat = if negative then n + 2 ^ 63 else n := by
    refine UInt64.toNat_ofNat_of_lt' ?_
    show _ < 2 ^ 64
    split <;> omega
  rw [← hb, ofMagnitude]
  generalize UInt64.ofNat (if negative then n + 2 ^ 63 else n) = b at hb
  have hvalid : Format.binary64.Valid b.toBitVec := by
    refine ⟨fun he => absurd (congrArg BitVec.toNat he) ?_⟩
    rw [toNat_unpackExponent]
    show b.toNat / 2 ^ 52 % 2 ^ 11 ≠ 2047
    split at hb <;> omega
  show (UnpackedFloat.pack Format.binary64 (UnpackedFloat.unpack Format.binary64 b.toBitVec)).toNat = _
  rw [pack_unpack hvalid]
  rfl

theorem isNegative_ofMagnitude (negative : Bool) (h : n < binary64.infinity) :
    isNegative (ofMagnitude negative n) = negative := by
  have hn : n < 0x7FF0000000000000 := h
  rw [isNegative, toNat_toBits_ofMagnitude negative h]
  cases negative with
  | true => exact decide_eq_true (Nat.le_add_left _ _)
  | false => exact decide_eq_false (by simp only [Bool.false_eq_true, if_false]; omega)

theorem magnitude_ofMagnitude (negative : Bool) (h : n < binary64.infinity) :
    magnitude (ofMagnitude negative n) = n := by
  have hn : n < 0x7FF0000000000000 := h
  rw [magnitude, toNat_toBits_ofMagnitude negative h]
  split <;> omega

/-- An operation that acts on the sign alone, as the sign bit is changed. -/
theorem ofModel_resign {g : UnpackedFloat → UnpackedFloat} {negative : Bool}
    (hzero : g (.zero (sign x)) = .zero (if negative then .negative else .positive))
    (hpositive : ∀ m e hm, g (.finite (sign x) m e hm) = .finite (if negative then .negative else .positive) m e hm)
    (h : x.isFinite = true) : Float.ofModel (.pack (g x.toModel.unpack)) = ofMagnitude negative (magnitude x) := by
  have hlt := (isFinite_iff x).mp h
  have hmagnitude := magnitude_ofMagnitude negative hlt
  have hsign : sign (ofMagnitude negative (magnitude x)) = if negative then .negative else .positive := by
    rw [sign, isNegative_ofMagnitude negative hlt]
  have hfinite : (ofMagnitude negative (magnitude x)).isFinite = true := (isFinite_iff _).mpr (by rwa [hmagnitude])
  have hunpack : g x.toModel.unpack = (ofMagnitude negative (magnitude x)).toModel.unpack := by
    have hcases := unpack_cases hfinite
    rw [hmagnitude, hsign] at hcases
    rcases unpack_cases h with ⟨hz, hunpack⟩ | ⟨hpos, hunpack⟩
    · rcases hcases with ⟨-, hunpack'⟩ | ⟨hpos, -⟩
      · rw [hunpack, hzero, hunpack']
      · rw [hz] at hpos
        exact absurd hpos (by decide)
    · rcases hcases with ⟨hz, -⟩ | ⟨_, hunpack'⟩
      · rw [hz] at hpos
        exact absurd hpos (by decide)
      · rw [hunpack, hpositive, hunpack']
  rw [hunpack]
  exact ofBits_toBits _

theorem abs_eq (h : x.isFinite = true) : x.abs = ofMagnitude false (magnitude x) :=
  ofModel_resign rfl (fun _ _ _ => rfl) h

theorem neg_eq (h : x.isFinite = true) : -x = ofMagnitude (!isNegative x) (magnitude x) := by
  have hsign : -sign x = if !isNegative x then .negative else .positive := by
    unfold sign
    cases isNegative x with
    | true => rfl
    | false => rfl
  exact ofModel_resign (g := UnpackedFloat.neg) (congrArg _ hsign) (fun m e hm => by rw [← hsign]; rfl) h

theorem binary64_value_nonneg (n : ℕ) : 0 ≤ binary64.value n := mul_nonneg (Nat.cast_nonneg _) (by positivity)

theorem exactValue_abs (h : x.isFinite = true) : x.abs.isFinite = true ∧ exactValue x.abs = |exactValue x| := by
  have hlt := (isFinite_iff x).mp h
  have hmagnitude := magnitude_ofMagnitude false hlt
  have hvalue : |exactValue x| = binary64.value (magnitude x) := by
    unfold exactValue
    split
    · rw [abs_neg, abs_of_nonneg (binary64_value_nonneg _)]
    · rw [abs_of_nonneg (binary64_value_nonneg _)]
  rw [abs_eq h, isFinite_iff, hmagnitude, hvalue, exactValue, isNegative_ofMagnitude false hlt, hmagnitude]
  exact ⟨hlt, rfl⟩

end PromptCad.Decimal
