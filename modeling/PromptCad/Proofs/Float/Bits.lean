import Mathlib.Algebra.Group.Nat.Defs
import PromptCad.Decimal.Binary

/-! Floats and their bit patterns. The sign, the exponent field and the mantissa field of a pattern are parts of it as
a number; a float is determined by its sign and magnitude; and a finite one is a magnitude below that of infinity. -/

namespace PromptCad.Decimal

open Float.Model Float.Model.UnpackedFloat

/-- A pattern of 64 bits in the sense of the packed format. -/
abbrev Pattern := BitVec Format.binary64.numBits

theorem toNat_unpackMantissa (b : Pattern) : (unpackMantissa b).toNat = b.toNat % 2 ^ 52 := by
  simp [unpackMantissa]

theorem toNat_unpackExponent (b : Pattern) : (unpackExponent b).toNat = b.toNat / 2 ^ 52 % 2 ^ 11 := by
  simp [unpackExponent, Nat.shiftRight_eq_div_pow]

theorem toNat_unpackSign (b : Pattern) : (unpackSign b).toNat = b.toNat / 2 ^ 63 := by
  have h : b.toNat < 2 ^ 64 := b.isLt
  show (BitVec.cast _ (b.extractLsb 63 63)).toNat = _
  rw [BitVec.toNat_cast, BitVec.extractLsb_toNat, Nat.shiftRight_eq_div_pow, Nat.mod_eq_of_lt (by omega)]

theorem toNat_packComponents (s : Sign) (e : BitVec 11) (m : BitVec 52) :
    (packComponents Format.binary64 s e m).toNat = s.toBitVec.toNat * 2 ^ 63 + e.toNat * 2 ^ 52 + m.toNat := by
  have he : (s.toBitVec ++ e).toNat = s.toBitVec.toNat * 2 ^ 11 + e.toNat := by
    rw [BitVec.toNat_append, ← Nat.shiftLeft_add_eq_or_of_lt e.isLt, Nat.shiftLeft_eq]
  have hm : (s.toBitVec ++ e ++ m).toNat = (s.toBitVec ++ e).toNat * 2 ^ 52 + m.toNat := by
    rw [BitVec.toNat_append, ← Nat.shiftLeft_add_eq_or_of_lt m.isLt, Nat.shiftLeft_eq]
  show (s.toBitVec ++ e ++ m).toNat = _
  rw [hm, he]
  omega

theorem toBitVec_ofBitVec (b : BitVec 1) : (Sign.ofBitVec b).toBitVec = b := by
  have hall : ∀ b : BitVec 1, (Sign.ofBitVec b).toBitVec = b := by decide
  exact hall b

theorem packComponents_unpack (b : Pattern) :
    packComponents Format.binary64 (Sign.ofBitVec (unpackSign b)) (unpackExponent b) (unpackMantissa b) = b := by
  apply BitVec.eq_of_toNat_eq
  have h : b.toNat < 2 ^ 64 := b.isLt
  rw [toNat_packComponents, toBitVec_ofBitVec, toNat_unpackSign, toNat_unpackExponent, toNat_unpackMantissa]
  omega

/-- The mantissa of a normal number has its leading bit in front of the stored ones. -/
theorem toNat_implicit (m : BitVec 52) : (1#1 ++ m).toNat = 2 ^ 52 + m.toNat := by
  rw [BitVec.toNat_append, ← Nat.shiftLeft_add_eq_or_of_lt m.isLt, Nat.shiftLeft_eq]
  rfl

theorem pack_normal (s : Sign) {e : BitVec 11} {m : BitVec 52} (he : e ≠ -1#11) {k : Int}
    (hk : k = (e.toNat : Int) - 1075) (hpos : 0 < (1#1 ++ m).toNat) :
    UnpackedFloat.pack Format.binary64 (.finite s (1#1 ++ m).toNat k hpos) = packComponents Format.binary64 s e m := by
  have hm := toNat_implicit m
  have hlog : (1#1 ++ m).toNat.log2 = 52 := (Nat.log2_eq_iff (by omega)).mpr ⟨by omega, by omega⟩
  have hexp : (k + 1023 + 52).toNat = e.toNat := by omega
  have hlt : ¬ 2 ^ 11 ≤ e.toNat + 1 := by
    intro hle
    exact he (BitVec.eq_of_toNat_eq (by simp; omega))
  have hbits : BitVec.ofNat 52 (1#1 ++ m).toNat = m := BitVec.eq_of_toNat_eq (by simpa [hm] using m.isLt)
  change (if 2 ^ 11 ≤ (k + 1023 + 52).toNat + 1 then _ else if (1#1 ++ m).toNat.log2 + 1 = 53 then _ else _) = _
  rw [hexp, if_neg hlt, if_pos (by omega)]
  change packComponents Format.binary64 s (BitVec.ofNat 11 (k + 1023 + 52).toNat) (BitVec.ofNat 52 (1#1 ++ m).toNat) = _
  rw [hexp, hbits, BitVec.ofNat_toNat, BitVec.setWidth_eq]

theorem pack_subnormal (s : Sign) {m : BitVec 52} (hpos : 0 < m.toNat) :
    UnpackedFloat.pack Format.binary64 (.finite s m.toNat (-1074) hpos) = packComponents Format.binary64 s 0#11 m := by
  have hlog : m.toNat.log2 < 52 := (Nat.log2_lt (by omega)).mpr m.isLt
  change (if m.toNat.log2 + 1 = 53 then _ else packComponents Format.binary64 s 0#11 (BitVec.ofNat 52 m.toNat)) = _
  rw [if_neg (by omega), BitVec.ofNat_toNat, BitVec.setWidth_eq]

/-- Unpacking loses nothing of a pattern whose not-a-number is the usual one. -/
theorem pack_unpack {b : Pattern} (h : Format.binary64.Valid b) :
    UnpackedFloat.pack Format.binary64 (UnpackedFloat.unpack Format.binary64 b) = b := by
  have hparts := packComponents_unpack b
  unfold UnpackedFloat.unpack
  dsimp only
  by_cases he : unpackExponent b = -1#11
  · rw [he] at hparts
    rw [if_pos he]
    by_cases hm : unpackMantissa b = 0#52
    · rw [hm] at hparts
      rw [if_pos hm]
      exact hparts
    · rw [if_neg hm]
      exact (h.eq_packedNaN he hm).symm
  · rw [if_neg he]
    by_cases h0 : unpackExponent b = 0#11
    · rw [h0] at hparts
      rw [if_pos h0, h0]
      by_cases hm : unpackMantissa b = 0#52
      · rw [hm] at hparts
        rw [dif_pos hm]
        exact hparts
      · rw [dif_neg hm]
        exact (pack_subnormal _ _).trans hparts
    · rw [if_neg h0]
      exact (pack_normal _ he rfl _).trans hparts

theorem ofBits_toBits (x : Float) : Float.ofBits x.toBits = x := by
  obtain ⟨⟨bits, hvalid⟩⟩ := x
  show Float.ofModel (Float.Model.ofBits bits) = _
  congr 1
  show Float.Model.pack (UnpackedFloat.unpack Format.binary64 bits.toBitVec) = _
  exact (Float.Model.mk.injEq _ _ _ _).mpr (congrArg UInt64.ofBitVec (pack_unpack hvalid))

theorem isFinite_iff (x : Float) : x.isFinite = true ↔ magnitude x < binary64.infinity := by
  obtain ⟨⟨bits, hvalid⟩⟩ := x
  have he := toNat_unpackExponent bits.toBitVec
  show (UnpackedFloat.unpack Format.binary64 bits.toBitVec).isFinite = true ↔ bits.toNat % 2 ^ 63 < 0x7FF0000000000000
  have hexp : @unpackExponent Format.binary64 bits.toBitVec = -1#11 ↔ ¬ bits.toNat % 2 ^ 63 < 0x7FF0000000000000 := by
    rw [← BitVec.toNat_inj, he]
    show bits.toNat / 2 ^ 52 % 2 ^ 11 = 2047 ↔ _
    omega
  unfold UnpackedFloat.unpack
  dsimp only
  by_cases h : @unpackExponent Format.binary64 bits.toBitVec = -1#11
  · have hge := hexp.mp h
    rw [if_pos h]
    by_cases hm : @unpackMantissa Format.binary64 bits.toBitVec = 0#52
    · rw [if_pos hm]
      exact iff_of_false Bool.false_ne_true hge
    · rw [if_neg hm]
      exact iff_of_false Bool.false_ne_true hge
  · have hlt : bits.toNat % 2 ^ 63 < 0x7FF0000000000000 := Classical.not_not.mp (mt hexp.mpr h)
    rw [if_neg h]
    by_cases h0 : @unpackExponent Format.binary64 bits.toBitVec = 0#11
    · rw [if_pos h0]
      by_cases hm : @unpackMantissa Format.binary64 bits.toBitVec = 0#52
      · rw [dif_pos hm]
        exact iff_of_true rfl hlt
      · rw [dif_neg hm]
        exact iff_of_true rfl hlt
    · rw [if_neg h0]
      exact iff_of_true rfl hlt

/-- What is not a number has a magnitude past infinity. -/
theorem isNaN_eq_false {x : Float} (h : magnitude x ≤ binary64.infinity) : x.isNaN = false := by
  obtain ⟨⟨bits, hvalid⟩⟩ := x
  have he := toNat_unpackExponent bits.toBitVec
  have hm := toNat_unpackMantissa bits.toBitVec
  change bits.toNat % 2 ^ 63 ≤ 0x7FF0000000000000 at h
  change _ = bits.toNat / 2 ^ 52 % 2 ^ 11 at he
  change _ = bits.toNat % 2 ^ 52 at hm
  show (UnpackedFloat.unpack Format.binary64 bits.toBitVec).isNaN = false
  unfold UnpackedFloat.unpack
  dsimp only
  by_cases h1 : @unpackExponent Format.binary64 bits.toBitVec = -1#11
  · rw [h1] at he
    change 2047 = _ at he
    rw [if_pos h1, if_pos (BitVec.eq_of_toNat_eq (by rw [hm]; show _ = 0; omega))]
    rfl
  · rw [if_neg h1]
    by_cases h0 : @unpackExponent Format.binary64 bits.toBitVec = 0#11
    · rw [if_pos h0]
      by_cases hzero : @unpackMantissa Format.binary64 bits.toBitVec = 0#52
      · rw [dif_pos hzero]
        rfl
      · rw [dif_neg hzero]
        rfl
    · rw [if_neg h0]
      rfl

theorem ofMagnitude_magnitude (x : Float) : ofMagnitude (isNegative x) (magnitude x) = x := by
  have hlt := x.toBits.toNat_lt
  have hbits : (if isNegative x then magnitude x + 2 ^ 63 else magnitude x) = x.toBits.toNat := by
    unfold isNegative magnitude
    split
    · next h => simp only [decide_eq_true_eq] at h; omega
    · next h => simp only [decide_eq_true_eq] at h; omega
  rw [ofMagnitude, hbits, UInt64.ofNat_toNat, ofBits_toBits]

end PromptCad.Decimal
