import Mathlib.Data.Nat.Sqrt
import PromptCad.Proofs.Float.Rounding

/-! The operations on finite floats: each gives the float nearest to the sum, the difference, the product or the quotient
of the values. A square root is the nearest float to a number that lies among the powers of two as the root does. -/

namespace PromptCad.Decimal

open Float.Model Float.Model.UnpackedFloat

theorem BinaryFormat.rounds_value (f : BinaryFormat) {p : ℕ} (hp : p ≤ f.infinity) : f.Rounds (f.value p) p := by
  refine ⟨hp, fun k _ => ?_, fun k _ hne htie => ?_⟩
  · rw [sub_self, abs_zero]
    exact abs_nonneg _
  · rw [sub_self, abs_zero, abs_eq_zero, sub_eq_zero] at htie
    exact absurd (f.value_strictMono.injective htie) hne

theorem storedValue_finite (s : Sign) {m : ℕ} {e : ℤ} (h : 0 < m) :
    storedValue (.finite s m e h) = withSign s (m * 2 ^ e) := by
  cases s <;> rfl

theorem storedValue_zero (s : Sign) : storedValue (.zero s) = withSign s 0 := by
  cases s with
  | positive => rfl
  | negative => exact neg_zero.symm

theorem nearest_stored {u : UnpackedFloat} (hu : IsStored u) : Nearest (ofStored u) (storedValue u) := by
  cases u with
  | notANumber => exact hu.elim
  | infinity s => exact hu.elim
  | zero s =>
    rw [storedValue_zero]
    exact nearest_of_toNat ((toNat_packedZero s).trans (Nat.add_zero _).symm) le_rfl BinaryFormat.rounds_zero
  | finite s m e hpos =>
    have hlt : m < 2 ^ 53 := hu.lt
    have hle : e ≤ 971 := hu.greatest
    have hge : -1074 ≤ e := hu.least
    have hfull : e = -1074 ∨ 2 ^ 52 ≤ m := hu.full
    obtain ⟨k, hk⟩ := Int.eq_ofNat_of_zero_le (a := e + 1074) (by omega)
    obtain rfl : e = -1074 + k := by omega
    replace hfull : k = 0 ∨ 2 ^ 52 ≤ m := hfull.imp_left fun h => by omega
    have hfits : k * 2 ^ 52 + m ≤ binary64.infinity := by
      show _ ≤ 0x7FF0000000000000
      omega
    have hbits := toNat_pack_finite s hpos hlt hfull
    have hrounds := binary64.rounds_value hfits
    rw [Nat.min_eq_left hfits] at hbits
    rw [binary64_value hlt.le hfull] at hrounds
    rw [storedValue_finite]
    exact nearest_of_toNat hbits (by positivity) hrounds

theorem totalExponent_shiftLeft {m : ℕ} (hm : 0 < m) (e : ℤ) (d : ℕ) :
    totalExponent (m <<< d) (e - d) = totalExponent m e := by
  have hlog : (m <<< d).log2 = m.log2 + d := by
    rw [Nat.shiftLeft_eq, Nat.log2_eq_iff (by positivity), Nat.add_right_comm, Nat.pow_add, Nat.pow_add]
    exact ⟨Nat.mul_le_mul_right _ (Nat.log2_self_le hm.ne'), Nat.mul_lt_mul_of_pos_right Nat.lt_log2_self (by positivity)⟩
  rw [totalExponent, totalExponent, hlog]
  push_cast
  ring

theorem tells_exact (m : ℕ) : Tells (.ofMantissaAndAccuracy m .exact) m := rfl

theorem nearest_round (s : Sign) {m : ℕ} (hm : 0 < m) (e : ℤ) :
    Nearest (ofStored (round Format.binary64 s m e)) (withSign s (m * 2 ^ e)) := by
  generalize hd : (e - Format.binary64.targetExponent (totalExponent m e)).toNat = d
  have hround : round Format.binary64 s m e = roundWithAccuracy Format.binary64 s (m <<< d) (e - d) .exact := by
    rw [← hd]
    rfl
  have hle : e - d ≤ Format.binary64.targetExponent (totalExponent (m <<< d) (e - d)) := by
    rw [totalExponent_shiftLeft hm]
    omega
  have hvalue : ((m <<< d : ℕ) : ℚ) * 2 ^ (e - d) = m * 2 ^ e := by
    rw [Nat.shiftLeft_eq, zpow_sub₀ (by norm_num), zpow_natCast]
    push_cast
    field_simp
  rw [hround, ← hvalue]
  exact nearest_roundWithAccuracy s hle (tells_exact _)

theorem nearest_normalize (m e : ℤ) :
    Nearest (ofStored (UnpackedFloat.normalize Format.binary64 m e .positive)) (m * 2 ^ e) := by
  unfold UnpackedFloat.normalize
  split
  · next h =>
    have hlt : m < 0 := Int.compare_eq_lt.mp h
    have hvalue : (m : ℚ) * 2 ^ e = withSign .negative ((-m).toNat * 2 ^ e) := by
      have hcast : ((-m).toNat : ℚ) = -m := by exact_mod_cast Int.toNat_of_nonneg (by omega : 0 ≤ -m)
      rw [withSign, hcast]
      ring
    rw [hvalue]
    exact nearest_round .negative (by omega) e
  · next h =>
    rw [Int.compare_eq_eq.mp h, Int.cast_zero, zero_mul]
    exact nearest_stored (u := .zero .positive) trivial
  · next h =>
    have hlt : 0 < m := Int.compare_eq_gt.mp h
    have hvalue : (m : ℚ) * 2 ^ e = withSign .positive (m.toNat * 2 ^ e) := by
      have hcast : (m.toNat : ℚ) = m := by exact_mod_cast Int.toNat_of_nonneg hlt.le
      rw [withSign, hcast]
    rw [hvalue]
    exact nearest_round .positive (by omega) e

theorem apply_decreaseExponent (s : Sign) (m : ℕ) {e t : ℤ} (h : t ≤ e) :
    (s.apply (decreaseExponent m e t).1 : ℚ) * 2 ^ t = withSign s (m * 2 ^ e) := by
  obtain ⟨d, hd⟩ := Int.eq_ofNat_of_zero_le (Int.sub_nonneg.mpr h)
  have hvalue : ((m <<< d : ℕ) : ℚ) * 2 ^ t = m * 2 ^ e := by
    have hsum : e = t + d := by omega
    rw [hsum, Nat.shiftLeft_eq, zpow_add₀ (by norm_num), zpow_natCast]
    push_cast
    ring
  rw [decreaseExponent, hd, Int.toNat_natCast]
  cases s with
  | positive => exact hvalue
  | negative =>
    show ((-(m <<< d : ℕ) : ℤ) : ℚ) * 2 ^ t = -(m * 2 ^ e)
    rw [← hvalue, Int.cast_neg, Int.cast_natCast, neg_mul]

theorem nearest_add_stored {u v : UnpackedFloat} (hu : IsStored u) (hv : IsStored v) :
    Nearest (ofStored (UnpackedFloat.add Format.binary64 u v)) (storedValue u + storedValue v) := by
  cases u with
  | notANumber => exact hu.elim
  | infinity s => exact hu.elim
  | zero s => cases v with
    | notANumber => exact hv.elim
    | infinity t => exact hv.elim
    | zero t =>
      have hsum : storedValue (.zero s) + storedValue (.zero t) = 0 := add_zero 0
      rw [hsum]
      unfold UnpackedFloat.add
      dsimp only
      split
      · exact nearest_stored (u := .zero s) trivial
      · exact nearest_stored (u := .zero .positive) trivial
    | finite t n f hn =>
      have hsum : storedValue (.zero s) + storedValue (.finite t n f hn) = storedValue (.finite t n f hn) := zero_add _
      rw [hsum]
      exact nearest_stored hv
  | finite s m e hm => cases v with
    | notANumber => exact hv.elim
    | infinity t => exact hv.elim
    | zero t =>
      have hsum : storedValue (.finite s m e hm) + storedValue (.zero t) = storedValue (.finite s m e hm) := add_zero _
      rw [hsum]
      exact nearest_stored hu
    | finite t n f hn =>
      have hsum : storedValue (.finite s m e hm) + storedValue (.finite t n f hn) =
          (s.apply (decreaseExponent m e (min e f)).1 + t.apply (decreaseExponent n f (min e f)).1 : ℤ) *
            2 ^ min e f := by
        rw [storedValue_finite, storedValue_finite, ← apply_decreaseExponent s m (min_le_left e f),
          ← apply_decreaseExponent t n (min_le_right e f)]
        push_cast
        ring
      rw [hsum]
      exact nearest_normalize _ _

/-- A difference is a sum with the second number negated, signs of zeros included. -/
theorem sub_eq_add_negated (u v : UnpackedFloat) :
    UnpackedFloat.sub Format.binary64 u v = UnpackedFloat.add Format.binary64 u v.neg := by
  cases u with
  | notANumber => cases v <;> rfl
  | infinity s => cases v <;> rfl
  | zero s => cases v <;> rfl
  | finite s m e hm => cases v with
    | notANumber => rfl
    | infinity t => rfl
    | zero t => rfl
    | finite t n f hn =>
      have hneg : -t.apply (decreaseExponent n f (min e f)).1 = (-t).apply (decreaseExponent n f (min e f)).1 := by
        cases t with
        | negative => exact neg_neg _
        | positive => rfl
      show UnpackedFloat.normalize _
          (s.apply (decreaseExponent m e (min e f)).1 - t.apply (decreaseExponent n f (min e f)).1) _ _ =
        UnpackedFloat.normalize _
          (s.apply (decreaseExponent m e (min e f)).1 + (-t).apply (decreaseExponent n f (min e f)).1) _ _
      rw [sub_eq_add_neg, hneg]

theorem stored_neg {u : UnpackedFloat} (hu : IsStored u) : IsStored u.neg ∧ storedValue u.neg = -storedValue u := by
  cases u with
  | notANumber => exact hu.elim
  | infinity s => exact hu.elim
  | zero s => exact ⟨trivial, neg_zero.symm⟩
  | finite s m e hm =>
    refine ⟨hu, ?_⟩
    cases s with
    | negative => exact (neg_neg _).symm
    | positive => rfl

theorem nearest_sub_stored {u v : UnpackedFloat} (hu : IsStored u) (hv : IsStored v) :
    Nearest (ofStored (UnpackedFloat.sub Format.binary64 u v)) (storedValue u - storedValue v) := by
  obtain ⟨hneg, hvalue⟩ := stored_neg hv
  rw [sub_eq_add_negated, sub_eq_add_neg, ← hvalue]
  exact nearest_add_stored hu hneg

theorem withSign_mul (s t : Sign) (v w : ℚ) : withSign (s * t) (v * w) = withSign s v * withSign t w := by
  cases s with
  | negative => cases t with
    | negative => exact (neg_mul_neg v w).symm
    | positive => exact (neg_mul v w).symm
  | positive => cases t with
    | negative => exact (mul_neg v w).symm
    | positive => rfl

theorem withSign_div (s t : Sign) (v w : ℚ) : withSign (s / t) (v / w) = withSign s v / withSign t w := by
  cases s with
  | negative => cases t with
    | negative => exact (neg_div_neg_eq v w).symm
    | positive => exact (neg_div w v).symm
  | positive => cases t with
    | negative => exact (div_neg v).symm
    | positive => rfl

/-- The product of two mantissas is long enough, unless both floats are among the least. -/
theorem add_le_targetExponent {m n : ℕ} {e f : ℤ} (hm : (⟨m, e⟩ : Dyadic).IsFloat) (hn : (⟨n, f⟩ : Dyadic).IsFloat) :
    e + f ≤ Format.binary64.targetExponent (totalExponent (m * n) (e + f)) := by
  have hmpos : 0 < m := hm.pos
  have hnpos : 0 < n := hn.pos
  rw [targetExponent_binary64, totalExponent]
  by_cases hlong : 2 ^ 52 ≤ m * n
  · have hlog := (Nat.le_log2 (Nat.mul_pos hmpos hnpos).ne').mpr hlong
    omega
  · have he : e = -1074 := hm.full.resolve_right fun h => hlong (h.trans (Nat.le_mul_of_pos_right m hnpos))
    have hf : f = -1074 := hn.full.resolve_right fun h => hlong (h.trans (Nat.le_mul_of_pos_left n hmpos))
    omega

theorem nearest_zero (s : Sign) : Nearest (ofStored (.zero s)) 0 := nearest_stored (u := .zero s) trivial

theorem nearest_mul_stored {u v : UnpackedFloat} (hu : IsStored u) (hv : IsStored v) :
    Nearest (ofStored (UnpackedFloat.mul Format.binary64 u v)) (storedValue u * storedValue v) := by
  cases u with
  | notANumber => exact hu.elim
  | infinity s => exact hu.elim
  | zero s =>
    have hproduct : storedValue (.zero s) * storedValue v = 0 := zero_mul _
    rw [hproduct]
    cases v with
    | notANumber => exact hv.elim
    | infinity t => exact hv.elim
    | zero t => exact nearest_zero (s * t)
    | finite t n f hn => exact nearest_zero (s * t)
  | finite s m e hm => cases v with
    | notANumber => exact hv.elim
    | infinity t => exact hv.elim
    | zero t =>
      have hproduct : storedValue (.finite s m e hm) * storedValue (.zero t) = 0 := mul_zero _
      rw [hproduct]
      exact nearest_zero (s * t)
    | finite t n f hn =>
      have hproduct : storedValue (.finite s m e hm) * storedValue (.finite t n f hn) =
          withSign (s * t) ((m * n : ℕ) * 2 ^ (e + f)) := by
        rw [storedValue_finite, storedValue_finite, ← withSign_mul, zpow_add₀ (by norm_num)]
        push_cast
        congr 1
        ring
      rw [hproduct]
      exact nearest_roundWithAccuracy (s * t) (add_le_targetExponent hu hv) (tells_exact _)

theorem tells_div (num : ℕ) {den : ℕ} (h : 0 < den) :
    Tells (.ofMantissaAndAccuracy (num / den) (accuracyOfFraction (num % den) den)) (num / den) := by
  have hden : (0 : ℚ) < den := by exact_mod_cast h
  have hsum : (den : ℚ) * (num / den : ℕ) + (num % den : ℕ) = num := by exact_mod_cast Nat.div_add_mod num den
  have hlt : ((num % den : ℕ) : ℚ) < den := by exact_mod_cast Nat.mod_lt num h
  have hvalue : (num : ℚ) / den = (num / den : ℕ) + (num % den : ℕ) / den := by
    rw [← hsum]
    field_simp
  rw [hvalue]
  generalize num / den = q
  generalize num % den = r at hlt
  unfold accuracyOfFraction
  split
  · next hzero =>
    rw [hzero, Nat.cast_zero, zero_div, add_zero]
    exact tells_exact q
  · next hne =>
    have hpos : (0 : ℚ) < r := by exact_mod_cast Nat.pos_of_ne_zero hne
    cases hcompare : compare (2 * r) den with
    | lt =>
      have hhalf : (2 : ℚ) * r < den := by exact_mod_cast Nat.compare_eq_lt.mp hcompare
      show (q : ℚ) < _ ∧ _ < (q : ℚ) + 1 / 2
      rw [lt_add_iff_pos_right, add_lt_add_iff_left, div_lt_iff₀ hden]
      exact ⟨by positivity, by linarith⟩
    | eq =>
      have hhalf : (2 : ℚ) * r = den := by exact_mod_cast Nat.compare_eq_eq.mp hcompare
      show _ = (q : ℚ) + 1 / 2
      rw [add_right_inj, div_eq_iff hden.ne']
      linarith
    | gt =>
      have hhalf : (den : ℚ) < 2 * r := by exact_mod_cast Nat.compare_eq_gt.mp hcompare
      show (q : ℚ) + 1 / 2 < _ ∧ _ < (q : ℚ) + 1
      rw [add_lt_add_iff_left, add_lt_add_iff_left, lt_div_iff₀ hden, div_lt_iff₀ hden]
      constructor <;> linarith

theorem le_targetExponent_div {m n : ℕ} {e f t : ℤ} {d : ℕ} (hm : 0 < m) (hn : 0 < n)
    (ht : t ≤ Format.binary64.targetExponent (totalExponent m e - totalExponent n f)) (hd : e - f - t = d) :
    t ≤ Format.binary64.targetExponent (totalExponent (m * 2 ^ d / n) t) := by
  rw [targetExponent_binary64] at ht ⊢
  unfold totalExponent at ht ⊢
  have hmlog := Nat.log2_self_le hm.ne'
  have hnlog : n < 2 ^ (n.log2 + 1) := Nat.lt_log2_self
  rcases Nat.lt_or_ge (m.log2 + d) (n.log2 + 1) with hshort | hlong
  · omega
  · obtain ⟨l, hl⟩ := Nat.exists_eq_add_of_le hlong
    -- the quotient is at least that of the powers of two
    have hquotient : 2 ^ l ≤ m * 2 ^ d / n := by
      rw [Nat.le_div_iff_mul_le hn]
      calc 2 ^ l * n ≤ 2 ^ l * 2 ^ (n.log2 + 1) := Nat.mul_le_mul_left _ hnlog.le
        _ = 2 ^ m.log2 * 2 ^ d := by rw [← Nat.pow_add, ← Nat.pow_add, Nat.add_comm l, hl]
        _ ≤ m * 2 ^ d := Nat.mul_le_mul_right _ hmlog
    have hlog := (Nat.le_log2 (Nat.lt_of_lt_of_le (Nat.two_pow_pos l) hquotient).ne').mpr hquotient
    omega

theorem nearest_div_stored {u v : UnpackedFloat} (hu : IsStored u) (hv : IsStored v) (hne : storedValue v ≠ 0) :
    Nearest (ofStored (UnpackedFloat.div Format.binary64 u v)) (storedValue u / storedValue v) := by
  cases v with
  | notANumber => exact hv.elim
  | infinity t => exact hv.elim
  | zero t => exact absurd rfl hne
  | finite t n f hn => cases u with
    | notANumber => exact hu.elim
    | infinity s => exact hu.elim
    | zero s =>
      have hquotient : storedValue (.zero s) / storedValue (.finite t n f hn) = 0 := zero_div _
      rw [hquotient]
      exact nearest_zero (s / t)
    | finite s m e hm =>
      generalize hg : min (e - f) (Format.binary64.targetExponent (totalExponent m e - totalExponent n f)) = g
      obtain ⟨d, hd⟩ := Int.eq_ofNat_of_zero_le (a := e - f - g) (by omega)
      have hdiv : UnpackedFloat.div Format.binary64 (.finite s m e hm) (.finite t n f hn) =
          roundWithAccuracy Format.binary64 (s / t) (m * 2 ^ d / n) g
            (accuracyOfFraction (m * 2 ^ d % n) n) := by
        have hcore : divCore Format.binary64 m e n f =
            (m * 2 ^ d / n, g, accuracyOfFraction (m * 2 ^ d % n) n) := by
          rw [divCore, hg, hd, Int.toNat_natCast, Nat.shiftLeft_eq]
        show roundWithAccuracy Format.binary64 (s / t) (divCore Format.binary64 m e n f).1
          (divCore Format.binary64 m e n f).2.1 (divCore Format.binary64 m e n f).2.2 = _
        rw [hcore]
      have hquotient : storedValue (.finite s m e hm) / storedValue (.finite t n f hn) =
          withSign (s / t) ((m * 2 ^ d : ℕ) / n * 2 ^ g) := by
        have hexponent : (2 : ℚ) ^ e = 2 ^ d * 2 ^ g * 2 ^ f := by
          rw [← zpow_natCast, ← zpow_add₀ (by norm_num), ← zpow_add₀ (by norm_num)]
          congr 1
          omega
        have hn' : (n : ℚ) ≠ 0 := by exact_mod_cast hn.ne'
        rw [storedValue_finite, storedValue_finite, ← withSign_div, hexponent]
        congr 1
        push_cast
        field_simp
      rw [hdiv, hquotient]
      exact nearest_roundWithAccuracy (s / t) (le_targetExponent_div hm hn (by omega) hd) (tells_div _ hn)

/-- A number that lies among the natural numbers and their middles where the square root of `n` does. -/
def rootLike (n : ℕ) : ℚ :=
  if n = n.sqrt * n.sqrt then n.sqrt else if n - n.sqrt * n.sqrt ≤ n.sqrt then n.sqrt + 1 / 4 else n.sqrt + 3 / 4

theorem rootLike_bounds (n : ℕ) : n.sqrt ≤ rootLike n ∧ rootLike n < n.sqrt + 1 := by
  unfold rootLike
  split
  · constructor <;> linarith
  · split <;> constructor <;> linarith

theorem le_rootLike {j n : ℕ} : (j : ℚ) ≤ rootLike n ↔ j * j ≤ n := by
  obtain ⟨hlow, hhigh⟩ := rootLike_bounds n
  rw [← Nat.le_sqrt]
  constructor
  · intro h
    have hlt : (j : ℚ) < (n.sqrt + 1 : ℕ) := by
      push_cast
      linarith
    exact Nat.lt_succ_iff.mp (by exact_mod_cast hlt)
  · intro h
    have hle : (j : ℚ) ≤ n.sqrt := by exact_mod_cast h
    linarith

theorem rootLike_le {j n : ℕ} : rootLike n ≤ j ↔ n ≤ j * j := by
  by_cases hsquare : n = n.sqrt * n.sqrt
  · have hroot : rootLike n = n.sqrt := if_pos hsquare
    rw [hroot, Nat.cast_le, ← Nat.mul_self_le_mul_self_iff, ← hsquare]
  · have hlt : (n.sqrt : ℚ) < rootLike n := by
      rw [rootLike, if_neg hsquare]
      split <;> linarith
    have hhigh := (rootLike_bounds n).2
    constructor
    · intro h
      have hroot : n.sqrt < j := by exact_mod_cast hlt.trans_le h
      exact (Nat.lt_succ_sqrt n).le.trans (Nat.mul_self_le_mul_self hroot)
    · intro h
      have hroot : n.sqrt < j := by
        by_contra hc
        have hle := Nat.mul_self_le_mul_self (Nat.not_lt.mp hc)
        exact hsquare (Nat.le_antisymm (h.trans hle) (Nat.sqrt_le n))
      have hle : (n.sqrt : ℚ) + 1 ≤ j := by exact_mod_cast hroot
      linarith

theorem tells_sqrt (n : ℕ) :
    Tells (.ofMantissaAndAccuracy n.sqrt (if n - n.sqrt * n.sqrt = 0 then .exact
      else .inexact (if n - n.sqrt * n.sqrt ≤ n.sqrt then .lt else .gt))) (rootLike n) := by
  have hle := Nat.sqrt_le n
  have hiff : n - n.sqrt * n.sqrt = 0 ↔ n = n.sqrt * n.sqrt := by omega
  simp only [hiff, rootLike]
  split
  · exact tells_exact _
  · split
    · show (n.sqrt : ℚ) < _ ∧ _ < (n.sqrt : ℚ) + 1 / 2
      constructor <;> linarith
    · show (n.sqrt : ℚ) + 1 / 2 < _ ∧ _ < (n.sqrt : ℚ) + 1
      constructor <;> linarith

/-- A number that is the square root of another up to its last bits, and lies among the powers of two just as the root
does. -/
structure NearRoot (v r : ℚ) : Prop where
  nonneg : 0 ≤ r
  square : |r * r - v| ≤ v / 2 ^ 50
  zpow_le : ∀ k : ℤ, 2 ^ k ≤ r ↔ 2 ^ (2 * k) ≤ v
  le_zpow : ∀ k : ℤ, r ≤ 2 ^ k ↔ v ≤ 2 ^ (2 * k)

theorem nearRoot_zero : NearRoot 0 0 where
  nonneg := le_rfl
  square := by norm_num
  zpow_le k := iff_of_false (not_le.mpr (by positivity)) (not_le.mpr (by positivity))
  le_zpow k := iff_of_true (by positivity) (by positivity)

/-- Of a root that is so long, what it leaves over is a small part. -/
theorem abs_rootLike_mul_self_sub {n : ℕ} (hfull : 2 ^ 52 ≤ n.sqrt) : |rootLike n * rootLike n - n| ≤ n / 2 ^ 50 := by
  obtain ⟨hlow, hhigh⟩ := rootLike_bounds n
  have hroot : (2 : ℚ) ^ 52 ≤ n.sqrt := by exact_mod_cast hfull
  have hle : (n.sqrt : ℚ) * n.sqrt ≤ n := by exact_mod_cast Nat.sqrt_le n
  have hlt : (n : ℚ) < (n.sqrt + 1) * (n.sqrt + 1) := by exact_mod_cast Nat.lt_succ_sqrt n
  have hpart : 4 * (n.sqrt : ℚ) ≤ n / 2 ^ 50 := by
    rw [le_div_iff₀ (by positivity)]
    nlinarith
  have hsquare : (n.sqrt : ℚ) * n.sqrt ≤ rootLike n * rootLike n :=
    mul_self_le_mul_self (Nat.cast_nonneg _) hlow
  have hsquare' : rootLike n * rootLike n ≤ (n.sqrt + 1) * (n.sqrt + 1) :=
    mul_self_le_mul_self ((Nat.cast_nonneg _).trans hlow) hhigh.le
  rw [abs_le]
  constructor <;> linarith

/-- A power of two is told from the root as its square is told from the number. -/
theorem zpow_rootLike_iff {n : ℕ} (hone : (1 : ℚ) ≤ rootLike n) (t k : ℤ) :
    ((2 : ℚ) ^ k ≤ rootLike n * 2 ^ t ↔ (2 : ℚ) ^ (2 * k) ≤ n * 2 ^ (2 * t)) ∧
      (rootLike n * 2 ^ t ≤ 2 ^ k ↔ n * (2 : ℚ) ^ (2 * t) ≤ 2 ^ (2 * k)) := by
  have hunit : (0 : ℚ) < 2 ^ t := by positivity
  rcases le_or_gt t k with hle | hgt
  · -- a power of two that is a multiple of the unit
    obtain ⟨j, rfl⟩ := Int.le.dest hle
    have hpower : (2 : ℚ) ^ (t + (j : ℤ)) = (2 ^ j : ℕ) * 2 ^ t := by
      rw [zpow_add₀ (by norm_num), zpow_natCast]
      push_cast
      ring
    have hsquare : (2 : ℚ) ^ (2 * (t + (j : ℤ))) = (2 ^ j * 2 ^ j : ℕ) * 2 ^ (2 * t) := by
      rw [mul_add, zpow_add₀ (by norm_num), two_mul (j : ℤ), zpow_add₀ (by norm_num), zpow_natCast]
      push_cast
      ring
    rw [hpower, hsquare, mul_le_mul_iff_left₀ hunit, mul_le_mul_iff_left₀ hunit, mul_le_mul_iff_left₀ (by positivity),
      mul_le_mul_iff_left₀ (by positivity), Nat.cast_le, Nat.cast_le]
    exact ⟨le_rootLike, rootLike_le⟩
  · -- both the root and the unit are greater
    have hroot : (2 : ℚ) ^ k < rootLike n * 2 ^ t :=
      (zpow_lt_zpow_right₀ (by norm_num) hgt).trans_le (le_mul_of_one_le_left hunit.le hone)
    have hsquare : (2 : ℚ) ^ (2 * k) < n * 2 ^ (2 * t) := by
      have hpos : 1 * 1 ≤ n := le_rootLike.mp (by exact_mod_cast hone)
      have hpos' : (1 : ℚ) ≤ n := by exact_mod_cast hpos
      exact (zpow_lt_zpow_right₀ (by norm_num) (by omega)).trans_le (le_mul_of_one_le_left (by positivity) hpos')
    exact ⟨iff_of_true hroot.le hsquare.le, iff_of_false hroot.not_ge hsquare.not_ge⟩

theorem nearRoot_rootLike {n : ℕ} (hfull : 2 ^ 52 ≤ n.sqrt) (t : ℤ) :
    NearRoot (n * 2 ^ (2 * t)) (rootLike n * 2 ^ t) := by
  have hone : (1 : ℚ) ≤ rootLike n := by
    have hpos : 1 ≤ n.sqrt := le_trans (by norm_num) hfull
    exact le_trans (by exact_mod_cast hpos) (rootLike_bounds n).1
  refine ⟨by positivity, ?_, fun k => (zpow_rootLike_iff hone t k).1, fun k => (zpow_rootLike_iff hone t k).2⟩
  have hsquare : rootLike n * 2 ^ t * (rootLike n * 2 ^ t) - n * 2 ^ (2 * t) =
      (rootLike n * rootLike n - n) * 2 ^ (2 * t) := by
    rw [two_mul, zpow_add₀ (by norm_num)]
    ring
  have hunits : (0 : ℚ) < 2 ^ (2 * t) := by positivity
  rw [hsquare, abs_mul, abs_of_pos hunits, mul_div_right_comm]
  exact mul_le_mul_of_nonneg_right (abs_rootLike_mul_self_sub hfull) hunits.le

section Sqrt

variable {m d : ℕ} {e t : ℤ}

theorem two_pow_le_sqrt (hm : 0 < m) : 2 ^ ((m.log2 + d) / 2) ≤ (m * 2 ^ d).sqrt := by
  rw [Nat.le_sqrt, ← Nat.pow_add]
  calc 2 ^ ((m.log2 + d) / 2 + (m.log2 + d) / 2) ≤ 2 ^ (m.log2 + d) := Nat.pow_le_pow_right (by decide) (by omega)
    _ = 2 ^ m.log2 * 2 ^ d := Nat.pow_add ..
    _ ≤ m * 2 ^ d := Nat.mul_le_mul_right _ (Nat.log2_self_le hm.ne')

theorem le_targetExponent_sqrt (hm : 0 < m)
    (ht : t ≤ Format.binary64.targetExponent ((totalExponent m e + 1).ediv 2)) (hd : e - 2 * t = d) :
    t ≤ Format.binary64.targetExponent (totalExponent (m * 2 ^ d).sqrt t) := by
  have hroot := two_pow_le_sqrt (d := d) hm
  have hlog := (Nat.le_log2 (Nat.lt_of_lt_of_le (Nat.two_pow_pos _) hroot).ne').mpr hroot
  rw [targetExponent_binary64] at ht ⊢
  unfold totalExponent at ht ⊢
  change t ≤ max ((m.log2 + 1 + e + 1) / 2 - 53) (-1074) at ht
  omega

/-- The root of a float has a full mantissa, even if the float has not. -/
theorem full_sqrt (hm : 0 < m) (he : -1074 ≤ e)
    (ht : t ≤ Format.binary64.targetExponent ((totalExponent m e + 1).ediv 2)) (hd : e - 2 * t = d) :
    2 ^ 52 ≤ (m * 2 ^ d).sqrt := by
  refine le_trans (Nat.pow_le_pow_right (by decide) ?_) (two_pow_le_sqrt hm)
  rw [targetExponent_binary64] at ht
  unfold totalExponent at ht
  change t ≤ max ((m.log2 + 1 + e + 1) / 2 - 53) (-1074) at ht
  omega

theorem nearest_sqrt_stored (hm : 0 < m) (he : -1074 ≤ e) :
    ∃ r : ℚ, NearRoot (m * 2 ^ e) r ∧
      Nearest (ofStored (UnpackedFloat.sqrt Format.binary64 (.finite .positive m e hm))) r := by
  generalize ht : min (e.ediv 2) (Format.binary64.targetExponent ((totalExponent m e + 1).ediv 2)) = t
  have hhalf : t ≤ e / 2 := ht ▸ min_le_left _ _
  have htarget : t ≤ Format.binary64.targetExponent ((totalExponent m e + 1).ediv 2) := ht ▸ min_le_right _ _
  obtain ⟨d, hd⟩ := Int.eq_ofNat_of_zero_le (a := e - 2 * t) (by omega)
  have hsqrt : UnpackedFloat.sqrt Format.binary64 (.finite .positive m e hm) =
      roundWithAccuracy Format.binary64 .positive (m * 2 ^ d).sqrt t
        (if m * 2 ^ d - (m * 2 ^ d).sqrt * (m * 2 ^ d).sqrt = 0 then .exact
          else .inexact (if m * 2 ^ d - (m * 2 ^ d).sqrt * (m * 2 ^ d).sqrt ≤ (m * 2 ^ d).sqrt then .lt else .gt)) := by
    have hcore : sqrtCore Format.binary64 m e = ((m * 2 ^ d).sqrt, t,
        if m * 2 ^ d - (m * 2 ^ d).sqrt * (m * 2 ^ d).sqrt = 0 then .exact
          else .inexact (if m * 2 ^ d - (m * 2 ^ d).sqrt * (m * 2 ^ d).sqrt ≤ (m * 2 ^ d).sqrt then .lt else .gt)) := by
      simp only [sqrtCore, ht, hd, Int.toNat_natCast, Nat.shiftLeft_eq]
    show roundWithAccuracy Format.binary64 .positive (sqrtCore Format.binary64 m e).1
      (sqrtCore Format.binary64 m e).2.1 (sqrtCore Format.binary64 m e).2.2 = _
    rw [hcore]
  have hvalue : (m : ℚ) * 2 ^ e = (m * 2 ^ d : ℕ) * 2 ^ (2 * t) := by
    have hsum : e = d + 2 * t := by omega
    rw [hsum, zpow_add₀ (by norm_num), zpow_natCast]
    push_cast
    ring
  rw [hvalue, hsqrt]
  exact ⟨_, nearRoot_rootLike (full_sqrt hm he htarget hd) t,
    nearest_roundWithAccuracy .positive (le_targetExponent_sqrt hm htarget hd) (tells_sqrt _)⟩

end Sqrt

variable {x y : Float}

theorem nearest_self (hx : x.isFinite = true) : Nearest x (exactValue x) := by
  obtain ⟨hsx, hvx⟩ := stored_unpack hx
  have hpack : ofStored x.toModel.unpack = x := ofBits_toBits x
  have hnear := nearest_stored hsx
  rwa [hpack, hvx] at hnear

theorem nearest_add (hx : x.isFinite = true) (hy : y.isFinite = true) :
    Nearest (x + y) (exactValue x + exactValue y) := by
  obtain ⟨hsx, hvx⟩ := stored_unpack hx
  obtain ⟨hsy, hvy⟩ := stored_unpack hy
  rw [← hvx, ← hvy]
  exact nearest_add_stored hsx hsy

theorem nearest_sub (hx : x.isFinite = true) (hy : y.isFinite = true) :
    Nearest (x - y) (exactValue x - exactValue y) := by
  obtain ⟨hsx, hvx⟩ := stored_unpack hx
  obtain ⟨hsy, hvy⟩ := stored_unpack hy
  rw [← hvx, ← hvy]
  exact nearest_sub_stored hsx hsy

theorem nearest_mul (hx : x.isFinite = true) (hy : y.isFinite = true) :
    Nearest (x * y) (exactValue x * exactValue y) := by
  obtain ⟨hsx, hvx⟩ := stored_unpack hx
  obtain ⟨hsy, hvy⟩ := stored_unpack hy
  rw [← hvx, ← hvy]
  exact nearest_mul_stored hsx hsy

theorem nearest_div (hx : x.isFinite = true) (hy : y.isFinite = true) (hne : exactValue y ≠ 0) :
    Nearest (x / y) (exactValue x / exactValue y) := by
  obtain ⟨hsx, hvx⟩ := stored_unpack hx
  obtain ⟨hsy, hvy⟩ := stored_unpack hy
  rw [← hvy] at hne
  rw [← hvx, ← hvy]
  exact nearest_div_stored hsx hsy hne

/-- The root of a negative number is not a number, that of a zero is the zero. -/
theorem nearest_sqrt (hx : x.isFinite = true) (hnonneg : 0 ≤ exactValue x) :
    ∃ r : ℚ, NearRoot (exactValue x) r ∧ Nearest x.sqrt r := by
  obtain ⟨hsx, hvx⟩ := stored_unpack hx
  rw [← hvx] at hnonneg ⊢
  show ∃ r : ℚ, _ ∧ Nearest (ofStored (UnpackedFloat.sqrt Format.binary64 x.toModel.unpack)) r
  cases hunpack : x.toModel.unpack with
  | notANumber => exact (hunpack ▸ hsx : IsStored .notANumber).elim
  | infinity s => exact (hunpack ▸ hsx : IsStored (.infinity s)).elim
  | zero s => exact ⟨0, nearRoot_zero, nearest_zero s⟩
  | finite s m e hm => cases s with
    | positive =>
      have hfloat : (⟨m, e⟩ : Dyadic).IsFloat := (hunpack ▸ hsx : IsStored (.finite .positive m e hm))
      exact nearest_sqrt_stored hm hfloat.least
    | negative =>
      rw [hunpack, storedValue_finite] at hnonneg
      have hpos : (0 : ℚ) < m * 2 ^ e := mul_pos (by exact_mod_cast hm) (by positivity)
      exact absurd hnonneg (not_le.mpr (neg_neg_of_pos hpos))

end PromptCad.Decimal
