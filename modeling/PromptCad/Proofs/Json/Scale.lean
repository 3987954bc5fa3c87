import PromptCad.Json.Number
import PromptCad.Proofs.Float.Comparison
import PromptCad.Proofs.Float.Neighbours

/-! A number of JSON from its digits and its power of ten. The digits are rounded, the power is rounded, and so is their
product or quotient: each is a small move, and the short ones are not rounded at all. -/

namespace PromptCad.Json

open Decimal

def whole (n : ℕ) : Float := ofFraction false n 1

theorem greatestNatural_le : greatestNatural ≤ 10 ^ greatestPower :=
  calc greatestNatural ≤ 10 ^ 20 := by decide
    _ ≤ 10 ^ greatestPower := Nat.pow_le_pow_right (by decide) (by decide)

theorem ten_pow_le : 10 ^ greatestPower ≤ (2 ^ 53 - 1) * 2 ^ 971 := by decide +kernel

theorem ten_pow_le_last : ((10 ^ greatestPower : ℕ) : ℚ) ≤ binary64.value (binary64.infinity - 1) := by
  have hpattern : binary64.infinity - 1 = 2045 * 2 ^ 52 + (2 ^ 53 - 1) := by decide
  rw [hpattern, binary64_value (by norm_num) (.inr (by norm_num)),
    show (-1074 : ℤ) + ((2045 : ℕ) : ℤ) = (971 : ℕ) by norm_num, zpow_natCast]
  exact_mod_cast ten_pow_le

section Whole

variable {n : ℕ}

theorem magnitude_whole (h : n ≤ 10 ^ greatestPower) :
    magnitude (whole n) = binary64.nearest n 1 ∧ isNegative (whole n) = false ∧
      binary64.nearest n 1 < binary64.infinity := by
  have hrounds := binary64.nearest_rounds (by decide) (by decide) n Nat.one_pos
  have hle : (n : ℚ) / (1 : ℕ) ≤ binary64.value (binary64.infinity - 1) := by
    rw [Nat.cast_one, div_one]
    exact le_trans (by exact_mod_cast h) ten_pow_le_last
  have hlt : binary64.nearest n 1 < binary64.infinity :=
    Nat.lt_of_le_of_lt (hrounds.le_of_le_value hle) (by decide)
  exact ⟨magnitude_ofMagnitude false hlt, isNegative_ofMagnitude false hlt, hlt⟩

theorem isFinite_whole (h : n ≤ 10 ^ greatestPower) : (whole n).isFinite = true := by
  obtain ⟨hmagnitude, -, hlt⟩ := magnitude_whole h
  rwa [isFinite_iff, hmagnitude]

theorem nearest_whole (h : n ≤ 10 ^ greatestPower) : Nearest (whole n) n := by
  obtain ⟨hmagnitude, hsign, -⟩ := magnitude_whole h
  have hrounds := binary64.nearest_rounds (by decide) (by decide) n Nat.one_pos
  rw [Nat.cast_one, div_one] at hrounds
  refine ⟨?_, fun hneg => absurd hneg (not_lt.mpr (Nat.cast_nonneg n)), fun _ => hsign⟩
  rwa [hmagnitude, abs_of_nonneg (Nat.cast_nonneg n)]

theorem close_whole (hpos : 0 < n) (h : n ≤ 10 ^ greatestPower) : Close n (exactValue (whole n)) := by
  have hone : (1 : ℚ) ≤ n := by exact_mod_cast hpos
  have hmost : (n : ℚ) ≤ 2 ^ (1024 : ℤ) :=
    calc (n : ℚ) ≤ (10 ^ greatestPower : ℕ) := by exact_mod_cast h
      _ ≤ binary64.value (binary64.infinity - 1) := ten_pow_le_last
      _ ≤ binary64.value binary64.infinity := binary64.value_strictMono.monotone (Nat.sub_le ..)
      _ = 2 ^ (1024 : ℤ) := value_infinity
  refine (nearest_whole h).relative (le_trans ?_ hone) hmost
  exact zpow_le_one_of_nonpos₀ (by norm_num) (by norm_num)

theorem exactValue_whole (h : n ≤ 2 ^ 53) : exactValue (whole n) = n := by
  have hrepresentable := representable_mul_zpow h (e := 0) (by norm_num) (by norm_num)
  rw [zpow_zero, mul_one] at hrepresentable
  have hmost : 2 ^ 53 ≤ greatestNatural := by decide
  exact (nearest_whole (h.trans (hmost.trans greatestNatural_le))).exact hrepresentable

end Whole

section Power

variable {k : ℕ}

theorem isFinite_powerOfTen (h : k ≤ greatestPower) : (powerOfTen k).isFinite = true :=
  isFinite_whole (Nat.pow_le_pow_right (by decide) h)

theorem close_powerOfTen (h : k ≤ greatestPower) : Close (10 ^ k) (exactValue (powerOfTen k)) := by
  have hle : 10 ^ k ≤ 10 ^ greatestPower := Nat.pow_le_pow_right (by decide) h
  have hclose := close_whole (Nat.pow_pos (by decide)) hle
  rwa [Nat.cast_pow, Nat.cast_ofNat] at hclose

theorem exactValue_powerOfTen (h : k ≤ 22) : exactValue (powerOfTen k) = 10 ^ k := by
  have hnearest := nearest_whole (Nat.pow_le_pow_right (by decide) (h.trans (by decide)) : 10 ^ k ≤ 10 ^ greatestPower)
  rw [Nat.cast_pow, Nat.cast_ofNat] at hnearest
  exact hnearest.exact (representable_ten_pow h)

theorem one_le_exactValue_powerOfTen (h : k ≤ greatestPower) : 1 ≤ exactValue (powerOfTen k) := by
  refine (nearest_whole (Nat.pow_le_pow_right (by decide) h)).ge
    (representable_zpow (k := 0) (by norm_num) (by norm_num)) ?_
  exact_mod_cast Nat.pow_pos (by decide)

end Power

/-- How many moves there are from a number to what is rounded to give its float. -/
def moves (n k : ℕ) : ℕ := if k ≤ 22 then if n ≤ 2 ^ 53 then 0 else 1 else 2

section Scaled

variable {n k : ℕ}

/-- What is computed from the rounded digits and the rounded power: a move for each of the two that is not exact. -/
theorem moved_rounded {f : ℚ → ℚ → ℚ} (hexact : 0 ≤ f n (10 ^ k)) (hrounded : 0 ≤ f (exactValue (whole n)) (10 ^ k))
    (hdigits : Beside (f n (10 ^ k)) (f (exactValue (whole n)) (10 ^ k)))
    (hpower : Beside (f (exactValue (whole n)) (10 ^ k)) (f (exactValue (whole n)) (exactValue (powerOfTen k)))) :
    Moved (moves n k) (f n (10 ^ k)) (f (exactValue (whole n)) (exactValue (powerOfTen k))) := by
  unfold moves
  split
  · next hshort =>
    rw [exactValue_powerOfTen hshort]
    split
    · next hwhole =>
      rw [exactValue_whole hwhole]
      exact .refl 0 _
    · exact .step (.refl 0 _) hexact hdigits
  · exact .step (.step (.refl 0 _) hexact hdigits) hrounded hpower

theorem moved_whole_mul (hpos : 0 < n) (hn : n ≤ 10 ^ greatestPower) (hk : k ≤ greatestPower) :
    Moved (moves n k) (n * 10 ^ k) (exactValue (whole n) * exactValue (powerOfTen k)) := by
  have hvalue : 0 < exactValue (whole n) := (close_whole hpos hn).pos (by exact_mod_cast hpos)
  have hpower := (close_powerOfTen hk).beside_mul hvalue.le
  rw [mul_comm, mul_comm (exactValue (powerOfTen k))] at hpower
  exact moved_rounded (f := (· * ·)) (by positivity) (by positivity) ((close_whole hpos hn).beside_mul (by positivity))
    hpower

theorem moved_whole_div (hpos : 0 < n) (hn : n ≤ 10 ^ greatestPower) (hk : k ≤ greatestPower) :
    Moved (moves n k) (n / 10 ^ k) (exactValue (whole n) / exactValue (powerOfTen k)) := by
  have hvalue : 0 < exactValue (whole n) := (close_whole hpos hn).pos (by exact_mod_cast hpos)
  exact moved_rounded (f := (· / ·)) (by positivity) (by positivity) ((close_whole hpos hn).beside_div (by positivity))
    ((close_powerOfTen hk).beside_div_left (by positivity) hvalue.le)

/-- Past the greatest power there are two divisions. The first leaves a number that may be among the smallest floats,
but not zero. -/
theorem first_quotient_bounds (hpos : 0 < n) (hn : n ≤ greatestNatural) :
    (2 : ℚ) ^ (-1074 : ℤ) ≤ exactValue (whole n) / exactValue (powerOfTen greatestPower) ∧
      exactValue (whole n) / exactValue (powerOfTen greatestPower) ≤ 2 ^ (1024 : ℤ) := by
  have hwhole := nearest_whole (hn.trans greatestNatural_le)
  have hlow : 1 ≤ exactValue (whole n) :=
    hwhole.ge (representable_zpow (k := 0) (by norm_num) (by norm_num)) (by exact_mod_cast hpos)
  have hhigh : exactValue (whole n) ≤ 2 ^ (64 : ℤ) := by
    refine hwhole.le (representable_zpow (by norm_num) (by norm_num)) ?_
    exact_mod_cast hn.trans (by decide)
  have hone : 1 ≤ exactValue (powerOfTen greatestPower) := one_le_exactValue_powerOfTen le_rfl
  have hmost : exactValue (powerOfTen greatestPower) ≤ 2 ^ (1024 : ℤ) :=
    ((isFinite_iff_abs _).mp (isFinite_powerOfTen le_rfl)).le.trans' (le_abs_self _)
  generalize exactValue (whole n) = a at *
  generalize exactValue (powerOfTen greatestPower) = b at *
  constructor
  · rw [le_div_iff₀ (by positivity)]
    calc (2 : ℚ) ^ (-1074 : ℤ) * b
        ≤ 2 ^ (-1074 : ℤ) * 2 ^ (1024 : ℤ) := mul_le_mul_of_nonneg_left hmost (by positivity)
      _ = 2 ^ (-50 : ℤ) := by rw [← zpow_add₀ (by norm_num)]; norm_num
      _ ≤ 1 := zpow_le_one_of_nonpos₀ (by norm_num) (by norm_num)
      _ ≤ a := hlow
  · calc a / b ≤ a := div_le_self (by positivity) hone
      _ ≤ 2 ^ (64 : ℤ) := hhigh
      _ ≤ 2 ^ (1024 : ℤ) := zpow_le_zpow_right₀ (by norm_num) (by norm_num)

/-- A number is rounded, then the two that it is divided by, and the first quotient on the way. -/
theorem moved_div_div {v p q a b c d : ℚ} (hv : 0 < v) (hp : 0 < p) (hq : 0 < q) (hc : 0 ≤ c) (hdigits : Close v a)
    (hfirst : Close p b) (hquotient : Beside (a / b / q) (c / q)) (hsecond : Close q d) :
    Moved 4 (v / (p * q)) (c / d) := by
  have ha := hdigits.pos hv
  have hb := hfirst.pos hp
  have hstart : Beside (v / (p * q)) (a / (p * q)) := hdigits.beside_div (by positivity)
  have hpower : Beside (a / (p * q)) (a / b / q) := by
    rw [mul_comm, ← div_div, div_right_comm a b]
    exact hfirst.beside_div_left hp (by positivity)
  have hend : Beside (c / q) (c / d) := hsecond.beside_div_left hq hc
  exact .step (.step (.step (.step (.refl 0 _) (by positivity) hstart) (by positivity) hpower) (by positivity)
    hquotient) (by positivity) hend

theorem moved_whole_div_div (hpos : 0 < n) (hn : n ≤ greatestNatural) (hk : k ≤ greatestPower) :
    ∃ w, 0 < w ∧ Moved 4 (n / 10 ^ (greatestPower + k)) w ∧
      Nearest (whole n / powerOfTen greatestPower / powerOfTen k) w ∧
      (whole n / powerOfTen greatestPower / powerOfTen k).isFinite = true := by
  have hmost : n ≤ 10 ^ greatestPower := hn.trans greatestNatural_le
  have hone := one_le_exactValue_powerOfTen (le_refl greatestPower)
  have hone' := one_le_exactValue_powerOfTen hk
  obtain ⟨hleast, hgreatest⟩ := first_quotient_bounds hpos hn
  have hquotient := nearest_div (isFinite_whole hmost) (isFinite_powerOfTen (le_refl greatestPower))
    (zero_lt_one.trans_le hone).ne'
  have hfinite := isFinite_div (isFinite_whole hmost) (isFinite_powerOfTen le_rfl) hone
  have hpositive := hquotient.ge (representable_zpow le_rfl (by norm_num)) hleast
  have hc := lt_of_lt_of_le (by positivity) hpositive
  refine ⟨_, div_pos hc (zero_lt_one.trans_le hone'), ?_,
    nearest_div hfinite (isFinite_powerOfTen hk) (zero_lt_one.trans_le hone').ne',
    isFinite_div hfinite (isFinite_powerOfTen hk) hone'⟩
  rw [pow_add]
  exact moved_div_div (by exact_mod_cast hpos) (by positivity) (by positivity) hc.le (close_whole hpos hmost)
    (close_powerOfTen le_rfl)
    (hquotient.beside_div (le_trans (by positivity) hleast) hgreatest (one_le_pow₀ (by norm_num)))
    (close_powerOfTen hk)

end Scaled

section Steps

variable {f : Float} {k : ℕ}

theorem scale_up (steps : ℕ) (hk : k ≤ greatestPower) (hfinite : (f * powerOfTen k).isFinite = true) :
    scale (steps + 1) f k = some (f * powerOfTen k) := by
  rw [scale, if_pos (by rwa [Int.natAbs_natCast]), if_pos (by omega), Int.natAbs_natCast]
  show (if (f * powerOfTen k).isInf then none else some (f * powerOfTen k)) = _
  rw [isInf_eq_false_of_isFinite hfinite, if_neg Bool.false_ne_true]

theorem scale_down (steps : ℕ) (hk : k ≤ greatestPower) (hpos : 0 < k) :
    scale (steps + 1) f (-k) = some (f / powerOfTen k) := by
  rw [scale, if_pos (by rwa [Int.natAbs_neg, Int.natAbs_natCast]), if_neg (by omega), Int.natAbs_neg,
    Int.natAbs_natCast]

theorem scale_far (steps : ℕ) (hk : k ≤ greatestPower) (hpos : 0 < k) (hne : (f == 0) = false) :
    scale (steps + 2) f (-(greatestPower + k : ℕ)) = some (f / powerOfTen greatestPower / powerOfTen k) := by
  have hrest : -((greatestPower + k : ℕ) : ℤ) + (greatestPower : ℕ) = -(k : ℤ) := by omega
  rw [scale, if_neg (by omega), hne, if_neg Bool.false_ne_true, if_neg (by omega), hrest, scale_down steps hk hpos]

end Steps

section Result

variable {n : ℕ}

theorem nearest_whole_mul {k : ℕ} (hn : n ≤ 10 ^ greatestPower) (hk : k ≤ greatestPower) :
    Nearest (whole n * powerOfTen k) (exactValue (whole n) * exactValue (powerOfTen k)) :=
  nearest_mul (isFinite_whole hn) (isFinite_powerOfTen hk)

/-- A product stays finite when what it stands for is two patterns away from infinity. -/
theorem isFinite_whole_mul {k p : ℕ} (hpos : 0 < n) (hn : n ≤ 10 ^ greatestPower) (hk : k ≤ greatestPower)
    (hp : binary64.Rounds (n * 10 ^ k) p) (hfar : p + 2 < binary64.infinity) :
    (whole n * powerOfTen k).isFinite = true := by
  have hvalue := (close_whole hpos hn).pos (by exact_mod_cast hpos)
  have hpower := one_le_exactValue_powerOfTen hk
  have hrounds := (nearest_whole_mul hn hk).rounds_of_nonneg (by positivity)
  have hnear := ((moved_whole_mul hpos hn hk).near hp hrounds).1
  have hmoves : moves n k ≤ 2 := by
    unfold moves
    split_ifs <;> omega
  rw [isFinite_iff]
  omega

/-- How many moves there are for any power of ten. -/
def drift (n : ℕ) (e : ℤ) : ℕ := if e.natAbs ≤ greatestPower then moves n e.natAbs else 4

/-- The float for so many digits and a power of ten: it is the nearest to a number that a few moves lead to. -/
theorem exists_scale {e : ℤ} (hpos : 0 < n) (hn : n ≤ greatestNatural) (hlow : -616 ≤ e) (hhigh : e ≤ 308)
    (hfinite : 0 ≤ e → (whole n * powerOfTen e.toNat).isFinite = true) :
    ∃ y w, scale 4 (whole n) e = some y ∧ y.isFinite = true ∧ 0 < w ∧ Moved (drift n e) (n * 10 ^ e) w ∧
      Nearest y w := by
  have hmost : n ≤ 10 ^ greatestPower := hn.trans greatestNatural_le
  have hvalue := (close_whole hpos hmost).pos (by exact_mod_cast hpos)
  have hgreatest : greatestPower = 308 := rfl
  rcases le_or_gt 0 e with he | he
  · obtain ⟨k, rfl⟩ := Int.eq_ofNat_of_zero_le he
    have hk : k ≤ greatestPower := by omega
    have hpower := one_le_exactValue_powerOfTen hk
    rw [drift, Int.natAbs_natCast, if_pos hk, zpow_natCast]
    exact ⟨_, _, scale_up 3 hk (hfinite he), hfinite he, by positivity, moved_whole_mul hpos hmost hk,
      nearest_whole_mul hmost hk⟩
  · obtain ⟨k, hk⟩ := Int.eq_ofNat_of_zero_le (a := -e) (by omega)
    obtain rfl : e = -(k : ℤ) := by omega
    rw [drift, Int.natAbs_neg, Int.natAbs_natCast, zpow_neg, zpow_natCast, ← div_eq_mul_inv]
    split
    · next hle =>
      have hpower := one_le_exactValue_powerOfTen hle
      exact ⟨_, _, scale_down 3 hle (by omega), isFinite_div (isFinite_whole hmost) (isFinite_powerOfTen hle) hpower,
        by positivity, moved_whole_div hpos hmost hle,
        nearest_div (isFinite_whole hmost) (isFinite_powerOfTen hle) (by positivity)⟩
    · next hgt =>
      obtain ⟨j, rfl⟩ := Nat.exists_eq_add_of_le (Nat.le_of_not_le hgt)
      obtain ⟨w, hw, hmoved, hnearest, hquotient⟩ := moved_whole_div_div hpos hn (show j ≤ greatestPower by omega)
      have hne : (whole n == 0) = false := by
        rw [Bool.eq_false_iff, ne_eq, beq_iff_exactValue (isFinite_whole hmost) (by decide), exactValue_zero]
        exact hvalue.ne'
      exact ⟨_, w, scale_far 2 (by omega) (by omega) hne, hquotient, hw, hmoved, hnearest⟩

end Result

end PromptCad.Json
