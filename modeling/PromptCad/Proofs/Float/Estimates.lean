import PromptCad.Proofs.Float.Operations

/-! What is known of the nearest float without computing it. Rounding keeps the order of a number and the floats, gives
floats back unchanged, and is off by half a unit in the last place at most. -/

namespace PromptCad.Decimal

namespace BinaryFormat

variable {f : BinaryFormat} {v : ℚ} {p q : ℕ}

theorem Rounds.le_of_lt_middle (h : f.Rounds v p) (hq : q ≤ f.infinity) (hv : 2 * v < f.value q + f.value (q + 1)) :
    p ≤ q := by
  by_contra hc
  have hstep := f.value_strictMono q.lt_succ_self
  have hpast : f.value (q + 1) ≤ f.value p := f.value_strictMono.monotone (Nat.not_le.mp hc)
  have hnear := h.nearest q hq
  rw [abs_of_pos (by linarith)] at hnear
  rcases le_total (f.value q) v with hle | hle
  · rw [abs_of_nonpos (by linarith)] at hnear
    linarith
  · rw [abs_of_nonneg (by linarith)] at hnear
    linarith

theorem Rounds.lt_of_middle_lt (h : f.Rounds v p) (hq : q < f.infinity) (hv : f.value q + f.value (q + 1) < 2 * v) :
    q < p := by
  by_contra hc
  have hstep := f.value_strictMono q.lt_succ_self
  have hbelow : f.value p ≤ f.value q := f.value_strictMono.monotone (Nat.not_lt.mp hc)
  have hnear := h.nearest (q + 1) hq
  rw [abs_of_neg (by linarith)] at hnear
  rcases le_total v (f.value (q + 1)) with hle | hle
  · rw [abs_of_nonneg (by linarith)] at hnear
    linarith
  · rw [abs_of_nonpos (by linarith)] at hnear
    linarith

theorem Rounds.lt_of_middle_eq (h : f.Rounds v p) (hq : q < f.infinity) (hodd : q % 2 = 1)
    (hv : f.value q + f.value (q + 1) = 2 * v) : q < p := by
  by_contra hc
  have hstep := f.value_strictMono q.lt_succ_self
  have hbelow : f.value p ≤ f.value q := f.value_strictMono.monotone (Nat.not_lt.mp hc)
  have hnear := h.nearest (q + 1) hq
  rw [abs_of_neg (by linarith), abs_of_pos (by linarith)] at hnear
  obtain rfl : p = q := f.value_strictMono.injective (by linarith)
  have heven := h.even (p + 1) hq (Nat.succ_ne_self p)
    (by rw [abs_of_pos (by linarith), abs_of_neg (by linarith)]; linarith)
  omega

theorem Rounds.le_of_le_value (h : f.Rounds v p) (hv : v ≤ f.value q) : p ≤ q := by
  rcases le_or_gt q f.infinity with hq | hq
  · have hstep := f.value_strictMono q.lt_succ_self
    exact h.le_of_lt_middle hq (by linarith)
  · exact h.le.trans hq.le

theorem Rounds.ge_of_value_le (h : f.Rounds v p) (hq : q ≤ f.infinity) (hv : f.value q ≤ v) : q ≤ p := by
  cases q with
  | zero => exact Nat.zero_le p
  | succ q =>
    have hstep := f.value_strictMono q.lt_succ_self
    exact h.lt_of_middle_lt hq (by linarith)

end BinaryFormat

/-- The numbers that are floats. The power of two past all finite floats counts as one. -/
def Representable (b : ℚ) : Prop := ∃ p ≤ binary64.infinity, |b| = binary64.value p

/-- A short mantissa is lengthened until it is full or its unit is the least. -/
theorem representable_mul_zpow {m : ℕ} (hm : m ≤ 2 ^ 53) {e : ℤ} (hlow : -1074 ≤ e) (hhigh : e ≤ 971) :
    Representable (m * 2 ^ e) := by
  have hinfinity : binary64.infinity = 2047 * 2 ^ 52 := by decide
  obtain ⟨k, hk⟩ := Int.eq_ofNat_of_zero_le (a := e + 1074) (by omega)
  obtain rfl : e = -1074 + k := by omega
  rcases Nat.eq_zero_or_pos m with rfl | hpos
  · exact ⟨0, Nat.zero_le _, by rw [Nat.cast_zero, zero_mul, abs_zero, binary64_value_zero]⟩
  obtain ⟨d, hd⟩ : ∃ d, d = min k (52 - m.log2) := ⟨_, rfl⟩
  obtain ⟨j, rfl⟩ := Nat.exists_eq_add_of_le' (show d ≤ k by omega)
  have hlong : m * 2 ^ d ≤ 2 ^ 53 := by
    rcases hm.lt_or_eq with hlt | rfl
    · have hlog := (Nat.log2_lt hpos.ne').mpr hlt
      calc m * 2 ^ d ≤ 2 ^ (m.log2 + 1) * 2 ^ d := Nat.mul_le_mul_right _ Nat.lt_log2_self.le
        _ = 2 ^ (m.log2 + 1 + d) := (Nat.pow_add ..).symm
        _ ≤ 2 ^ 53 := Nat.pow_le_pow_right (by decide) (by omega)
    · rw [Nat.log2_two_pow] at hd
      obtain rfl : d = 0 := by omega
      norm_num
  have hfull : j = 0 ∨ 2 ^ 52 ≤ m * 2 ^ d := by
    rcases Nat.eq_zero_or_pos j with hzero | hj
    · exact .inl hzero
    · right
      calc 2 ^ 52 ≤ 2 ^ (m.log2 + d) := Nat.pow_le_pow_right (by decide) (by omega)
        _ = 2 ^ m.log2 * 2 ^ d := Nat.pow_add ..
        _ ≤ m * 2 ^ d := Nat.mul_le_mul_right _ (Nat.log2_self_le hpos.ne')
  refine ⟨j * 2 ^ 52 + m * 2 ^ d, by omega, ?_⟩
  rw [abs_of_nonneg (by positivity), binary64_value hlong hfull, Nat.cast_add, ← add_assoc, zpow_add₀ (by norm_num),
    zpow_natCast]
  push_cast
  ring

theorem representable_zpow {k : ℤ} (hlow : -1074 ≤ k) (hhigh : k ≤ 1024) : Representable (2 ^ k) := by
  rcases le_or_gt k 971 with hle | hgt
  · have h := representable_mul_zpow (m := 1) (by norm_num) hlow hle
    rwa [Nat.cast_one, one_mul] at h
  · obtain ⟨j, hj⟩ := Int.eq_ofNat_of_zero_le (a := k - 971) (by omega)
    obtain rfl : k = j + 971 := by omega
    have h := representable_mul_zpow (m := 2 ^ j) (Nat.pow_le_pow_right (by decide) (by omega)) (by norm_num) le_rfl
    rwa [Nat.cast_pow, Nat.cast_ofNat, ← zpow_natCast, ← zpow_add₀ (by norm_num)] at h

theorem representable_ten_pow {k : ℕ} (hk : k ≤ 22) : Representable (10 ^ k) := by
  have hfive : 5 ^ k ≤ 2 ^ 53 := (Nat.pow_le_pow_right (by decide) hk).trans (by norm_num)
  have h := representable_mul_zpow hfive (e := k) (by omega) (by omega)
  rwa [Nat.cast_pow, Nat.cast_ofNat, zpow_natCast, ← mul_pow, show (5 : ℚ) * 2 = 10 by norm_num] at h

theorem Representable.neg {b : ℚ} (h : Representable b) : Representable (-b) := by
  obtain ⟨p, hp, hvalue⟩ := h
  exact ⟨p, hp, by rwa [abs_neg]⟩

variable {x y z : Float} {v b : ℚ}

theorem abs_exactValue (x : Float) : |exactValue x| = binary64.value (magnitude x) := by
  unfold exactValue
  split
  · rw [abs_neg, abs_of_nonneg (binary64_value_nonneg _)]
  · exact abs_of_nonneg (binary64_value_nonneg _)

theorem representable_exactValue (h : x.isFinite = true) : Representable (exactValue x) :=
  ⟨magnitude x, ((isFinite_iff x).mp h).le, abs_exactValue x⟩

theorem value_power (j : ℕ) : binary64.value (j * 2 ^ 52 + 2 ^ 52) = 2 ^ ((j : ℤ) - 1022) := by
  have hsum : (j : ℤ) - 1022 = (52 : ℕ) + (-1074 + (j : ℤ)) := by omega
  have hpower : (2 : ℚ) ^ ((j : ℤ) - 1022) = 2 ^ 52 * 2 ^ (-1074 + (j : ℤ)) := by
    rw [hsum, zpow_add₀ (by norm_num) ((52 : ℕ) : ℤ), zpow_natCast]
  rw [binary64_value (by norm_num) (.inr le_rfl), hpower, Nat.cast_pow, Nat.cast_ofNat]

theorem value_infinity : binary64.value binary64.infinity = 2 ^ (1024 : ℤ) := value_power 2046

theorem isFinite_iff_abs (x : Float) : x.isFinite = true ↔ |exactValue x| < 2 ^ (1024 : ℤ) := by
  rw [isFinite_iff, abs_exactValue, ← value_infinity, binary64.value_strictMono.lt_iff_lt]

theorem abs_exactValue_le_of_magnitude {j : ℕ} (h : magnitude x ≤ j * 2 ^ 52 + 2 ^ 52) :
    |exactValue x| ≤ 2 ^ ((j : ℤ) - 1022) := by
  rw [abs_exactValue, ← value_power]
  exact binary64.value_strictMono.monotone h

theorem le_abs_exactValue_of_magnitude {j : ℕ} (h : j * 2 ^ 52 + 2 ^ 52 ≤ magnitude x) :
    2 ^ ((j : ℤ) - 1022) ≤ |exactValue x| := by
  rw [abs_exactValue, ← value_power]
  exact binary64.value_strictMono.monotone h

theorem exactValue_eq_value (hsign : isNegative x = false) : exactValue x = binary64.value (magnitude x) := by
  rw [exactValue, hsign, if_neg Bool.false_ne_true]

theorem exactValue_eq_of_magnitude {j : ℕ} (hsign : isNegative x = false) (h : magnitude x = j * 2 ^ 52 + 2 ^ 52) :
    exactValue x = 2 ^ ((j : ℤ) - 1022) := by
  rw [exactValue_eq_value hsign, h, value_power]

namespace Nearest

theorem isNaN_eq_false (h : Nearest z v) : z.isNaN = false := Decimal.isNaN_eq_false h.rounds.le

theorem nonneg (h : Nearest z v) (hv : 0 ≤ v) : 0 ≤ exactValue z := by
  rcases hv.lt_or_eq with hpos | rfl
  · rw [exactValue, h.positive hpos, if_neg Bool.false_ne_true]
    exact binary64_value_nonneg _
  · have hzero : magnitude z = 0 := Nat.le_zero.mp (h.rounds.le_of_le_value (by rw [abs_zero, binary64_value_zero]))
    rw [exactValue, hzero, binary64_value_zero, neg_zero, ite_self]

theorem nonpos (h : Nearest z v) (hv : v ≤ 0) : exactValue z ≤ 0 := by
  rcases hv.lt_or_eq with hneg | rfl
  · rw [exactValue, h.negative hneg, if_pos rfl]
    exact neg_nonpos.mpr (binary64_value_nonneg _)
  · exact (abs_nonpos_iff.mp (by
      rw [abs_exactValue, Nat.le_zero.mp (h.rounds.le_of_le_value (by rw [abs_zero, binary64_value_zero])),
        binary64_value_zero])).le

theorem eq_zero (h : Nearest z 0) : exactValue z = 0 := le_antisymm (h.nonpos le_rfl) (h.nonneg le_rfl)

theorem le (h : Nearest z v) (hb : Representable b) (hv : v ≤ b) : exactValue z ≤ b := by
  obtain ⟨p, hp, hvalue⟩ := hb
  rcases le_or_gt 0 b with hb | hb
  · rcases le_or_gt 0 v with hv' | hv'
    · rw [← abs_of_nonneg hb, ← abs_of_nonneg (h.nonneg hv'), abs_exactValue, hvalue]
      refine binary64.value_strictMono.monotone (h.rounds.le_of_le_value ?_)
      rwa [← hvalue, abs_of_nonneg hb, abs_of_nonneg hv']
    · exact (h.nonpos hv'.le).trans hb
  · have hneg : v < 0 := hv.trans_lt hb
    rw [← neg_le_neg_iff, ← abs_of_neg hb, ← abs_of_nonpos (h.nonpos hneg.le), abs_exactValue, hvalue]
    refine binary64.value_strictMono.monotone (h.rounds.ge_of_value_le hp ?_)
    rw [← hvalue, abs_of_neg hb, abs_of_neg hneg]
    linarith

theorem ge (h : Nearest z v) (hb : Representable b) (hv : b ≤ v) : b ≤ exactValue z := by
  obtain ⟨p, hp, hvalue⟩ := hb
  rcases le_or_gt 0 b with hb | hb
  · have hpos := hb.trans hv
    rw [← abs_of_nonneg hb, ← abs_of_nonneg (h.nonneg hpos), abs_exactValue, hvalue]
    refine binary64.value_strictMono.monotone (h.rounds.ge_of_value_le hp ?_)
    rwa [← hvalue, abs_of_nonneg hb, abs_of_nonneg hpos]
  · rcases le_or_gt 0 v with hv' | hv'
    · exact hb.le.trans (h.nonneg hv')
    · rw [← neg_le_neg_iff, ← abs_of_neg hb, ← abs_of_nonpos (h.nonpos hv'.le), abs_exactValue, hvalue]
      refine binary64.value_strictMono.monotone (h.rounds.le_of_le_value ?_)
      rw [← hvalue, abs_of_neg hb, abs_of_neg hv']
      linarith

theorem exact (h : Nearest z v) (hv : Representable v) : exactValue z = v :=
  le_antisymm (h.le hv le_rfl) (h.ge hv le_rfl)

theorem abs_exactValue_le (h : Nearest z v) (hb : Representable b) (hv : |v| ≤ b) : |exactValue z| ≤ b := by
  obtain ⟨hlow, hhigh⟩ := abs_le.mp hv
  exact abs_le.mpr ⟨h.ge hb.neg hlow, h.le hb hhigh⟩

theorem le_abs_exactValue (h : Nearest z v) (hb : Representable b) (hv : b ≤ |v|) : b ≤ |exactValue z| := by
  rcases le_abs'.mp hv with hneg | hpos
  · exact le_abs'.mpr (.inl (h.le hb.neg hneg))
  · exact le_abs'.mpr (.inr (h.ge hb hpos))

theorem abs_lt (h : Nearest z v) (hz : z.isFinite = true) : |v| < 2 ^ (1024 : ℤ) := by
  by_contra hc
  refine absurd ((isFinite_iff_abs z).mp hz) (not_lt.mpr ?_)
  exact h.le_abs_exactValue (representable_zpow (by norm_num) le_rfl) (not_lt.mp hc)

theorem zpow_le (h : Nearest z v) (hz : z.isFinite = true) {k : ℤ} (hlow : -1074 ≤ k) (hv : 2 ^ k ≤ |v|) :
    2 ^ k ≤ |exactValue z| := by
  have hlt := hv.trans_lt (h.abs_lt hz)
  rw [zpow_lt_zpow_iff_right₀ one_lt_two] at hlt
  exact h.le_abs_exactValue (representable_zpow hlow hlt.le) hv

theorem le_zpow (h : Nearest z v) (hz : z.isFinite = true) {k : ℤ} (hlow : -1074 ≤ k) (hv : |v| ≤ 2 ^ k) :
    |exactValue z| ≤ 2 ^ k := by
  rcases le_or_gt k 1024 with hle | hgt
  · exact h.abs_exactValue_le (representable_zpow hlow hle) hv
  · exact ((isFinite_iff_abs z).mp hz).le.trans (zpow_le_zpow_right₀ (by norm_num) hgt.le)

theorem isFinite (h : Nearest z v) (hv : |v| ≤ 2 ^ (1023 : ℤ)) : z.isFinite = true := by
  rw [isFinite_iff_abs]
  exact (h.abs_exactValue_le (representable_zpow (by norm_num) (by norm_num)) hv).trans_lt
    (zpow_lt_zpow_right₀ (by norm_num) (by norm_num))

end Nearest

theorem isFinite_div (hx : x.isFinite = true) (hy : y.isFinite = true) (hone : 1 ≤ exactValue y) :
    (x / y).isFinite = true := by
  have hpos : 0 < exactValue y := zero_lt_one.trans_le hone
  obtain ⟨p, hp, hvalue⟩ := representable_exactValue hx
  have hle : |exactValue x / exactValue y| ≤ |exactValue x| := by
    rw [abs_div, abs_of_pos hpos]
    exact div_le_self (abs_nonneg _) hone
  rw [isFinite_iff_abs] at hx ⊢
  have hnearest := nearest_div ((isFinite_iff_abs x).mpr hx) hy hpos.ne'
  exact (hnearest.abs_exactValue_le ⟨p, hp, by rwa [abs_abs]⟩ hle).trans_lt hx

theorem exactValue_mul_self_nonneg (hx : x.isFinite = true) : 0 ≤ exactValue (x * x) :=
  (nearest_mul hx hx).nonneg (mul_self_nonneg _)

theorem le_add_left_exactValue (hx : x.isFinite = true) (hy : y.isFinite = true) (hnonneg : 0 ≤ exactValue y) :
    exactValue x ≤ exactValue (x + y) :=
  (nearest_add hx hy).ge (representable_exactValue hx) (le_add_of_nonneg_right hnonneg)

theorem le_add_right_exactValue (hx : x.isFinite = true) (hy : y.isFinite = true) (hnonneg : 0 ≤ exactValue x) :
    exactValue y ≤ exactValue (x + y) :=
  (nearest_add hx hy).ge (representable_exactValue hy) (le_add_of_nonneg_left hnonneg)

theorem exactValue_zero : exactValue 0 = 0 := by
  rw [exactValue, show magnitude 0 = 0 by decide, binary64_value_zero, neg_zero, ite_self]

theorem exactValue_one : exactValue 1 = 1 := exactValue_eq_of_magnitude (j := 1022) (by decide) (by decide)

theorem exactValue_two : exactValue 2 = 2 := exactValue_eq_of_magnitude (j := 1023) (by decide) (by decide)

theorem exactValue_mul_eq_zero (hx : x.isFinite = true) (hy : y.isFinite = true) (h : exactValue x * exactValue y = 0) :
    exactValue (x * y) = 0 := (h ▸ nearest_mul hx hy).eq_zero

section Zeros

variable (hx : exactValue x = 0) (hy : exactValue y = 0)

include hx

theorem isFinite_of_exactValue_eq_zero : x.isFinite = true := by
  rw [isFinite_iff_abs, hx, abs_zero]
  positivity

include hy

theorem exactValue_add_eq_zero : exactValue (x + y) = 0 := by
  have hnearest := nearest_add (isFinite_of_exactValue_eq_zero hx) (isFinite_of_exactValue_eq_zero hy)
  rw [hx, hy, add_zero] at hnearest
  exact hnearest.eq_zero

theorem exactValue_sub_eq_zero : exactValue (x - y) = 0 := by
  have hnearest := nearest_sub (isFinite_of_exactValue_eq_zero hx) (isFinite_of_exactValue_eq_zero hy)
  rw [hx, hy, sub_zero] at hnearest
  exact hnearest.eq_zero

end Zeros

theorem exists_exactValue_eq (x : Float) : ∃ n : ℤ, exactValue x = n * 2 ^ (-1074 : ℤ) := by
  obtain ⟨k, m, hp, hm, hk⟩ := binary64.exists_pattern (magnitude x)
  change m < 2 ^ 53 at hm
  change k = 0 ∨ 2 ^ 52 ≤ m at hk
  have hvalue : binary64.value (magnitude x) = (m * 2 ^ k : ℕ) * 2 ^ (-1074 : ℤ) := by
    have hunit : (2 : ℚ) ^ (-1074 + (k : ℤ)) = 2 ^ (-1074 : ℤ) * 2 ^ k := by
      rw [zpow_add₀ (by norm_num), zpow_natCast]
    rw [hp]
    refine (binary64_value hm.le hk).trans ?_
    rw [hunit, Nat.cast_mul, Nat.cast_pow, Nat.cast_ofNat]
    ring
  unfold exactValue
  split
  · exact ⟨-(m * 2 ^ k : ℕ), by rw [hvalue, Int.cast_neg, Int.cast_natCast, neg_mul]⟩
  · exact ⟨(m * 2 ^ k : ℕ), by rw [hvalue, Int.cast_natCast]⟩

theorem least_le_abs_sub (h : exactValue x ≠ exactValue y) : 2 ^ (-1074 : ℤ) ≤ |exactValue x - exactValue y| := by
  obtain ⟨n, hn⟩ := exists_exactValue_eq x
  obtain ⟨m, hm⟩ := exists_exactValue_eq y
  have hne : n - m ≠ 0 := fun heq => h (by rw [hn, hm, sub_eq_zero.mp heq])
  have hone : (1 : ℚ) ≤ |((n - m : ℤ) : ℚ)| := by exact_mod_cast Int.one_le_abs hne
  have hunit : (0 : ℚ) < 2 ^ (-1074 : ℤ) := by positivity
  rw [hn, hm, ← sub_mul, abs_mul, abs_of_pos hunit, ← Int.cast_sub]
  exact le_mul_of_one_le_left hunit.le hone

theorem least_le_abs (h : exactValue x ≠ 0) : 2 ^ (-1074 : ℤ) ≤ |exactValue x| := by
  rw [← exactValue_zero] at h
  have hle := least_le_abs_sub h
  rwa [exactValue_zero, sub_zero] at hle

end PromptCad.Decimal
