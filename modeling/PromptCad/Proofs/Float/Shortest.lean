import PromptCad.Proofs.Float.Nearest

/-! The shortest decimal of a positive float lies in the interval of the float, on whatever grid it was found. -/

namespace PromptCad.Decimal

def Scaled.value (d : Scaled) : ℚ := d.digits * 10 ^ d.exponent

/-- What two scaled numbers are multiplied by to be compared as natural numbers. -/
theorem scaled_common (a : ℕ) (i : ℤ) (b : ℕ) (j : ℤ) :
    ((a * 10 ^ i.toNat * 2 ^ (-j).toNat : ℕ) : ℚ) = a * 10 ^ i * (10 ^ (-i).toNat * 2 ^ (-j).toNat) ∧
      ((b * 2 ^ j.toNat * 10 ^ (-i).toNat : ℕ) : ℚ) = b * 2 ^ j * (10 ^ (-i).toNat * 2 ^ (-j).toNat) := by
  rw [← pow_toNat_div 10 i, ← pow_toNat_div 2 j]
  push_cast
  constructor <;> field_simp

theorem compareScaled_lt {a : ℕ} {i : ℤ} {b : ℕ} {j : ℤ} :
    compareScaled a i b j = .lt ↔ (a : ℚ) * 10 ^ i < b * 2 ^ j := by
  obtain ⟨ha, hb⟩ := scaled_common a i b j
  have hpos : (0 : ℚ) < 10 ^ (-i).toNat * 2 ^ (-j).toNat := by positivity
  rw [compareScaled, Nat.compare_eq_lt, ← @Nat.cast_lt ℚ, ha, hb, mul_lt_mul_iff_left₀ hpos]

theorem compareScaled_gt {a : ℕ} {i : ℤ} {b : ℕ} {j : ℤ} :
    compareScaled a i b j = .gt ↔ (b : ℚ) * 2 ^ j < a * 10 ^ i := by
  obtain ⟨ha, hb⟩ := scaled_common a i b j
  have hpos : (0 : ℚ) < 10 ^ (-i).toNat * 2 ^ (-j).toNat := by positivity
  rw [compareScaled, Nat.compare_eq_gt, ← @Nat.cast_lt ℚ, ha, hb, mul_lt_mul_iff_left₀ hpos]

theorem compareScaled_eq {a : ℕ} {i : ℤ} {b : ℕ} {j : ℤ} :
    compareScaled a i b j = .eq ↔ (a : ℚ) * 10 ^ i = b * 2 ^ j := by
  obtain ⟨ha, hb⟩ := scaled_common a i b j
  have hpos : (0 : ℚ) < 10 ^ (-i).toNat * 2 ^ (-j).toNat := by positivity
  rw [compareScaled, Nat.compare_eq_eq, ← Nat.cast_inj (R := ℚ), ha, hb, mul_left_inj' hpos.ne']

namespace Dyadic

variable {x : Dyadic} {d : Scaled}

theorem quarters (x : Dyadic) (hx : 0 < x.mantissa) :
    (((if x.narrowBelow then 4 * x.mantissa - 1 else 4 * x.mantissa - 2 : ℕ) : ℚ)) * 2 ^ (x.exponent - 2) =
        (x.mantissa - x.reachBelow) * 2 ^ x.exponent ∧
      ((4 * x.mantissa + 2 : ℕ) : ℚ) * 2 ^ (x.exponent - 2) = (x.mantissa + 1 / 2) * 2 ^ x.exponent := by
  have hp : (2 : ℚ) ^ (x.exponent - 2) = 2 ^ x.exponent / 4 := by
    rw [zpow_sub₀ (by norm_num)]
    norm_num
  rw [hp, reachBelow]
  constructor
  · split
    · push_cast [Nat.cast_sub (by omega : 1 ≤ 4 * x.mantissa)]
      ring
    · push_cast [Nat.cast_sub (by omega : 2 ≤ 4 * x.mantissa)]
      ring
  · push_cast
    ring

/-- A decimal reads back when its value is in the interval of the float. -/
theorem readsBack_iff (hx : 0 < x.mantissa) : x.readsBack d = true ↔ x.Near d.value := by
  obtain ⟨hlow, hhigh⟩ := quarters x hx
  simp only [readsBack, Bool.and_eq_true, Bool.or_eq_true, beq_iff_eq, compareScaled_lt, compareScaled_gt,
    compareScaled_eq, hlow, hhigh]
  rw [← Scaled.value]
  constructor
  · rintro ⟨hl, hh⟩
    refine ⟨?_, ?_, ?_⟩
    · rcases hl with hl | ⟨-, hl⟩
      · exact hl.le
      · exact hl.ge
    · rcases hh with hh | ⟨-, hh⟩
      · exact hh.le
      · exact hh.le
    · rintro (he | he)
      · exact (hl.resolve_left he.not_gt).1
      · exact (hh.resolve_left he.not_lt).1
  · rintro ⟨hl, hh, he⟩
    refine ⟨?_, ?_⟩
    · rcases hl.lt_or_eq with hl | hl
      · exact .inl hl
      · exact .inr ⟨he (.inl hl.symm), hl.symm⟩
    · rcases hh.lt_or_eq with hh | hh
      · exact .inl hh
      · exact .inr ⟨he (.inr hh), hh⟩

theorem nearer_eq (x : Dyadic) (tie : Tie) (low : ℕ) (g : ℤ) :
    x.nearer tie low g = low ∨ x.nearer tie low g = low + 1 := by
  unfold nearer
  split
  · exact .inr rfl
  · exact .inl rfl
  · cases tie with
    | up => exact .inr rfl
    | toEven =>
      rcases Nat.mod_two_eq_zero_or_one low with h | h
      · exact .inl (by simp [h])
      · exact .inr (by simp [h])

theorem readsBack_of_onGrid? {tie : Tie} {g : ℤ} (h : x.onGrid? tie g = some d) : x.readsBack d = true := by
  simp only [onGrid?] at h
  split at h
  · next hl hh =>
    obtain rfl := Option.some.inj h
    rcases x.nearer_eq tie (x.gridFloor g) g with hn | hn
    · rwa [hn]
    · rwa [hn]
  · next hl hh => exact Option.some.inj h ▸ hl
  · next hl hh => exact Option.some.inj h ▸ hh
  · cases h

theorem num_eq (x : Dyadic) : x.num = x.mantissa * 2 ^ x.exponent.toNat := by rw [num, powerOfTwo_eq]

theorem value_exact (x : Dyadic) : x.exact.value = x.mantissa * 2 ^ x.exponent := by
  unfold exact Scaled.value
  split
  · next h =>
    obtain ⟨n, hn⟩ := Int.eq_ofNat_of_zero_le h
    rw [num_eq, hn]
    simp
  · next h =>
    obtain ⟨n, hn⟩ := Int.eq_ofNat_of_zero_le (a := -x.exponent) (by omega)
    obtain hn' : x.exponent = -(n : ℤ) := by omega
    rw [hn']
    simp only [neg_neg, Int.toNat_natCast, zpow_neg, zpow_natCast]
    push_cast
    rw [show (10 : ℚ) = 5 * 2 by norm_num, mul_pow]
    field_simp

theorem near_self (x : Dyadic) : x.Near (x.mantissa * 2 ^ x.exponent) := by
  have hp : (0 : ℚ) < 2 ^ x.exponent := by positivity
  have hr := x.reachBelow_pos
  refine ⟨?_, ?_, ?_⟩
  · exact mul_le_mul_of_nonneg_right (by linarith) hp.le
  · exact mul_le_mul_of_nonneg_right (by linarith) hp.le
  · rintro (he | he)
    · have := mul_right_cancel₀ hp.ne' he
      linarith
    · have := mul_right_cancel₀ hp.ne' he
      linarith

end Dyadic

theorem Scaled.value_strip (fuel : ℕ) (d : Scaled) : (d.strip fuel).value = d.value := by
  induction fuel generalizing d with
  | zero => rfl
  | succ fuel ih =>
    rw [strip]
    split
    · next h =>
      rw [ih, value, value]
      have hdigits : (d.digits : ℚ) = (d.digits / 10 : ℕ) * 10 := by
        have := Nat.div_add_mod d.digits 10
        rw [h.2, Nat.add_zero, Nat.mul_comm] at this
        exact_mod_cast this.symm
      rw [hdigits, zpow_add_one₀ (by norm_num)]
      ring
    · rfl

theorem Dyadic.near_shortest {x : Dyadic} (hx : 0 < x.mantissa) (tie : Tie) : x.Near (x.shortest tie).value := by
  simp only [shortest, Scaled.value_strip]
  cases hd : (List.range 17).findSome? fun (n : Nat) => x.onGrid? tie (x.decimalWidth - (n + 1)) with
  | none =>
    rw [Option.getD_none, value_exact]
    exact near_self x
  | some d =>
    obtain ⟨n, -, hn⟩ := List.exists_of_findSome?_eq_some hd
    exact (readsBack_iff hx).mp (readsBack_of_onGrid? hn)

end PromptCad.Decimal
