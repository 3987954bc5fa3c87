import PromptCad.Proofs.Float.Exact

/-! The shortest decimal of a float has seventeen digits at most. The grid of that many digits is no coarser than the
floats are, so that one of the neighbours of a float on it reads back. -/

namespace PromptCad.Decimal

section Powers

variable {i j : ℤ}

/-- Thirty-one decimal digits make less than 103 binary digits, and 28 make more than 93. -/
theorem ten_zpow_le_two_zpow (h : 103 * i ≤ 31 * j) (h' : 93 * i ≤ 28 * j) : (10 : ℚ) ^ i ≤ 2 ^ j := by
  rcases le_or_gt 0 j with hj | hj
  · obtain ⟨n, rfl⟩ := Int.eq_ofNat_of_zero_le hj
    rw [← pow_le_pow_iff_left₀ (by positivity) (by positivity) (show 103 ≠ 0 by norm_num), ← zpow_natCast, ← zpow_mul]
    calc (10 : ℚ) ^ (i * (103 : ℕ)) ≤ 10 ^ (31 * (n : ℤ)) := zpow_le_zpow_right₀ (by norm_num) (by push_cast; omega)
      _ = (10 ^ 31) ^ n := by rw [zpow_mul, zpow_natCast, zpow_ofNat]
      _ ≤ (2 ^ 103) ^ n := pow_le_pow_left₀ (by norm_num) (by norm_num) n
      _ = (2 ^ (n : ℤ)) ^ 103 := by rw [zpow_natCast, ← pow_mul, ← pow_mul, Nat.mul_comm]
  · obtain ⟨n, hn⟩ := Int.eq_ofNat_of_zero_le (a := -j) (by omega)
    obtain rfl : j = -(n : ℤ) := by omega
    rw [← pow_le_pow_iff_left₀ (by positivity) (by positivity) (show 93 ≠ 0 by norm_num), ← zpow_natCast, ← zpow_mul]
    calc (10 : ℚ) ^ (i * (93 : ℕ)) ≤ 10 ^ (28 * -(n : ℤ)) := zpow_le_zpow_right₀ (by norm_num) (by push_cast; omega)
      _ = ((10 ^ 28) ^ n)⁻¹ := by rw [zpow_mul, zpow_neg, zpow_natCast, zpow_ofNat]
      _ ≤ ((2 ^ 93) ^ n)⁻¹ := inv_anti₀ (by positivity) (pow_le_pow_left₀ (by norm_num) (by norm_num) n)
      _ = (2 ^ (-(n : ℤ))) ^ 93 := by rw [zpow_neg, zpow_natCast, inv_pow, ← pow_mul, ← pow_mul, Nat.mul_comm]

theorem two_zpow_le_ten_zpow (h : 31 * j ≤ 103 * i) (h' : 28 * j ≤ 93 * i) : (2 : ℚ) ^ j ≤ 10 ^ i := by
  have hinverse := ten_zpow_le_two_zpow (i := -i) (j := -j) (by omega) (by omega)
  rw [zpow_neg, zpow_neg] at hinverse
  exact (inv_le_inv₀ (by positivity) (by positivity)).mp hinverse

end Powers

namespace Dyadic

variable {x : Dyadic}

theorem IsFloat.log2_bounds (hx : x.IsFloat) :
    -1074 ≤ (x.mantissa.log2 : ℤ) + x.exponent ∧ (x.mantissa.log2 : ℤ) + x.exponent ≤ 1023 ∧
      (2 : ℚ) ^ ((x.mantissa.log2 : ℤ) + x.exponent) ≤ x.value ∧
      x.value < 2 ^ ((x.mantissa.log2 : ℤ) + x.exponent + 1) := by
  have hlog := (Nat.log2_lt hx.pos.ne').mpr hx.lt
  have hleast := hx.least
  have hgreatest := hx.greatest
  have hlow : (2 : ℚ) ^ x.mantissa.log2 ≤ x.mantissa := by exact_mod_cast Nat.log2_self_le hx.pos.ne'
  have hhigh : (x.mantissa : ℚ) < 2 ^ (x.mantissa.log2 + 1) := by exact_mod_cast Nat.lt_log2_self
  refine ⟨by omega, by omega, ?_, ?_⟩
  · rw [zpow_add₀ (by norm_num), zpow_natCast]
    exact mul_le_mul_of_nonneg_right hlow (by positivity)
  · rw [add_right_comm, zpow_add₀ (by norm_num), ← Nat.cast_succ, zpow_natCast]
    exact mul_lt_mul_of_pos_right hhigh (by positivity)

theorem IsFloat.decimalWidth_bounds (hx : x.IsFloat) :
    (10 : ℚ) ^ (x.decimalWidth - 1) ≤ x.value ∧ x.value < 10 ^ x.decimalWidth := by
  obtain ⟨hleast, hgreatest, hlow, hhigh⟩ := hx.log2_bounds
  have hbelow : ∀ k, (compareScaled 1 k x.mantissa x.exponent == .gt) = true ↔ x.value < 10 ^ k := by
    intro k
    rw [beq_iff_eq, compareScaled_gt, Nat.cast_one, one_mul, value]
  have hestimate : ∀ a : ℤ, Int.fdiv (a * 30103) 100000 = a * 30103 / 100000 := fun a =>
    Int.fdiv_eq_ediv_of_nonneg _ (by norm_num)
  simp only [decimalWidth, hbelow, hestimate]
  generalize (x.mantissa.log2 : ℤ) + x.exponent = l at *
  generalize ht : l * 30103 / 100000 = t
  split
  · next h =>
    exact ⟨(ten_zpow_le_two_zpow (by omega) (by omega)).trans hlow, h⟩
  · next h0 =>
    split
    · next h => exact ⟨by rw [add_sub_cancel_right]; exact not_lt.mp h0, h⟩
    · next h1 =>
      split
      · next h => exact ⟨le_trans (by ring_nf; rfl) (not_lt.mp h1), h⟩
      · next h2 =>
        refine ⟨le_trans (by ring_nf; rfl) (not_lt.mp h2), hhigh.trans_le (two_zpow_le_ten_zpow (by omega) (by omega))⟩

theorem gridFloor_bounds (x : Dyadic) (g : ℤ) :
    x.gridFloor g * (10 : ℚ) ^ g ≤ x.value ∧ x.value < (x.gridFloor g + 1) * 10 ^ g := by
  have hden := x.den_pos
  have hpos : 0 < x.den * 10 ^ g.toNat := by positivity
  have hpos' : (0 : ℚ) < (x.den * 10 ^ g.toNat : ℕ) := by exact_mod_cast hpos
  have hratio : ((x.num * 10 ^ (-g).toNat : ℕ) : ℚ) / (x.den * 10 ^ g.toNat : ℕ) = x.value / 10 ^ g := by
    have hden' : (x.den : ℚ) ≠ 0 := by exact_mod_cast hden.ne'
    rw [value_eq_div, ← pow_toNat_div 10 g]
    push_cast
    field_simp
  have hsum := Nat.div_add_mod (x.num * 10 ^ (-g).toNat) (x.den * 10 ^ g.toNat)
  have hmod := Nat.mod_lt (x.num * 10 ^ (-g).toNat) hpos
  have hpower : (0 : ℚ) < 10 ^ g := by positivity
  rw [← le_div_iff₀ hpower, ← div_lt_iff₀ hpower, ← hratio, le_div_iff₀ hpos', div_lt_iff₀ hpos']
  rw [gridFloor]
  constructor
  · exact_mod_cast Nat.div_mul_le_self _ _
  · exact_mod_cast (Nat.div_lt_iff_lt_mul hpos).mp (Nat.lt_succ_self _)

theorem near_of_ge {v : ℚ} (hlow : x.value ≤ v) (hhigh : v < (x.mantissa + 1 / 2) * 2 ^ x.exponent) : x.Near v := by
  have hend : (x.mantissa - x.reachBelow) * 2 ^ x.exponent < x.value :=
    mul_lt_mul_of_pos_right (by linarith [x.reachBelow_pos]) (by positivity)
  exact ⟨by linarith, hhigh.le, fun he => he.elim (fun he => by linarith) fun he => by linarith⟩

theorem near_of_le {v : ℚ} (hlow : (x.mantissa - x.reachBelow) * 2 ^ x.exponent < v) (hhigh : v ≤ x.value) :
    x.Near v := by
  have hend : x.value < (x.mantissa + 1 / 2) * 2 ^ x.exponent :=
    mul_lt_mul_of_pos_right (by linarith) (by positivity)
  exact ⟨hlow.le, by linarith, fun he => he.elim (fun he => by linarith) fun he => by linarith⟩

/-- On a grid that is no coarser than the floats one of two neighbours of a value reads back. -/
theorem IsFloat.near_grid (hx : x.IsFloat) {a b : ℚ} (ha : a ≤ x.value) (hb : x.value ≤ b)
    (hgrid : (b - a) * 10 ^ 16 ≤ x.value) : x.Near a ∨ x.Near b := by
  have hunit : (0 : ℚ) < 2 ^ x.exponent := by positivity
  have hvalue : x.value = x.mantissa * 2 ^ x.exponent := rfl
  rcases lt_or_ge b ((x.mantissa + 1 / 2) * 2 ^ x.exponent) with hlt | hge
  · exact .inr (near_of_ge hb hlt)
  · left
    refine near_of_le ?_ ha
    have hmantissa : x.value ≤ 2 ^ 53 * 2 ^ x.exponent :=
      mul_le_mul_of_nonneg_right (by exact_mod_cast hx.lt.le) hunit.le
    unfold reachBelow
    split
    · next hnarrow =>
      -- below a power of two the floats are closer, but then the neighbour above is near enough
      have hpower : x.mantissa = 2 ^ 52 := by
        simp only [narrowBelow, Bool.and_eq_true, decide_eq_true_eq] at hnarrow
        exact hnarrow.1
      rw [hpower] at hvalue hge
      push_cast at hvalue hge
      linarith
    · linarith

theorem IsFloat.onGrid?_ne_none (hx : x.IsFloat) (tie : Tie) {g : ℤ} (hg : (10 : ℚ) ^ g * 10 ^ 16 ≤ x.value) :
    x.onGrid? tie g ≠ none := by
  obtain ⟨hlow, hhigh⟩ := x.gridFloor_bounds g
  have hnear : x.Near (Scaled.value ⟨x.gridFloor g, g⟩) ∨ x.Near (Scaled.value ⟨x.gridFloor g + 1, g⟩) := by
    refine hx.near_grid hlow (by push_cast [Scaled.value]; exact hhigh.le) ?_
    push_cast [Scaled.value]
    linarith
  rw [← readsBack_iff hx.pos, ← readsBack_iff hx.pos] at hnear
  unfold onGrid?
  dsimp only
  rcases hnear with h | h <;> rw [h]
  · cases x.readsBack ⟨x.gridFloor g + 1, g⟩ <;> exact Option.some_ne_none _
  · cases x.readsBack ⟨x.gridFloor g, g⟩ <;> exact Option.some_ne_none _

theorem digits_onGrid?_le {tie : Tie} {g : ℤ} {d : Scaled} (h : x.onGrid? tie g = some d) :
    d.digits ≤ x.gridFloor g + 1 := by
  unfold onGrid? at h
  dsimp only at h
  cases hlow : x.readsBack ⟨x.gridFloor g, g⟩ <;> cases hhigh : x.readsBack ⟨x.gridFloor g + 1, g⟩ <;>
    rw [hlow, hhigh] at h
  · cases h
  · exact (congrArg Scaled.digits (Option.some.inj h)).ge
  · exact (congrArg Scaled.digits (Option.some.inj h)).ge.trans (Nat.le_succ _)
  · refine (congrArg Scaled.digits (Option.some.inj h)).ge.trans ?_
    rcases x.nearer_eq tie (x.gridFloor g) g with hnearer | hnearer
    · exact hnearer.le.trans (Nat.le_succ _)
    · exact hnearer.le

theorem IsFloat.gridFloor_lt (hx : x.IsFloat) (n : ℕ) : x.gridFloor (x.decimalWidth - n) < 10 ^ n := by
  have hpower : (0 : ℚ) < 10 ^ (x.decimalWidth - n) := by positivity
  have hsplit : (10 : ℚ) ^ x.decimalWidth = 10 ^ n * 10 ^ (x.decimalWidth - n) := by
    rw [← zpow_natCast, ← zpow_add₀ (by norm_num), add_sub_cancel]
  have hlt := (x.gridFloor_bounds (x.decimalWidth - n)).1.trans_lt hx.decimalWidth_bounds.2
  rw [hsplit, mul_lt_mul_iff_left₀ hpower] at hlt
  exact_mod_cast hlt

end Dyadic

theorem Scaled.digits_strip_le (fuel : ℕ) (d : Scaled) : (d.strip fuel).digits ≤ d.digits := by
  induction fuel generalizing d with
  | zero => exact le_rfl
  | succ fuel ih =>
    rw [strip]
    split
    · exact (ih _).trans (Nat.div_le_self _ _)
    · exact le_rfl

/-- Seventeen digits suffice for every float. -/
theorem Dyadic.IsFloat.digits_shortest_le {x : Dyadic} (hx : x.IsFloat) (tie : Tie) :
    (x.shortest tie).digits ≤ 10 ^ 17 := by
  have hlast : x.onGrid? tie (x.decimalWidth - ((16 : ℕ) + 1)) ≠ none := by
    refine hx.onGrid?_ne_none tie (le_trans ?_ hx.decimalWidth_bounds.1)
    rw [← zpow_ofNat, ← zpow_add₀ (by norm_num)]
    exact zpow_le_zpow_right₀ (by norm_num) (by omega)
  unfold shortest
  dsimp only
  refine (Scaled.digits_strip_le _ _).trans ?_
  cases hfound : (List.range 17).findSome? fun (n : ℕ) => x.onGrid? tie (x.decimalWidth - (n + 1)) with
  | none => exact absurd (List.findSome?_eq_none_iff.mp hfound 16 (by decide)) hlast
  | some d =>
    obtain ⟨n, hmem, hn⟩ := List.exists_of_findSome?_eq_some hfound
    have hlt := hx.gridFloor_lt (n + 1)
    rw [Nat.cast_succ] at hlt
    calc d.digits ≤ x.gridFloor (x.decimalWidth - (n + 1)) + 1 := digits_onGrid?_le hn
      _ ≤ 10 ^ (n + 1) := hlt
      _ ≤ 10 ^ 17 := Nat.pow_le_pow_right (by decide) (List.mem_range.mp hmem)

end PromptCad.Decimal
