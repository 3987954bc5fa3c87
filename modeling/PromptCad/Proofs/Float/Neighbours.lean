import PromptCad.Proofs.Float.Estimates

/-! Numbers that are moved a little before they are rounded. A move by one part in `2 ^ 53`, or by less than the least
positive float, ends at the same pattern or at one of its neighbours; so many such moves end at most so many patterns
away. Each rounding is itself such a move. -/

namespace PromptCad.Decimal

def gap (p : ℕ) : ℚ := binary64.value (p + 1) - binary64.value p

theorem exists_gap (p : ℕ) :
    ∃ k m : ℕ, p = k * 2 ^ 52 + m ∧ m < 2 ^ 53 ∧ (k = 0 ∨ 2 ^ 52 ≤ m) ∧
      binary64.value p = m * 2 ^ (-1074 + (k : ℤ)) ∧ gap p = 2 ^ (-1074 + (k : ℤ)) := by
  obtain ⟨k, m, hp, hm, hk⟩ := binary64.exists_pattern p
  change p = k * 2 ^ 52 + m at hp
  change m < 2 ^ 53 at hm
  change k = 0 ∨ 2 ^ 52 ≤ m at hk
  refine ⟨k, m, hp, hm, hk, hp ▸ binary64_value hm.le hk, ?_⟩
  rw [gap, hp, Nat.add_assoc, binary64_value hm.le hk,
    binary64_value hm (hk.imp_right fun h => h.trans (Nat.le_succ m))]
  push_cast
  ring

theorem gap_pos (p : ℕ) : 0 < gap p := sub_pos.mpr (binary64.value_strictMono p.lt_succ_self)

theorem least_le_gap (p : ℕ) : 2 ^ (-1074 : ℤ) ≤ gap p := by
  obtain ⟨k, m, -, -, -, -, hgap⟩ := exists_gap p
  rw [hgap]
  exact zpow_le_zpow_right₀ (by norm_num) (by omega)

theorem value_succ_le (p : ℕ) : binary64.value (p + 1) ≤ 2 ^ 53 * gap p := by
  obtain ⟨k, m, -, hm, -, hvalue, hgap⟩ := exists_gap p
  have hle : (m : ℚ) + 1 ≤ 2 ^ 53 := by exact_mod_cast hm
  have hsum : binary64.value (p + 1) = (m + 1) * 2 ^ (-1074 + (k : ℤ)) := by
    rw [← sub_add_cancel (binary64.value (p + 1)) (binary64.value p), ← gap, hgap, hvalue]
    ring
  rw [hsum, hgap]
  exact mul_le_mul_of_nonneg_right hle (by positivity)

theorem gap_le (p : ℕ) : 2 ^ 52 * gap p ≤ binary64.value p ∨ gap p = 2 ^ (-1074 : ℤ) := by
  obtain ⟨k, m, -, -, hk, hvalue, hgap⟩ := exists_gap p
  rw [hvalue, hgap]
  rcases hk with rfl | hfull
  · right
    rw [Nat.cast_zero, add_zero]
  · left
    have hle : (2 : ℚ) ^ 52 ≤ m := by exact_mod_cast hfull
    exact mul_le_mul_of_nonneg_right hle (by positivity)

theorem gap_succ (p : ℕ) : gap (p + 1) = gap p ∨ gap (p + 1) = 2 * gap p := by
  obtain ⟨k, m, hp, hm, hk, -, hgap⟩ := exists_gap p
  have hsucc : ∀ k' m' : ℕ, p + 1 = k' * 2 ^ 52 + m' → m' < 2 ^ 53 → (k' = 0 ∨ 2 ^ 52 ≤ m') →
      gap (p + 1) = 2 ^ (-1074 + (k' : ℤ)) := by
    intro k' m' hp' hm' hk'
    rw [gap, hp', Nat.add_assoc, binary64_value hm'.le hk',
      binary64_value hm' (hk'.imp_right fun h => h.trans (Nat.le_succ m'))]
    push_cast
    ring
  rcases Nat.lt_or_ge (m + 1) (2 ^ 53) with hlt | hge
  · left
    rw [hsucc k (m + 1) (by omega) hlt (hk.imp_right fun h => by omega), hgap]
  · right
    rw [hsucc (k + 1) (2 ^ 52) (by omega) (by norm_num) (.inr le_rfl), hgap, Nat.cast_succ, ← add_assoc,
      zpow_add_one₀ (by norm_num), mul_comm]

theorem gap_le_succ (p : ℕ) : gap p ≤ gap (p + 1) := by
  have hpos := gap_pos p
  rcases gap_succ p with h | h <;> linarith

/-- The middle of a gap is a smaller part than the way to the middle of the gap before. -/
theorem middle_part_lt (p : ℕ) :
    (binary64.value (p + 1) + binary64.value (p + 2)) / 2 ^ 53 < binary64.value (p + 2) - binary64.value p := by
  have hfirst : gap p = binary64.value (p + 1) - binary64.value p := rfl
  have hsecond : gap (p + 1) = binary64.value (p + 2) - binary64.value (p + 1) := rfl
  have hpos := gap_pos p
  rw [div_lt_iff₀ (by positivity)]
  rcases gap_succ p with h | h
  · have hlarge : binary64.value (p + 2) ≤ 2 ^ 53 * gap (p + 1) := value_succ_le (p + 1)
    linarith
  · have hlarge := value_succ_le p
    linarith

/-- Two numbers that lie so close together that at most one float is between them. -/
inductive Beside (v w : ℚ) : Prop where
  | left (h : |w - v| ≤ v / 2 ^ 53)
  | right (h : |w - v| ≤ w / 2 ^ 53)
  | least (h : |w - v| < 2 ^ (-1074 : ℤ))

/-- The second number is off by a small part of the first. -/
def Close (a b : ℚ) : Prop := |b - a| ≤ a / 2 ^ 53

namespace Close

variable {a b c : ℚ}

theorem pos (h : Close a b) (ha : 0 < a) : 0 < b := by
  have hpart : a / 2 ^ 53 < a := div_lt_self ha (by norm_num)
  linarith [(abs_le.mp h).1]

theorem beside_mul (h : Close a b) (hc : 0 ≤ c) : Beside (a * c) (b * c) := by
  refine .left ?_
  rw [← sub_mul, abs_mul, abs_of_nonneg hc, mul_div_right_comm]
  exact mul_le_mul_of_nonneg_right h hc

theorem beside_div (h : Close a b) (hc : 0 ≤ c) : Beside (a / c) (b / c) := by
  rw [div_eq_mul_inv, div_eq_mul_inv]
  exact h.beside_mul (inv_nonneg.mpr hc)

theorem beside_div_left (h : Close a b) (ha : 0 < a) (hc : 0 ≤ c) : Beside (c / a) (c / b) := by
  have hb := h.pos ha
  refine .right ?_
  have hsub : c / b - c / a = c / b * ((a - b) / a) := by field_simp
  have hpart : |(a - b) / a| ≤ 1 / 2 ^ 53 := by
    rw [abs_div, abs_of_pos ha, div_le_iff₀ ha, abs_sub_comm, one_div_mul_eq_div]
    exact h
  rw [hsub, abs_mul, abs_of_nonneg (div_nonneg hc hb.le), div_eq_mul_one_div (c / b) (2 ^ 53)]
  exact mul_le_mul_of_nonneg_left hpart (div_nonneg hc hb.le)

end Close

theorem Beside.symm {v w : ℚ} (h : Beside v w) : Beside w v := by
  rcases h with h | h | h
  · exact .right (by rwa [abs_sub_comm])
  · exact .left (by rwa [abs_sub_comm])
  · exact .least (by rwa [abs_sub_comm])

namespace BinaryFormat.Rounds

variable {v w : ℚ} {p q : ℕ}

theorem le_middle (h : binary64.Rounds v p) (hp : p < binary64.infinity) :
    2 * v ≤ binary64.value p + binary64.value (p + 1) := by
  by_contra hc
  exact lt_irrefl p (h.lt_of_middle_lt hp (not_le.mp hc))

theorem middle_le (h : binary64.Rounds v (p + 1)) : binary64.value p + binary64.value (p + 1) ≤ 2 * v := by
  by_contra hc
  exact absurd (h.le_of_lt_middle ((Nat.le_succ p).trans h.le) (not_le.mp hc)) (Nat.not_succ_le_self p)

theorem le_succ_of_left (hv : binary64.Rounds v p) (hw : binary64.Rounds w q)
    (h : w - v ≤ v / 2 ^ 53 ∨ w - v < 2 ^ (-1074 : ℤ)) : q ≤ p + 1 := by
  rcases Nat.lt_or_ge p binary64.infinity with hp | hp
  · have hmiddle := hv.le_middle hp
    have hstep : w - v < gap p := by
      rcases h with h | h
      · have hlarge := value_succ_le p
        have hlt := binary64.value_strictMono p.lt_succ_self
        have hpart : v / 2 ^ 53 < gap p := by
          rw [div_lt_iff₀ (by positivity)]
          linarith
        exact h.trans_lt hpart
      · exact h.trans_le (least_le_gap p)
    have hnext := gap_le_succ p
    refine hw.le_of_lt_middle hp ?_
    unfold gap at hstep hnext
    linarith
  · exact hw.le.trans (hp.trans (Nat.le_succ p))

theorem le_succ_of_right (hv : binary64.Rounds v p) (hw : binary64.Rounds w q)
    (h : v - w ≤ v / 2 ^ 53 ∨ v - w < 2 ^ (-1074 : ℤ)) : p ≤ q + 1 := by
  rcases Nat.lt_or_ge p 2 with hp | hp
  · omega
  · obtain ⟨n, rfl⟩ := Nat.exists_eq_add_of_le' hp
    have hmiddle : binary64.value (n + 1) + binary64.value (n + 2) ≤ 2 * v := hv.middle_le
    have hle := hv.le
    refine Nat.succ_le_succ (Nat.succ_le_of_lt (hw.lt_of_middle_lt (by omega) ?_))
    rcases h with h | h
    · have hpart := middle_part_lt n
      linarith
    · have hleast := least_le_gap n
      have hnext := gap_le_succ n
      unfold gap at hleast hnext
      linarith

theorem le_succ_of_beside (hv : binary64.Rounds v p) (hw : binary64.Rounds w q) (h : Beside v w) : q ≤ p + 1 := by
  rcases h with h | h | h
  · exact hv.le_succ_of_left hw (.inl (abs_le.mp h).2)
  · exact hw.le_succ_of_right hv (.inl (abs_le.mp h).2)
  · exact hv.le_succ_of_left hw (.inr (abs_lt.mp h).2)

theorem mono (hp : binary64.Rounds v p) (hq : binary64.Rounds w q) (h : v ≤ w) : p ≤ q := by
  by_contra hc
  obtain ⟨n, rfl⟩ := Nat.exists_eq_succ_of_ne_zero (Nat.ne_zero_of_lt (Nat.not_le.mp hc))
  have hqn : q ≤ n := Nat.lt_succ_iff.mp (Nat.not_le.mp hc)
  have hle := hp.le
  have hlow := hq.le_middle (by omega)
  have hhigh := hp.middle_le
  rcases hqn.lt_or_eq with hlt | rfl
  · have h1 := binary64.value_strictMono hlt
    have h2 := binary64.value_strictMono (Nat.succ_lt_succ hlt)
    simp only [Nat.succ_eq_add_one] at h2
    linarith
  · -- both numbers are in the middle, and both patterns are even, but one comes right after the other
    have hstep := binary64.value_strictMono q.lt_succ_self
    simp only [Nat.succ_eq_add_one] at hstep
    obtain rfl : v = w := by linarith
    have htie : |binary64.value q - v| = |binary64.value (q + 1) - v| := by
      rw [abs_of_neg (by linarith), abs_of_pos (by linarith)]
      linarith
    have h1 := hp.even q (by omega) (by omega) htie
    have h2 := hq.even (q + 1) (by omega) (by omega) htie.symm
    omega

theorem unique (hp : binary64.Rounds v p) (hq : binary64.Rounds v q) : p = q :=
  Nat.le_antisymm (hp.mono hq le_rfl) (hq.mono hp le_rfl)

/-- Rounding is itself a small move, up to the power of two that comes after all finite floats. -/
theorem beside (h : binary64.Rounds v p) (hv : 0 ≤ v) (hmost : v ≤ 2 ^ (1024 : ℤ)) :
    |binary64.value p - v| ≤ v / 2 ^ 53 ∨ |binary64.value p - v| ≤ 2 ^ (-1074 : ℤ) / 2 := by
  have hsmall : ∀ n, binary64.value n ≤ v → gap n ≤ 2 * (v / 2 ^ 53) ∨ gap n = 2 ^ (-1074 : ℤ) := by
    intro n hn
    refine (gap_le n).imp_left fun h => ?_
    rw [← mul_div_assoc, le_div_iff₀ (by positivity)]
    linarith
  rcases le_or_gt (binary64.value p) v with hle | hgt
  · have hhalf : 2 * (v - binary64.value p) ≤ gap p := by
      rcases Nat.lt_or_ge p binary64.infinity with hp | hp
      · have hmiddle := h.le_middle hp
        unfold gap
        linarith
      · have hgap := gap_pos p
        have hlast := binary64.value_strictMono.monotone hp
        rw [value_infinity] at hlast
        linarith
    rw [abs_of_nonpos (by linarith)]
    rcases hsmall p hle with h | h
    · exact .inl (by linarith)
    · exact .inr (by linarith)
  · cases p with
    | zero =>
      rw [binary64_value_zero] at hgt
      exact absurd hv (not_le.mpr hgt)
    | succ n =>
      have hmiddle := h.middle_le
      have hbelow : binary64.value n ≤ v := by linarith
      rw [abs_of_pos (by linarith)]
      rcases hsmall n hbelow with h | h <;> unfold gap at h
      · exact .inl (by linarith)
      · exact .inr (by linarith)

end BinaryFormat.Rounds

section Nearest

variable {z : Float} {v : ℚ}

theorem Nearest.rounds_of_nonneg (h : Nearest z v) (hv : 0 ≤ v) : binary64.Rounds v (magnitude z) := by
  have hrounds := h.rounds
  rwa [abs_of_nonneg hv] at hrounds

theorem Nearest.abs_sub (h : Nearest z v) : |exactValue z - v| = |binary64.value (magnitude z) - (|v|)| := by
  rw [← abs_exactValue]
  rcases le_total 0 v with hv | hv
  · rw [abs_of_nonneg (h.nonneg hv), abs_of_nonneg hv]
  · rw [abs_of_nonpos (h.nonpos hv), abs_of_nonpos hv, neg_sub_neg, abs_sub_comm]

theorem Nearest.beside (h : Nearest z v) (hmost : |v| ≤ 2 ^ (1024 : ℤ)) :
    |exactValue z - v| ≤ |v| / 2 ^ 53 ∨ |exactValue z - v| ≤ 2 ^ (-1074 : ℤ) / 2 := by
  rw [h.abs_sub]
  exact h.rounds.beside (abs_nonneg v) hmost

theorem Nearest.beside_div (h : Nearest z v) (hv : 0 ≤ v) (hmost : v ≤ 2 ^ (1024 : ℤ)) {c : ℚ} (hc : 1 ≤ c) :
    Beside (v / c) (exactValue z / c) := by
  have hnear := h.beside ((abs_of_nonneg hv).trans_le hmost)
  rw [abs_of_nonneg hv] at hnear
  rcases hnear with hclose | hleast
  · exact Close.beside_div hclose (by positivity)
  · refine .least ?_
    rw [← sub_div, abs_div, abs_of_pos (zero_lt_one.trans_le hc)]
    calc |exactValue z - v| / c ≤ |exactValue z - v| := div_le_self (abs_nonneg _) hc
      _ ≤ 2 ^ (-1074 : ℤ) / 2 := hleast
      _ < 2 ^ (-1074 : ℤ) := half_lt_self (by positivity)

/-- What rounding to a finite float changes: a small part of a number, and less than the least float. -/
theorem Nearest.error_le (h : Nearest z v) (hz : z.isFinite = true) :
    |exactValue z - v| ≤ |v| / 2 ^ 53 + 2 ^ (-1074 : ℤ) / 2 := by
  have hpart : 0 ≤ |v| / 2 ^ 53 := by positivity
  have hleast : (0 : ℚ) ≤ 2 ^ (-1074 : ℤ) / 2 := by positivity
  rcases h.beside (h.abs_lt hz).le with h | h <;> linarith

theorem Nearest.relative (h : Nearest z v) (hleast : 2 ^ (-1022 : ℤ) ≤ v) (hmost : v ≤ 2 ^ (1024 : ℤ)) :
    Close v (exactValue z) := by
  have hpower : (2 : ℚ) ^ (-1074 : ℤ) / 2 = 2 ^ (-1022 : ℤ) / 2 ^ 53 := by
    rw [show (-1022 : ℤ) = -1074 + 52 by norm_num, zpow_add₀ (by norm_num)]
    generalize (2 : ℚ) ^ (-1074 : ℤ) = least
    norm_num
    ring
  have hpart : (2 : ℚ) ^ (-1022 : ℤ) / 2 ^ 53 ≤ v / 2 ^ 53 := div_le_div_of_nonneg_right hleast (by positivity)
  have hnonneg : 0 ≤ v := le_trans (by positivity) hleast
  have hbeside := h.beside ((abs_of_nonneg hnonneg).trans_le hmost)
  rw [abs_of_nonneg hnonneg] at hbeside
  exact hbeside.elim id fun hsmall => (hpower ▸ hsmall).trans hpart

end Nearest

theorem exists_fraction {v : ℚ} (hv : 0 ≤ v) : ∃ num den : ℕ, 0 < den ∧ (num : ℚ) / den = v := by
  have hnum : ((v.num.toNat : ℕ) : ℚ) = v.num := by exact_mod_cast Int.toNat_of_nonneg (Rat.num_nonneg.mpr hv)
  exact ⟨v.num.toNat, v.den, v.den_pos, by rw [hnum, Rat.num_div_den]⟩

theorem exists_rounds {v : ℚ} (hv : 0 ≤ v) : ∃ p, binary64.Rounds v p := by
  obtain ⟨num, den, hden, rfl⟩ := exists_fraction hv
  exact ⟨_, binary64.nearest_rounds (by decide) (by decide) num hden⟩

/-- All numbers of the interval of a float are rounded to it. -/
theorem rounds_of_near {n : ℕ} (hpos : 0 < n) (hn : n < binary64.infinity) {v : ℚ} (hv : 0 < v)
    (h : (binary64.dyadic n).Near v) : binary64.Rounds v n := by
  obtain ⟨num, den, hden, rfl⟩ := exists_fraction hv.le
  have hnum : 0 < num := Nat.pos_of_ne_zero fun hzero => by
    rw [hzero, Nat.cast_zero, zero_div] at hv
    exact lt_irrefl 0 hv
  have hnearest := Dyadic.nearest_of_near (isFloat_dyadic hpos hn) hnum hden h
  rw [dyadic_bits] at hnearest
  exact hnearest ▸ binary64.nearest_rounds (by decide) (by decide) num hden

/-- So many small moves at most lead from one number to another. -/
inductive Moved : ℕ → ℚ → ℚ → Prop
  | refl (n : ℕ) (v : ℚ) : Moved n v v
  | step {n : ℕ} {u v w : ℚ} (hmoved : Moved n u v) (hnonneg : 0 ≤ v) (hbeside : Beside v w) : Moved (n + 1) u w

theorem Moved.near {n : ℕ} {v w : ℚ} (h : Moved n v w) {p q : ℕ} (hv : binary64.Rounds v p)
    (hw : binary64.Rounds w q) : q ≤ p + n ∧ p ≤ q + n := by
  induction h generalizing q with
  | refl n v =>
    obtain rfl := hv.unique hw
    omega
  | step hmoved hnonneg hbeside ih =>
    obtain ⟨r, hr⟩ := exists_rounds hnonneg
    have hbefore := ih hv hr
    have hup := hr.le_succ_of_beside hw hbeside
    have hdown := hw.le_succ_of_beside hr hbeside.symm
    omega

end PromptCad.Decimal
