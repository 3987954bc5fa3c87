import PromptCad.Proofs.Float.Order
import PromptCad.Proofs.Json.Number

/-! Measures of an admitted size are written with a small power of ten, which is a float itself. They come back as they
are or as a neighbour, and not past the ends of what is admitted. -/

namespace PromptCad.Json

open Decimal

variable {x : Float}

theorem value_writtenAs_bounds (h : Size.admits x = true) :
    (10 : ℚ) ^ (-4 : ℤ) < (writtenAs x).value ∧ (writtenAs x).value < 10 ^ (7 : ℤ) := by
  obtain ⟨-, hlow, hhigh⟩ := Size.admits_iff.mp h
  have hpos : 0 < magnitude x := hlow.trans_lt' (by decide)
  have hrounds := rounds_writtenAs (Size.isFinite_of_admits h) hpos
  constructor
  · by_contra hle
    have hsmall : (writtenAs x).value ≤ binary64.value (1011 * 2 ^ 52 + 2 ^ 52) := by
      rw [value_power]
      exact (not_lt.mp hle).trans (by norm_num)
    exact absurd (hlow.trans (hrounds.le_of_le_value hsmall)) (by decide)
  · by_contra hge
    have hlarge : binary64.value (1042 * 2 ^ 52 + 2 ^ 52) ≤ (writtenAs x).value := by
      rw [value_power]
      exact le_trans (by norm_num) (not_lt.mp hge)
    exact absurd ((hrounds.ge_of_value_le (by decide) hlarge).trans hhigh) (by decide)

theorem exponent_writtenAs_le (h : Size.admits x = true) : (writtenAs x).exponent.natAbs ≤ 22 := by
  obtain ⟨hlow, hhigh⟩ := value_writtenAs_bounds h
  have hpos : 0 < magnitude x := (Size.admits_iff.mp h).2.1.trans_lt' (by decide)
  have hmoderate := moderate_shortest (Size.isFinite_of_admits h) hpos
  rw [writtenAs, value_written] at hlow hhigh
  have hdigits : ((shortest .toEven x).digits : ℚ) ≤ 10 ^ (17 : ℤ) := by exact_mod_cast hmoderate.digits
  have hone : (1 : ℚ) ≤ (shortest .toEven x).digits := by exact_mod_cast hmoderate.pos
  have hupper : (10 : ℚ) ^ (shortest .toEven x).exponent < 10 ^ (7 : ℤ) :=
    (le_mul_of_one_le_left (by positivity) hone).trans_lt hhigh
  have hlower : (10 : ℚ) ^ (-4 : ℤ) < 10 ^ (17 + (shortest .toEven x).exponent) := by
    rw [zpow_add₀ (by norm_num)]
    exact hlow.trans_le (mul_le_mul_of_nonneg_right hdigits (by positivity))
  have hmost := (zpow_lt_zpow_iff_right₀ (by norm_num)).mp hupper
  have hleast := (zpow_lt_zpow_iff_right₀ (by norm_num)).mp hlower
  rw [writtenAs, written]
  split
  · exact (by decide : (-1 : ℤ).natAbs ≤ 22)
  · omega

/-- A measure comes back as itself or as one of its two neighbours. -/
theorem units_le_one (h : Size.admits x = true) : units x ≤ 1 := by
  have hexponent := exponent_writtenAs_le h
  rw [units, drift, if_pos (hexponent.trans (by decide)), moves, if_pos hexponent]
  split_ifs <;> omega

theorem eq_of_magnitude_eq {y : Float} (hsign : isNegative x = isNegative y) (h : magnitude x = magnitude y) :
    x = y := by
  rw [← ofMagnitude_magnitude x, ← ofMagnitude_magnitude y, hsign, h]

/-- The least and the greatest size come back as they are, so that none is lost. -/
theorem admits_reread (h : Size.admits x = true) : Size.admits (reread x) = true := by
  obtain ⟨hsign, hlow, hhigh⟩ := Size.admits_iff.mp h
  obtain ⟨-, hreturns⟩ := returns_reread (Size.isFinite_of_admits h)
  have hunits := units_le_one h
  have hup := hreturns.up
  have hdown := hreturns.down
  by_cases hends : x = Size.least ∨ x = Size.greatest
  · have hexact : units x = 0 := by
      rcases hends with rfl | rfl <;> decide
    rwa [hreturns.eq_of_units_eq_zero hexact]
  · have hne : magnitude x ≠ magnitude Size.least ∧ magnitude x ≠ magnitude Size.greatest :=
      ⟨fun heq => hends (.inl (eq_of_magnitude_eq (hsign.trans (by decide)) heq)),
        fun heq => hends (.inr (eq_of_magnitude_eq (hsign.trans (by decide)) heq))⟩
    exact Size.admits_iff.mpr ⟨hreturns.sign.trans hsign, by omega, by omega⟩

end PromptCad.Json
