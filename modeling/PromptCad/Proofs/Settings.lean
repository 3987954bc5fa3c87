import PromptCad.Proofs.Except
import PromptCad.Settings

/-! What the check of settings decides. -/

namespace PromptCad

/-- A count that a check admits: positive, not above the greatest, and a multiple of what its direction asks for. -/
structure SegmentCount.Admits (count : SegmentCount) (got : Nat) : Prop where
  positive : 0 < got
  le_greatest : got ≤ greatest
  divides : count.multiple ∣ got

theorem SegmentCount.check_eq_ok {count : SegmentCount} {got : Nat} :
    count.check got = .ok () ↔ count.Admits got := by
  unfold check
  constructor
  · intro h
    split at h
    · cases h
    · next hrange =>
      split at h
      · cases h
      · next hmod => exact ⟨by omega, by omega, Nat.dvd_of_mod_eq_zero (by omega)⟩
  · rintro ⟨hpos, hle, hdvd⟩
    rw [if_neg (by omega), if_neg (by simpa using Nat.mod_eq_zero_of_dvd hdvd)]

structure Resolution.Valid (r : Resolution) : Prop where
  cylinder : SegmentCount.cylinder.Admits r.cylinder
  latitude : SegmentCount.latitude.Admits r.latitude
  longitude : SegmentCount.longitude.Admits r.longitude

theorem Resolution.check_eq_ok {r : Resolution} : r.check = .ok () ↔ r.Valid := by
  simp only [check, check_bind_eq_ok, SegmentCount.check_eq_ok]
  exact ⟨fun ⟨hc, hlat, hlon⟩ => ⟨hc, hlat, hlon⟩, fun ⟨hc, hlat, hlon⟩ => ⟨hc, hlat, hlon⟩⟩

theorem Resolution.Valid.four_le_cylinder {r : Resolution} (h : r.Valid) : 4 ≤ r.cylinder :=
  Nat.le_of_dvd h.cylinder.positive h.cylinder.divides

theorem Resolution.Valid.two_le_latitude {r : Resolution} (h : r.Valid) : 2 ≤ r.latitude :=
  Nat.le_of_dvd h.latitude.positive h.latitude.divides

theorem Resolution.Valid.four_le_longitude {r : Resolution} (h : r.Valid) : 4 ≤ r.longitude :=
  Nat.le_of_dvd h.longitude.positive h.longitude.divides

structure Settings.Valid (s : Settings) : Prop where
  exported : s.exported.Valid
  preview : s.preview.Valid
  fine : leastExported ≤ s.exported.latitude ∧ leastExported ≤ s.exported.longitude
  limit : 1 ≤ s.primitiveLimit ∧ s.primitiveLimit ≤ greatestLimit

theorem Settings.check_eq_ok {s : Settings} : s.check = .ok () ↔ s.Valid := by
  simp only [check, check_bind_eq_ok, Resolution.check_eq_ok]
  constructor
  · rintro ⟨he, hp, h⟩
    split at h
    · cases h
    · next hfine =>
      split at h
      · cases h
      · next hlimit =>
        simp only [Bool.or_eq_true, decide_eq_true_eq, not_or] at hfine hlimit
        exact ⟨he, hp, by omega, by omega⟩
  · rintro ⟨he, hp, hfine, hlimit⟩
    refine ⟨he, hp, ?_⟩
    rw [if_neg (by simp only [Bool.or_eq_true, decide_eq_true_eq]; omega),
      if_neg (by simp only [Bool.or_eq_true, decide_eq_true_eq]; omega)]
    rfl

theorem Settings.Valid.resolution {s : Settings} (h : s.Valid) (quality : Quality) : (s.resolution quality).Valid := by
  cases quality with
  | exported => exact h.exported
  | preview => exact h.preview

theorem Settings.valid_standard : standard.Valid := check_eq_ok.mp rfl

end PromptCad
