import PromptCad.Proofs.Float.Comparison
import PromptCad.Solid

/-! The order of floats. Comparisons with what is not a number fail, so a float between two finite ones is finite; this
is why the measures of a solid that passes its check are. They are positive as well. -/

namespace PromptCad

open Decimal
open Float.Model (UnpackedFloat)

theorem unpack_le_of_le {a b : Float} (h : a ≤ b) : a.toModel.unpack.le b.toModel.unpack = true := by
  have hdec : decide (a.toModel.unpack.le b.toModel.unpack = true) = true := h
  exact of_decide_eq_true hdec

theorem isFinite_of_le_of_le {a b x : Float} (ha : a.isFinite = true) (hb : b.isFinite = true) (hax : a ≤ x)
    (hxb : x ≤ b) : x.isFinite = true := by
  replace ha : a.toModel.unpack.isFinite = true := ha
  replace hb : b.toModel.unpack.isFinite = true := hb
  replace hax := unpack_le_of_le hax
  replace hxb := unpack_le_of_le hxb
  change x.toModel.unpack.isFinite = true
  generalize a.toModel.unpack = a at ha hax
  generalize b.toModel.unpack = b at hb hxb
  generalize x.toModel.unpack = x at hax hxb
  cases x with
  | zero s => rfl
  | finite s m e h => rfl
  | notANumber => cases a <;> cases hax
  | infinity s =>
    cases s with
    | positive =>
      -- nothing finite is above
      cases b with
      | notANumber => cases hb
      | infinity s => cases hb
      | zero s => cases hxb
      | finite s m e h => cases hxb
    | negative =>
      cases a with
      | notANumber => cases ha
      | infinity s => cases ha
      | zero s => cases hax
      | finite s m e h => cases hax

theorem Size.isFinite_of_admits {mm : Float} (h : Size.admits mm = true) : mm.isFinite = true := by
  simp only [Size.admits, Bool.and_eq_true, decide_eq_true_eq] at h
  exact isFinite_of_le_of_le (by decide : Size.least.isFinite = true) (by decide : Size.greatest.isFinite = true)
    h.1 h.2

/-- The admitted sizes are the positive floats between two patterns. -/
theorem Size.admits_iff {x : Float} :
    Size.admits x = true ↔
      isNegative x = false ∧ magnitude Size.least ≤ magnitude x ∧ magnitude x ≤ magnitude Size.greatest := by
  have hleast : Size.least.isFinite = true := by decide
  have hgreatest : Size.greatest.isFinite = true := by decide
  have hleastValue : exactValue Size.least = binary64.value (magnitude Size.least) :=
    exactValue_eq_value (by decide)
  have hgreatestValue : exactValue Size.greatest = binary64.value (magnitude Size.greatest) :=
    exactValue_eq_value (by decide)
  have hpos : 0 < binary64.value (magnitude Size.least) := by
    rw [← binary64_value_zero]
    exact binary64.value_strictMono (by decide)
  simp only [Size.admits, Bool.and_eq_true, decide_eq_true_eq]
  constructor
  · rintro ⟨hlow, hhigh⟩
    have hfinite := isFinite_of_le_of_le hleast hgreatest hlow hhigh
    rw [le_iff_exactValue hleast hfinite, hleastValue] at hlow
    rw [le_iff_exactValue hfinite hgreatest, hgreatestValue] at hhigh
    have hsign : isNegative x = false := by
      by_contra hnegative
      rw [Bool.not_eq_false] at hnegative
      rw [exactValue, if_pos hnegative] at hlow
      exact absurd (hpos.trans_le hlow) (not_lt.mpr (neg_nonpos.mpr (binary64_value_nonneg _)))
    rw [exactValue_eq_value hsign] at hlow hhigh
    exact ⟨hsign, binary64.value_strictMono.le_iff_le.mp hlow, binary64.value_strictMono.le_iff_le.mp hhigh⟩
  · rintro ⟨hsign, hlow, hhigh⟩
    have hfinite : x.isFinite = true := (isFinite_iff x).mpr (hhigh.trans_lt (by decide))
    rw [le_iff_exactValue hleast hfinite, le_iff_exactValue hfinite hgreatest, hleastValue, hgreatestValue,
      exactValue_eq_value hsign]
    exact ⟨binary64.value_strictMono.monotone hlow, binary64.value_strictMono.monotone hhigh⟩

theorem Solid.isFinite_of_check {s : Solid} (h : s.check = .ok ()) : ∀ mm ∈ s.measures, mm.isFinite = true :=
  fun mm hmm => Size.isFinite_of_admits (Solid.check_eq_ok.mp h mm hmm)

end PromptCad
